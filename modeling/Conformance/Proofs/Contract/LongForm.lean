import Mathlib.Data.List.Forall2
import Conformance.Proofs.Contract.RoundTrip

/-! # Short and long forms of contracts

A unit in exchange form may be written out: short forms replaced by what they stand for, any of them and
anywhere, and fields that were left out given with their defaults.

* `Value.LongerRecord`, `Contract.LongerSection`: a record and a section, written out.
* `Contract.Longer`, `Implementation.Longer`: a contract and a unit, written out.
* `Contract.read_of_longer`, `Implementation.read_of_longer`: the same is read, down to every complaint
  and its place.
* `Implementation.eq_of_longer`: in what `Implementation.toValue` writes nothing is left to write out.
-/

namespace Conformance
set_option autoImplicit false

/-! ## Records written out -/

namespace Value

/-- The entries of a record. -/
def textKeyed (fields : List (String × Value)) : List (Scalar × Value) :=
  fields.map fun f => (.str f.1, f.2)

/-- The entry as it was, or under the same name with a value that `longer` allows there. -/
def LongerEntry (longer : String → Value → Value → Prop) (e e' : Scalar × Value) : Prop :=
  e' = e ∨ ∃ name v w, e = (.str name, v) ∧ e' = (.str name, w) ∧ longer name v w

/-- A mapping with some of its values written out, and behind them some of the fields that it leaves
out, with their defaults. -/
inductive LongerRecord (longer : String → Value → Value → Prop) (defaults : List (String × Value)) :
    Value → Value → Prop
  | intro {entries entries' : List (Scalar × Value)} {added : List (String × Value)}
      (hentries : List.Forall₂ (LongerEntry longer) entries entries')
      (hadded : ∀ f ∈ added, defaults.lookup f.1 = some f.2 ∧ lookup? entries f.1 = none) :
      LongerRecord longer defaults (.map entries) (.map (entries' ++ textKeyed added))

section

variable {entries entries' : List (Scalar × Value)} {fields : List (String × Value)} {name : String}

theorem lookup?_cons (e : Scalar × Value) :
    lookup? (e :: entries) name = if hasTextKey name e then some e.2 else lookup? entries name := by
  unfold lookup?
  rw [List.find?_cons]
  cases hasTextKey name e <;> rfl

theorem lookup?_append (more : List (Scalar × Value)) :
    lookup? (entries ++ more) name = (lookup? entries name).or (lookup? more name) := by
  unfold lookup?
  rw [List.find?_append]
  cases entries.find? (hasTextKey name) <;> rfl

theorem mem_of_lookup?_textKeyed {v : Value} (h : lookup? (textKeyed fields) name = some v) :
    (name, v) ∈ fields := by
  induction fields with
  | nil => cases h
  | cons f rest ih =>
    have hcons : lookup? (textKeyed (f :: rest)) name =
        if f.1 == name then some f.2 else lookup? (textKeyed rest) name := lookup?_cons (Scalar.str f.1, f.2)
    rw [hcons] at h
    by_cases hname : f.1 = name
    · rw [if_pos (beq_iff_eq.2 hname)] at h
      obtain rfl := Option.some.inj h
      rw [← hname]
      exact List.mem_cons_self
    · rw [if_neg (fun heq => hname (beq_iff_eq.1 heq))] at h
      exact List.mem_cons_of_mem _ (ih h)

/-- Under each name stands the same, or its longer form. -/
theorem rel_lookup?_of_longer {longer : String → Value → Value → Prop} (name : String)
    (h : List.Forall₂ (LongerEntry longer) entries entries') :
    Option.Rel (fun v w => w = v ∨ longer name v w) (lookup? entries name) (lookup? entries' name) := by
  induction h with
  | nil => exact .none
  | @cons e e' rest rest' he _ ih =>
    rw [lookup?_cons, lookup?_cons]
    rcases he with rfl | ⟨key, v, w, rfl, rfl, hlonger⟩
    · by_cases hkey : hasTextKey name e' = true
      · rw [if_pos hkey, if_pos hkey]
        exact .some (.inl rfl)
      · rw [if_neg hkey, if_neg hkey]
        exact ih
    · by_cases hkey : key = name
      · subst hkey
        have hhere (x : Value) : hasTextKey key (.str key, x) = true := beq_self_eq_true key
        rw [if_pos (hhere v), if_pos (hhere w)]
        exact .some (.inr hlonger)
      · have hother (x : Value) : ¬ hasTextKey name (.str key, x) = true := by
          intro heq
          exact hkey (beq_iff_eq.1 heq)
        rw [if_neg (hother v), if_neg (hother w)]
        exact ih

end

end Value

namespace Checked

open Value

variable {α : Type} {read : Value → Checked α}

/-- A field is read alike if its longer forms are, and if its default is what is read where it is left
out. -/
theorem field_of_longer {longer : String → Value → Value → Prop} {defaults added : List (String × Value)}
    {name : String} {default : Option α} {entries entries' : Entries}
    (hentries : List.Forall₂ (LongerEntry longer) entries entries')
    (hadded : ∀ f ∈ added, defaults.lookup f.1 = some f.2 ∧ lookup? entries f.1 = none)
    (hlonger : ∀ v w, longer name v w → read w = read v)
    (hdefault : (defaults.lookup name).map read = default.map ok) :
    field name read default (entries' ++ textKeyed added) = field name read default entries := by
  have hrel := rel_lookup?_of_longer name hentries
  unfold field
  rw [lookup?_append]
  cases hv : lookup? entries name with
  | some v =>
    rw [hv] at hrel
    generalize lookup? entries' name = found at hrel
    cases hrel with
    | @some _ w hvw =>
      have hread : read w = read v := by
        rcases hvw with rfl | hvw
        · rfl
        · exact hlonger v w hvw
      show under (.key name) (read w) = under (.key name) (read v)
      rw [hread]
  | none =>
    rw [hv] at hrel
    generalize lookup? entries' name = found at hrel
    cases hrel
    rw [Option.none_or]
    cases hd : lookup? (textKeyed added) name with
    | none => rfl
    | some d =>
      rw [(hadded _ (mem_of_lookup?_textKeyed hd)).1] at hdefault
      cases default with
      | none => cases hdefault
      | some a =>
        have hread : read d = ok a := Option.some.inj hdefault
        show under (.key name) (read d) = ok a
        rw [hread]
        rfl

theorem each_of_forall₂ {items items' : List Value} (i : Nat)
    (h : List.Forall₂ (fun v w => read w = read v) items items') :
    each read i items' = each read i items := by
  induction h generalizing i with
  | nil => rfl
  | cons hvw _ ih => rw [each, each, hvw, ih]

theorem each_map_left (f : Value → Value) (i : Nat) (items : List Value) :
    each read i (items.map f) = each (read ∘ f) i items := by
  induction items generalizing i with
  | nil => rfl
  | cons v rest ih =>
    rw [List.map_cons, each, each, ih]
    rfl

end Checked

open Checked Value

/-! ## Contracts written out -/

namespace Contract

/-- A section written out: null is the empty list, and any items may be written out. -/
inductive LongerSection (longer : Value → Value → Prop) : Value → Value → Prop
  | null : LongerSection longer .null (.list [])
  | items {items items' : List Value} (h : List.Forall₂ (fun v w => w = v ∨ longer v w) items items') :
      LongerSection longer (.list items) (.list items')

/-- A bare text is a record with its description. -/
inductive LongerClause : Value → Value → Prop
  | text (s : String) : LongerClause (.str s) (.record [("description", .str s)])

inductive LongerAdvisory : Value → Value → Prop
  | text (s : String) : LongerAdvisory (.str s) (.record [("description", .str s)])
  | record {v w : Value}
      (h : LongerRecord (fun _ _ _ => False) [("resolved", .bool false)] v w) : LongerAdvisory v w

def LongerMode : Value → Value → Prop :=
  LongerRecord (fun _ _ _ => False) [("handling_strategy", .str "")]

/-- A mapping from error types to their handling is the list of its entries, in their order. -/
inductive LongerFails : Value → Value → Prop
  | listed {v w : Value} (h : LongerSection LongerMode v w) : LongerFails v w
  | mapping (entries : List (Scalar × Value)) :
      LongerFails (.map entries) (.list (entries.map fun e =>
        .record [("error_type", .scalar e.1), ("handling_strategy", e.2)]))

def clauseNames : List String := ["requires", "on_success", "on_failure", "invariants"]

inductive LongerField : String → Value → Value → Prop
  | clauses {name : String} {v w : Value} (hname : name ∈ clauseNames)
      (h : LongerSection LongerClause v w) : LongerField name v w
  | fails {name : String} {v w : Value} (hname : name = "fails") (h : LongerFails v w) :
      LongerField name v w
  | advisories {name : String} {v w : Value} (hname : name = "advisories")
      (h : LongerSection LongerAdvisory v w) : LongerField name v w

def defaults : List (String × Value) :=
  [("requires", .list []), ("on_success", .list []), ("on_failure", .list []),
    ("invariants", .list []), ("fails", .list []), ("advisories", .list [])]

def Longer : Value → Value → Prop := LongerRecord LongerField defaults

end Contract

namespace Implementation

def defaults : List (String × Value) :=
  [("purpose", .str ""), ("contract", .map []), ("implementation_text", .str ""),
    ("implementation_path", .null), ("language", .str "typescript")]

/-- A unit written out: its contract is, and fields that it leaves out are given. -/
def Longer : Value → Value → Prop :=
  LongerRecord (fun name v w => name = "contract" ∧ Contract.Longer v w) defaults

end Implementation

/-! ## The same is read -/

namespace Contract

section

variable {α : Type} {item : Value → Checked α} {longer : Value → Value → Prop} {v w : Value}

/-- A section is read item by item, and null as if there were none. -/
theorem LongerSection.read_eq (read : Value → Checked (List α)) (hnull : read .null = read (.list []))
    (hlist : ∀ items, read (.list items) = each item 0 items)
    (hitem : ∀ v w, longer v w → item w = item v) (h : LongerSection longer v w) :
    read w = read v := by
  cases h with
  | null => exact hnull.symm
  | items h =>
    rw [hlist, hlist]
    refine each_of_forall₂ 0 (h.imp fun v w hvw => ?_)
    rcases hvw with rfl | hvw
    · rfl
    · exact hitem v w hvw

theorem list_longSection_eq (hitem : ∀ v w, longer v w → item (longEntry w) = item (longEntry v))
    (h : LongerSection longer v w) : list item (longSection w) = list item (longSection v) :=
  h.read_eq (fun v => list item (longSection v)) rfl (fun items => each_map_left longEntry 0 items)
    hitem

end

theorem readClause_of_longer (v w : Value) (h : LongerClause v w) :
    readClause (longEntry w) = readClause (longEntry v) := by
  cases h
  rfl

end Contract

theorem FailureMode.read_of_longer (v w : Value) (h : Contract.LongerMode v w) : read w = read v := by
  cases h with
  | @intro entries entries' added hentries hadded =>
    have htype : field "error_type" string none (entries' ++ textKeyed added) =
        field "error_type" string none entries :=
      field_of_longer hentries hadded (fun _ _ h => h.elim) rfl
    have hhandling : field "handling_strategy" string (some "") (entries' ++ textKeyed added) =
        field "handling_strategy" string (some "") entries :=
      field_of_longer hentries hadded (fun _ _ h => h.elim) rfl
    show FailureMode.mk <$> field "error_type" string none (entries' ++ textKeyed added)
      <*> field "handling_strategy" string (some "") (entries' ++ textKeyed added) = _
    rw [htype, hhandling]
    rfl

theorem Advisory.read_of_longer (v w : Value) (h : Contract.LongerAdvisory v w) :
    read (Contract.longEntry w) = read (Contract.longEntry v) := by
  cases h with
  | text s => rfl
  | record h =>
    cases h with
    | @intro entries entries' added hentries hadded =>
      have hdescription : field "description" string none (entries' ++ textKeyed added) =
          field "description" string none entries :=
        field_of_longer hentries hadded (fun _ _ h => h.elim) rfl
      have hresolved : field "resolved" truth (some false) (entries' ++ textKeyed added) =
          field "resolved" truth (some false) entries :=
        field_of_longer hentries hadded (fun _ _ h => h.elim) rfl
      show Advisory.mk <$> field "description" string none (entries' ++ textKeyed added)
        <*> field "resolved" truth (some false) (entries' ++ textKeyed added) = _
      rw [hdescription, hresolved]
      rfl

namespace Contract

section

variable {name : String} {v w : Value}

theorem LongerField.of_clauses (h : LongerField name v w) (hname : name ∈ clauseNames) :
    LongerSection LongerClause v w := by
  cases h with
  | clauses _ h => exact h
  | fails hfails =>
    rw [hfails] at hname
    exact absurd hname (by decide)
  | advisories hadvisories =>
    rw [hadvisories] at hname
    exact absurd hname (by decide)

theorem LongerField.of_fails (h : LongerField "fails" v w) : LongerFails v w := by
  cases h with
  | clauses hname => exact absurd hname (by decide)
  | fails _ h => exact h
  | advisories hname => exact absurd hname (by decide)

theorem LongerField.of_advisories (h : LongerField "advisories" v w) :
    LongerSection LongerAdvisory v w := by
  cases h with
  | clauses hname => exact absurd hname (by decide)
  | fails hname => exact absurd hname (by decide)
  | advisories _ h => exact h

theorem fails_of_longer (h : LongerFails v w) :
    list FailureMode.read (longFails w) = list FailureMode.read (longFails v) := by
  cases h with
  | listed h =>
    exact h.read_eq (fun v => list FailureMode.read (longFails v)) rfl (fun _ => rfl)
      FailureMode.read_of_longer
  | mapping entries => rfl

end

theorem read_of_longer (v w : Value) (h : Longer v w) : read w = read v := by
  cases h with
  | @intro entries entries' added hentries hadded =>
    have hfails : field "fails" (fun v => list FailureMode.read (longFails v)) (some [])
          (entries' ++ textKeyed added) =
        field "fails" (fun v => list FailureMode.read (longFails v)) (some []) entries :=
      field_of_longer hentries hadded (fun _ _ h => fails_of_longer h.of_fails) rfl
    have hadvisories : field "advisories" (fun v => list Advisory.read (longSection v)) (some [])
          (entries' ++ textKeyed added) =
        field "advisories" (fun v => list Advisory.read (longSection v)) (some []) entries :=
      field_of_longer hentries hadded
        (fun _ _ h => list_longSection_eq Advisory.read_of_longer h.of_advisories) rfl
    have hclauses {name : String} (hname : name ∈ clauseNames) :
        clauses name (entries' ++ textKeyed added) = clauses name entries := by
      refine field_of_longer hentries hadded
        (fun _ _ h => list_longSection_eq readClause_of_longer (h.of_clauses hname)) ?_
      simp only [clauseNames, List.mem_cons, List.not_mem_nil, or_false] at hname
      rcases hname with rfl | rfl | rfl | rfl <;> rfl
    have hread (es : Entries) : read (.map es) = Contract.mk <$> clauses "requires" es
        <*> clauses "on_success" es <*> clauses "on_failure" es <*> clauses "invariants" es
        <*> field "fails" (fun v => list FailureMode.read (longFails v)) (some []) es
        <*> field "advisories" (fun v => list Advisory.read (longSection v)) (some []) es := rfl
    rw [hread, hread, hfails, hadvisories, hclauses (by decide), hclauses (by decide),
      hclauses (by decide), hclauses (by decide)]

end Contract

theorem Implementation.read_of_longer (v w : Value) (h : Longer v w) : read w = read v := by
  cases h with
  | @intro entries entries' added hentries hadded =>
    have hcontract : field "contract" Contract.read (some Contract.empty)
          (entries' ++ textKeyed added) =
        field "contract" Contract.read (some Contract.empty) entries :=
      field_of_longer hentries hadded (fun v w h => Contract.read_of_longer v w h.2) rfl
    have hother {α : Type} (name : String) (item : Value → Checked α) (default : Option α)
        (hname : name ≠ "contract") (hdefault : (defaults.lookup name).map item = default.map ok) :
        field name item default (entries' ++ textKeyed added) = field name item default entries :=
      field_of_longer hentries hadded (fun _ _ h => absurd h.1 hname) hdefault
    have hread (es : Entries) : read (.map es) = Implementation.mk <$> field "id" string none es
        <*> field "purpose" string (some "") es
        <*> field "contract" Contract.read (some Contract.empty) es
        <*> field "implementation_text" string (some "") es
        <*> field "implementation_path" stringOrNull (some none) es
        <*> field "language" (choice Language.ofName?) (some .typescript) es := rfl
    rw [hread, hread, hcontract, hother "id" string none (by decide) rfl,
      hother "purpose" string (some "") (by decide) rfl,
      hother "implementation_text" string (some "") (by decide) rfl,
      hother "implementation_path" stringOrNull (some none) (by decide) rfl,
      hother "language" (choice Language.ofName?) (some .typescript) (by decide) rfl]

/-! ## What is written is long -/

namespace Value

theorem lookup?_textKeyed_ne_none {fields : List (String × Value)} {name : String}
    (h : name ∈ fields.map Prod.fst) : lookup? (textKeyed fields) name ≠ none := by
  intro hnone
  obtain ⟨f, hf, rfl⟩ := List.mem_map.1 h
  unfold lookup? at hnone
  rw [Option.map_eq_none_iff, List.find?_eq_none] at hnone
  exact hnone (.str f.1, f.2) (List.mem_map_of_mem hf) (beq_self_eq_true f.1)

/-- A record with every field, and each of them in its only form, is in its only form. -/
theorem LongerRecord.eq {longer : String → Value → Value → Prop} {fields defaults : List (String × Value)}
    {w : Value} (h : LongerRecord longer defaults (record fields) w)
    (hfields : ∀ name v, (name, v) ∈ fields → ∀ w, longer name v w → w = v)
    (hnames : defaults.map Prod.fst ⊆ fields.map Prod.fst) : w = record fields := by
  generalize hv : record fields = v at h
  cases h with
  | @intro entries entries' added hentries hadded =>
    obtain rfl : textKeyed fields = entries := Value.map.inj hv
    have hnone : added = [] := by
      refine List.eq_nil_iff_forall_not_mem.2 fun f hf => ?_
      obtain ⟨hdefault, habsent⟩ := hadded f hf
      obtain ⟨before, after, hsplit, -⟩ := List.lookup_eq_some_iff.1 hdefault
      have hname : f.1 ∈ defaults.map Prod.fst := by
        rw [hsplit]
        simp
      exact lookup?_textKeyed_ne_none (hnames hname) habsent
    have hsame : entries' = textKeyed fields := by
      clear hv hnames hadded
      induction fields generalizing entries' with
      | nil =>
        cases hentries
        rfl
      | cons f rest ih =>
        cases hentries with
        | @cons _ e' _ rest' he hrest =>
          have hfirst := hfields f.1 f.2 List.mem_cons_self
          have hbehind := fun name v hv => hfields name v (List.mem_cons_of_mem f hv)
          have hhead : e' = (.str f.1, f.2) := by
            rcases he with rfl | ⟨name, v, w, hold, rfl, hlonger⟩
            · rfl
            · obtain ⟨hname, rfl⟩ := Prod.mk.inj hold
              obtain rfl := Scalar.str.inj hname
              rw [hfirst w hlonger]
          rw [hhead, ih hbehind hrest]
          rfl
    rw [hnone, hsame]
    show Value.map (textKeyed fields ++ []) = .map (textKeyed fields)
    rw [List.append_nil]

end Value

namespace Contract

theorem LongerSection.eq {longer : Value → Value → Prop} {items : List Value} {w : Value}
    (h : LongerSection longer (.list items) w)
    (hitems : ∀ v ∈ items, ∀ w, longer v w → w = v) : w = .list items := by
  cases h with
  | @items _ items' h =>
    have hsame : items' = items := by
      induction h with
      | nil => rfl
      | cons hvw _ ih =>
        obtain ⟨hv, hitems⟩ := List.forall_mem_cons.1 hitems
        rw [ih hitems]
        rcases hvw with rfl | hvw
        · rfl
        · rw [hv _ hvw]
    rw [hsame]

theorem eq_of_longerClause (s : String) (w : Value) (h : LongerClause (clauseValue s) w) :
    w = clauseValue s := by
  cases h

theorem eq_of_longerMode (f : FailureMode) (w : Value) (h : LongerMode f.toValue w) :
    w = f.toValue :=
  h.eq (fun _ _ _ _ h => h.elim) (by simp)

theorem eq_of_longerAdvisory (a : Advisory) (w : Value) (h : LongerAdvisory a.toValue w) :
    w = a.toValue := by
  generalize hv : a.toValue = v at h
  cases h with
  | text s => cases hv
  | record h =>
    subst hv
    exact h.eq (fun _ _ _ _ h => h.elim) (by simp)

theorem eq_of_longer (c : Contract) (w : Value) (h : Longer c.toValue w) : w = c.toValue := by
  refine LongerRecord.eq h (fun name v hv w hlonger => ?_) (fun name hname => hname)
  have hclauses (texts : List String)
      (h : LongerSection LongerClause (.list (texts.map clauseValue)) w) :
      w = .list (texts.map clauseValue) :=
    h.eq (List.forall_mem_map.2 fun s _ => eq_of_longerClause s)
  simp only [List.mem_cons, Prod.mk.injEq, List.not_mem_nil, or_false] at hv
  rcases hv with ⟨rfl, rfl⟩ | ⟨rfl, rfl⟩ | ⟨rfl, rfl⟩ | ⟨rfl, rfl⟩ | ⟨rfl, rfl⟩ | ⟨rfl, rfl⟩
  · exact hclauses c.requires (hlonger.of_clauses (by decide))
  · exact hclauses c.onSuccess (hlonger.of_clauses (by decide))
  · exact hclauses c.onFailure (hlonger.of_clauses (by decide))
  · exact hclauses c.invariants (hlonger.of_clauses (by decide))
  · cases hlonger.of_fails with
    | listed h => exact h.eq (List.forall_mem_map.2 fun f _ => eq_of_longerMode f)
  · exact hlonger.of_advisories.eq (List.forall_mem_map.2 fun a _ => eq_of_longerAdvisory a)

end Contract

theorem Implementation.eq_of_longer (u : Implementation) (w : Value) (h : Longer u.toValue w) :
    w = u.toValue := by
  refine LongerRecord.eq h (fun name v hv w hlonger => ?_) (by simp [defaults])
  obtain ⟨rfl, hcontract⟩ := hlonger
  obtain rfl : v = u.contract.toValue := by simpa using hv
  exact u.contract.eq_of_longer w hcontract

/-- **One canonical form.** What is written of a unit is read back as that unit, and nothing of it is
left to write out. Writing short forms out, or giving fields that were left out, never changes what is
read: the unit, or the complaints and their places. Results and plans are read back as well. -/
theorem exchange_canonical :
    (∀ u : Implementation, Implementation.read u.toValue = .ok u ∧
      ∀ w, Implementation.Longer u.toValue w → w = u.toValue) ∧
    (∀ v w, Implementation.Longer v w → Implementation.read w = Implementation.read v) ∧
    (∀ r : Result, Result.read r.toValue = .ok r) ∧
    ∀ p : Plan, Plan.read p.toValue = .ok p :=
  ⟨fun u => ⟨u.read_toValue, u.eq_of_longer⟩, Implementation.read_of_longer, Result.read_toValue,
    Plan.read_toValue⟩

/-- A null section, a bare clause and a mapping of failure modes, and a purpose that was left out. -/
theorem exchange_of_short_forms :
    let short : Value := .record [("id", .str "a.b"),
      ("contract", .record [("requires", .null), ("invariants", .list [.str "state holds"]),
        ("fails", .record [("Timeout", .str "retry")])])]
    let long : Value := .record [("id", .str "a.b"),
      ("contract", .record [("requires", .list []),
        ("invariants", .list [.record [("description", .str "state holds")]]),
        ("fails", .list [.record [("error_type", .str "Timeout"),
          ("handling_strategy", .str "retry")]])]),
      ("purpose", .str "")]
    Implementation.Longer short long ∧ Implementation.read long = Implementation.read short ∧
      Implementation.read short = .ok ⟨"a.b", "", ⟨[], [], [], ["state holds"],
        [⟨"Timeout", "retry"⟩], []⟩, "", none, .typescript⟩ := by
  intro short long
  have hcontract : Contract.Longer
      (.record [("requires", .null), ("invariants", .list [.str "state holds"]),
        ("fails", .record [("Timeout", .str "retry")])])
      (.record [("requires", .list []),
        ("invariants", .list [.record [("description", .str "state holds")]]),
        ("fails", .list [.record [("error_type", .str "Timeout"),
          ("handling_strategy", .str "retry")]])]) := by
    refine @LongerRecord.intro _ _ _ _ [] (.cons (.inr ?_) (.cons (.inr ?_) (.cons (.inr ?_) .nil))) ?_
    · exact ⟨"requires", _, _, rfl, rfl, .clauses (by decide) .null⟩
    · refine ⟨"invariants", _, _, rfl, rfl, .clauses (by decide) (.items (.cons (.inr ?_) .nil))⟩
      exact .text "state holds"
    · exact ⟨"fails", _, _, rfl, rfl, .fails rfl (.mapping [(.str "Timeout", .str "retry")])⟩
    · exact List.forall_mem_nil _
  have hlong : Implementation.Longer short long := by
    refine @LongerRecord.intro _ _ _ _ [("purpose", .str "")]
      (.cons (.inl rfl) (.cons (.inr ?_) .nil)) ?_
    · exact ⟨"contract", _, _, rfl, rfl, rfl, hcontract⟩
    · exact List.forall_mem_singleton.2 ⟨rfl, rfl⟩
  exact ⟨hlong, exchange_canonical.2.1 short long hlong, rfl⟩

end Conformance
