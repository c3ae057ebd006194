import Conformance.Settings.Reading

/-! # What settings are read

Settings are read from one mapping, key by key in a fixed order. A setting that is given has to be of
its kind, and one that is not given has its default; no other entry of the value is looked at.

* `Gives`, `Reads`: one setting, and all settings, as a mapping gives them.
* `KeptIn`: the mapping that the settings of a value stand in.
* `Refuses`: the first thing wrong with a value.
* `ofValue_decides`: what is read from a value.
-/

namespace Conformance
set_option autoImplicit false

def Value.texts (l : List String) : Value := .list (l.map Value.str)

/-- The value is of the kind. -/
def SettingKind.Admits : SettingKind → Value → Prop
  | .truth, v => ∃ b, v = .bool b
  | .text, v => ∃ s, v = .str s
  | .names, v => ∃ l, v = .texts l

namespace Settings

variable {α β : Type} {m : Entries} {v : Value} {key : String} {default a : α}
  {kind : SettingKind} {source : Option String} {s : Settings} {e : SettingsError}

/-! ## Kinds -/

theorem texts?_map (l : List String) : texts? (l.map Value.str) = some l := by
  induction l with
  | nil => rfl
  | cons s l ih =>
    show (texts? (l.map Value.str)).map (s :: ·) = some (s :: l)
    rw [ih, Option.map_some]

theorem eq_map_of_texts? {items : List Value} {l : List String} (h : texts? items = some l) :
    items = l.map Value.str := by
  fun_induction texts? items generalizing l with
  | case1 =>
    cases h
    rfl
  | case2 s rest ih =>
    obtain ⟨l', hrest, rfl⟩ := Option.map_eq_some_iff.1 h
    exact congrArg (Value.str s :: ·) (ih hrest)
  | case3 => cases h

theorem texts?_eq_some_iff {items : List Value} {l : List String} :
    texts? items = some l ↔ Value.list items = .texts l := by
  rw [Value.texts, Value.list.injEq]
  constructor
  · exact eq_map_of_texts?
  · rintro rfl
    exact texts?_map l

/-- How the settings of a kind are written as values, and read back. -/
structure Form (α : Type) where
  kind : SettingKind
  write : α → Value
  read? : Value → Option α
  read?_eq_some_iff : ∀ {v a}, read? v = some a ↔ v = write a
  admits_iff : ∀ {v}, kind.Admits v ↔ ∃ a, v = write a

namespace Form

def truth : Form Bool where
  kind := .truth
  write := Value.bool
  read?
    | .bool b => some b
    | _ => none
  read?_eq_some_iff {v b} := by
    constructor
    · intro h
      split at h <;> cases h
      rfl
    · rintro rfl
      rfl
  admits_iff := Iff.rfl

def text : Form String where
  kind := .text
  write := Value.str
  read?
    | .str s => some s
    | _ => none
  read?_eq_some_iff {v s} := by
    constructor
    · intro h
      split at h <;> cases h
      rfl
    · rintro rfl
      rfl
  admits_iff := Iff.rfl

def names : Form (List String) where
  kind := .names
  write := Value.texts
  read?
    | .list items => texts? items
    | _ => none
  read?_eq_some_iff {v l} := by
    constructor
    · intro h
      split at h
      · exact texts?_eq_some_iff.1 h
      · cases h
    · rintro rfl
      exact texts?_eq_some_iff.2 rfl
  admits_iff := Iff.rfl

theorem isSome_read?_iff (f : Form α) : (f.read? v).isSome = true ↔ f.kind.Admits v := by
  rw [Option.isSome_iff_exists, f.admits_iff]
  exact exists_congr fun a => f.read?_eq_some_iff

/-- What is read for a key, faults apart. -/
def setting (f : Form α) (m : Entries) (key : String) (default : α) : α :=
  ((Value.lookup? m key).bind f.read?).getD default

end Form

instance (kind : SettingKind) (v : Value) : Decidable (kind.Admits v) :=
  match kind with
  | .truth => decidable_of_iff _ Form.truth.isSome_read?_iff
  | .text => decidable_of_iff _ Form.text.isSome_read?_iff
  | .names => decidable_of_iff _ Form.names.isSome_read?_iff

/-! ## Single settings -/

/-- The setting, if it is given, is of its kind. -/
def WellTyped (m : Entries) (k : String × SettingKind) : Prop :=
  ∀ v, Value.lookup? m k.1 = some v → k.2.Admits v

/-- The mapping gives this for the key, or else it is the default. -/
def Gives (write : α → Value) (m : Entries) (key : String) (default a : α) : Prop :=
  Value.lookup? m key = some (write a) ∨ Value.lookup? m key = none ∧ a = default

theorem Form.gives_iff (f : Form α) :
    Gives f.write m key default a ↔ WellTyped m (key, f.kind) ∧ a = f.setting m key default := by
  unfold Gives WellTyped Form.setting
  dsimp only
  cases Value.lookup? m key with
  | none => simp
  | some v =>
    simp only [Option.some.injEq, reduceCtorEq, false_and, or_false, forall_eq', Option.bind_some]
    constructor
    · intro hv
      refine ⟨f.admits_iff.2 ⟨a, hv⟩, ?_⟩
      rw [f.read?_eq_some_iff.2 hv, Option.getD_some]
    · rintro ⟨hv, rfl⟩
      obtain ⟨b, hb⟩ := f.admits_iff.1 hv
      rw [f.read?_eq_some_iff.2 hb, Option.getD_some, hb]

/-- What is wrong with the setting, if it is given. -/
def fault? (m : Entries) (k : String × SettingKind) : Option SettingsError :=
  (Value.lookup? m k.1).bind fun v =>
    if k.2.Admits v then none else some (.wrongType k.1 k.2 v)

theorem fault?_eq_none_iff {k : String × SettingKind} : fault? m k = none ↔ WellTyped m k := by
  unfold fault? WellTyped
  cases Value.lookup? m k.1 with
  | none => simp
  | some v => simp

theorem fault?_eq_some_iff {k : String × SettingKind} : fault? m k = some e ↔
    ∃ v, Value.lookup? m k.1 = some v ∧ ¬ k.2.Admits v ∧ .wrongType k.1 k.2 v = e := by
  unfold fault?
  cases Value.lookup? m k.1 with
  | none => simp
  | some v => simp

/-- The result, unless there is a fault. -/
def checked (fault : Option SettingsError) (a : α) : Except SettingsError α :=
  match fault with
  | none => .ok a
  | some e => .error e

/-- Each of the readers has three equations: the setting is absent, or of its kind, or of another. -/
theorem Form.eq_checked (f : Form α) {r : Except SettingsError α}
    (habsent : Value.lookup? m key = none → r = .ok default)
    (hgiven : ∀ a, Value.lookup? m key = some (f.write a) → r = .ok a)
    (hfault : ∀ v, Value.lookup? m key = some v → ¬ f.kind.Admits v →
      r = .error (.wrongType key f.kind v)) :
    r = checked (fault? m (key, f.kind)) (f.setting m key default) := by
  unfold fault? Form.setting
  cases hv : Value.lookup? m key with
  | none => exact habsent hv
  | some v =>
    simp only [Option.bind_some]
    by_cases hadmits : f.kind.Admits v
    · obtain ⟨a, ha⟩ := f.admits_iff.1 hadmits
      rw [if_pos hadmits, f.read?_eq_some_iff.2 ha]
      exact hgiven a (by rw [hv, ha])
    · rw [if_neg hadmits]
      exact hfault v hv hadmits

theorem truth_eq (m : Entries) (key : String) (default : Bool) :
    truth m key default = checked (fault? m (key, .truth)) (Form.truth.setting m key default) := by
  refine Form.truth.eq_checked (fun h => ?_) (fun b h => ?_) fun v h hv => ?_
  · rw [truth, h]
  · rw [truth, h]
    rfl
  · rw [truth, h]
    split
    · contradiction
    · next hb => exact absurd ⟨_, Option.some.inj hb⟩ hv
    · next hb => rw [Option.some.inj hb]; rfl

theorem text_eq (m : Entries) (key : String) (default : String) :
    text m key default = checked (fault? m (key, .text)) (Form.text.setting m key default) := by
  refine Form.text.eq_checked (fun h => ?_) (fun b h => ?_) fun v h hv => ?_
  · rw [text, h]
  · rw [text, h]
    rfl
  · rw [text, h]
    split
    · contradiction
    · next hb => exact absurd ⟨_, Option.some.inj hb⟩ hv
    · next hb => rw [Option.some.inj hb]; rfl

theorem names_eq (m : Entries) (key : String) (default : List String) :
    names m key default = checked (fault? m (key, .names)) (Form.names.setting m key default) := by
  refine Form.names.eq_checked (fun h => ?_) (fun l h => ?_) fun v h hv => ?_
  · rw [names, h]
  · rw [names, h]
    dsimp only [Form.names, Value.texts]
    rw [texts?_map]
  · rw [names, h]
    split
    · contradiction
    · next hitems =>
      rw [Option.some.inj hitems] at hv ⊢
      split
      · next hl => exact absurd ⟨_, texts?_eq_some_iff.1 hl⟩ hv
      · rfl
    · next hb => rw [Option.some.inj hb]; rfl

/-! ## All settings -/

/-- The settings that may be given, in the order in which they are looked at. -/
def recognised : List (String × SettingKind) :=
  [("strict", .truth), ("declaration", .truth), ("recover_syntax_errors", .truth),
    ("target", .text), ("language", .text),
    ("log_sinks", .names), ("extra_log_sinks", .names), ("safe_calls", .names)]

/-- The settings as the mapping gives them, the default of each being that of `Settings`. -/
structure Reads (m : Entries) (source : Option String) (s : Settings) : Prop where
  strict : Gives Value.bool m "strict" ({} : Settings).strict s.strict
  declaration : Gives Value.bool m "declaration" ({} : Settings).declaration s.declaration
  recoverSyntaxErrors : Gives Value.bool m "recover_syntax_errors"
    ({} : Settings).recoverSyntaxErrors s.recoverSyntaxErrors
  target : Gives Value.str m "target" ({} : Settings).target s.target
  defaultLanguage : Gives Value.str m "language" ({} : Settings).defaultLanguage s.defaultLanguage
  logSinks : ∃ sinks extra, Gives Value.texts m "log_sinks" ({} : Settings).logSinks sinks ∧
    Gives Value.texts m "extra_log_sinks" [] extra ∧ s.logSinks = sinks ++ extra
  safeCalls : Gives Value.texts m "safe_calls" ({} : Settings).safeCalls s.safeCalls
  source : s.source = source

/-- The settings of a mapping, faults apart. -/
def given (m : Entries) (source : Option String) : Settings where
  strict := Form.truth.setting m "strict" ({} : Settings).strict
  declaration := Form.truth.setting m "declaration" ({} : Settings).declaration
  recoverSyntaxErrors :=
    Form.truth.setting m "recover_syntax_errors" ({} : Settings).recoverSyntaxErrors
  target := Form.text.setting m "target" ({} : Settings).target
  defaultLanguage := Form.text.setting m "language" ({} : Settings).defaultLanguage
  logSinks := Form.names.setting m "log_sinks" ({} : Settings).logSinks ++
    Form.names.setting m "extra_log_sinks" []
  safeCalls := Form.names.setting m "safe_calls" ({} : Settings).safeCalls
  source := source

theorem reads_iff : Reads m source s ↔ (∀ k ∈ recognised, WellTyped m k) ∧ s = given m source := by
  simp only [recognised, List.forall_mem_cons, List.not_mem_nil, false_imp_iff, implies_true,
    and_true]
  constructor
  · rintro ⟨hstrict, hdeclaration, hrecover, htarget, hlanguage, ⟨sinks, extra, hsinks, hextra, heq⟩,
      hsafe, hsource⟩
    obtain ⟨tstrict, hstrict⟩ := Form.truth.gives_iff.1 hstrict
    obtain ⟨tdeclaration, hdeclaration⟩ := Form.truth.gives_iff.1 hdeclaration
    obtain ⟨trecover, hrecover⟩ := Form.truth.gives_iff.1 hrecover
    obtain ⟨ttarget, htarget⟩ := Form.text.gives_iff.1 htarget
    obtain ⟨tlanguage, hlanguage⟩ := Form.text.gives_iff.1 hlanguage
    obtain ⟨tsinks, rfl⟩ := Form.names.gives_iff.1 hsinks
    obtain ⟨textra, rfl⟩ := Form.names.gives_iff.1 hextra
    obtain ⟨tsafe, hsafe⟩ := Form.names.gives_iff.1 hsafe
    refine ⟨⟨tstrict, tdeclaration, trecover, ttarget, tlanguage, tsinks, textra, tsafe⟩, ?_⟩
    cases s
    simp_all [given]
  · rintro ⟨⟨tstrict, tdeclaration, trecover, ttarget, tlanguage, tsinks, textra, tsafe⟩, rfl⟩
    exact ⟨Form.truth.gives_iff.2 ⟨tstrict, rfl⟩, Form.truth.gives_iff.2 ⟨tdeclaration, rfl⟩,
      Form.truth.gives_iff.2 ⟨trecover, rfl⟩, Form.text.gives_iff.2 ⟨ttarget, rfl⟩,
      Form.text.gives_iff.2 ⟨tlanguage, rfl⟩,
      ⟨_, _, Form.names.gives_iff.2 ⟨tsinks, rfl⟩, Form.names.gives_iff.2 ⟨textra, rfl⟩, rfl⟩,
      Form.names.gives_iff.2 ⟨tsafe, rfl⟩, rfl⟩

/-- A reader comes first, and what follows it looks at the other keys. -/
theorem checked_bind {k : String × SettingKind} {rest : List (String × SettingKind)}
    {f : α → Except SettingsError β} {b : β} (h : f a = checked (rest.findSome? (fault? m)) b) :
    checked (fault? m k) a >>= f = checked ((k :: rest).findSome? (fault? m)) b := by
  rw [List.findSome?_cons]
  cases fault? m k with
  | none => exact h
  | some e => rfl

theorem ofEntries_eq (m : Entries) (source : Option String) :
    ofEntries m source = checked (recognised.findSome? (fault? m)) (given m source) := by
  simp only [ofEntries, truth_eq, text_eq, names_eq]
  iterate 8 refine checked_bind ?_
  rfl

theorem ofEntries_eq_ok_iff : ofEntries m source = .ok s ↔ Reads m source s := by
  rw [ofEntries_eq, reads_iff]
  simp only [← fault?_eq_none_iff, ← List.findSome?_eq_none_iff]
  cases recognised.findSome? (fault? m) with
  | none => simp [checked, eq_comm]
  | some e => simp [checked]

theorem ofEntries_eq_error_iff : ofEntries m source = .error e ↔
    ∃ key kind value before after, recognised = before ++ (key, kind) :: after ∧
      (∀ k ∈ before, WellTyped m k) ∧ Value.lookup? m key = some value ∧ ¬ kind.Admits value ∧
      e = .wrongType key kind value := by
  have herror : ofEntries m source = .error e ↔ recognised.findSome? (fault? m) = some e := by
    rw [ofEntries_eq]
    cases recognised.findSome? (fault? m) <;> simp [checked]
  rw [herror, List.findSome?_eq_some_iff]
  simp only [fault?_eq_none_iff, fault?_eq_some_iff]
  constructor
  · rintro ⟨before, ⟨key, kind⟩, after, hsplit, ⟨v, hv, hkind, rfl⟩, hbefore⟩
    exact ⟨key, kind, v, before, after, hsplit, hbefore, hv, hkind, rfl⟩
  · rintro ⟨key, kind, v, before, after, hsplit, hbefore, hv, hkind, rfl⟩
    exact ⟨before, (key, kind), after, hsplit, ⟨v, hv, hkind, rfl⟩, hbefore⟩

theorem ofEntries_congr {m' : Entries}
    (h : ∀ k ∈ recognised, Value.lookup? m' k.1 = Value.lookup? m k.1) :
    ofEntries m' source = ofEntries m source := by
  simp only [recognised, List.forall_mem_cons] at h
  simp only [ofEntries, truth, text, names, h]

/-! ## Values -/

/-- The settings of a value stand in the mapping under `verification`, if there is that key, and else in
the value itself. -/
inductive KeptIn : Value → Entries → Prop
  | top {m : Entries} (h : Value.lookup? m "verification" = none) : KeptIn (.map m) m
  | below {entries m : Entries} (h : Value.lookup? entries "verification" = some (.map m)) :
    KeptIn (.map entries) m
  | itself {m : Entries} (h : Value.lookup? m "verification" = some (.cycle true)) : KeptIn (.map m) m

/-- The first thing wrong with a value. -/
inductive Refuses : Value → SettingsError → Prop
  | noMapping {v : Value} (h : ∀ entries, v ≠ .map entries) : Refuses v .noMapping
  | noVerificationMapping {entries : Entries} {inner : Value}
    (h : Value.lookup? entries "verification" = some inner) (hmap : ∀ m, inner ≠ .map m)
    (hcycle : inner ≠ .cycle true) : Refuses (.map entries) .noVerificationMapping
  | wrongType {v : Value} {m : Entries} {key : String} {kind : SettingKind} {value : Value}
    {before after : List (String × SettingKind)} (hkept : KeptIn v m)
    (hsplit : recognised = before ++ (key, kind) :: after) (hbefore : ∀ k ∈ before, WellTyped m k)
    (hvalue : Value.lookup? m key = some value) (hkind : ¬ kind.Admits value) :
    Refuses v (.wrongType key kind value)

theorem ofValue_of_keptIn (h : KeptIn v m) : ofValue v source = ofEntries m source := by
  cases h with
  | top h => simp only [ofValue, h]
  | below h => simp only [ofValue, h]
  | itself h => simp only [ofValue, h]

theorem ofValue_of_refuses (h : Refuses v e) : ofValue v source = .error e := by
  cases h with
  | noMapping h =>
    unfold ofValue
    split
    · exact absurd rfl (h _)
    · rfl
  | noVerificationMapping h hmap hcycle =>
    unfold ofValue
    dsimp only
    rw [h]
    split
    · contradiction
    · next heq => exact absurd (Option.some.inj heq) hcycle
    · next heq => exact absurd (Option.some.inj heq) (hmap _)
    · rfl
  | wrongType hkept hsplit hbefore hvalue hkind =>
    rw [ofValue_of_keptIn hkept]
    exact ofEntries_eq_error_iff.2 ⟨_, _, _, _, _, hsplit, hbefore, hvalue, hkind, rfl⟩

theorem exists_keptIn_or_refuses (v : Value) : (∃ m, KeptIn v m) ∨ ∃ e, Refuses v e := by
  by_cases hmap : ∃ entries, v = .map entries
  · obtain ⟨entries, rfl⟩ := hmap
    cases h : Value.lookup? entries "verification" with
    | none => exact .inl ⟨entries, .top h⟩
    | some inner =>
      by_cases hinner : ∃ m, inner = .map m
      · obtain ⟨m, rfl⟩ := hinner
        exact .inl ⟨m, .below h⟩
      · by_cases hcycle : inner = .cycle true
        · rw [hcycle] at h
          exact .inl ⟨entries, .itself h⟩
        · exact .inr ⟨_, .noVerificationMapping h (fun m hm => hinner ⟨m, hm⟩) hcycle⟩
  · exact .inr ⟨_, .noMapping fun entries hv => hmap ⟨entries, hv⟩⟩

theorem ofValue_eq_ok_iff : ofValue v source = .ok s ↔ ∃ m, KeptIn v m ∧ Reads m source s := by
  constructor
  · intro hs
    rcases exists_keptIn_or_refuses v with ⟨m, hm⟩ | ⟨e, he⟩
    · rw [ofValue_of_keptIn hm] at hs
      exact ⟨m, hm, ofEntries_eq_ok_iff.1 hs⟩
    · rw [ofValue_of_refuses he] at hs
      cases hs
  · rintro ⟨m, hm, hreads⟩
    rw [ofValue_of_keptIn hm]
    exact ofEntries_eq_ok_iff.2 hreads

theorem ofValue_eq_error_iff : ofValue v source = .error e ↔ Refuses v e := by
  refine ⟨fun he => ?_, ofValue_of_refuses⟩
  rcases exists_keptIn_or_refuses v with ⟨m, hm⟩ | ⟨e', he'⟩
  · rw [ofValue_of_keptIn hm] at he
    obtain ⟨key, kind, value, before, after, hsplit, hbefore, hvalue, hkind, rfl⟩ :=
      ofEntries_eq_error_iff.1 he
    exact .wrongType hm hsplit hbefore hvalue hkind
  · rw [ofValue_of_refuses he'] at he
    cases he
    exact he'

theorem exists_reads_iff : (∃ s, Reads m source s) ↔ ∀ k ∈ recognised, WellTyped m k := by
  simp only [reads_iff, exists_and_left, exists_eq, and_true]

/-! ## Writing settings -/

/-- The settings as a mapping. -/
def entries (s : Settings) : Entries :=
  [(.str "strict", .bool s.strict), (.str "declaration", .bool s.declaration),
    (.str "recover_syntax_errors", .bool s.recoverSyntaxErrors), (.str "target", .str s.target),
    (.str "language", .str s.defaultLanguage), (.str "log_sinks", .texts s.logSinks),
    (.str "safe_calls", .texts s.safeCalls)]

theorem reads_entries (s : Settings) : Reads s.entries s.source s :=
  ⟨.inl rfl, .inl rfl, .inl rfl, .inl rfl, .inl rfl,
    ⟨s.logSinks, [], .inl rfl, .inr ⟨rfl, rfl⟩, (List.append_nil _).symm⟩, .inl rfl, rfl⟩

theorem ofValue_of_keptIn_entries (h : KeptIn v s.entries) : ofValue v s.source = .ok s :=
  ofValue_eq_ok_iff.2 ⟨s.entries, h, reads_entries s⟩

/-- **Settings are read exactly from the mappings of well-typed settings.** Else the first setting of a
wrong type is refused, in the order of `recognised`. Entries that are not recognised, and those beside
`verification`, have no effect; and settings written as a mapping, at the top or under
`verification`, are read back. -/
theorem ofValue_decides (v : Value) (source : Option String) :
    (∀ s, ofValue v source = .ok s ↔ ∃ m, KeptIn v m ∧ Reads m source s) ∧
    ((∃ s, ofValue v source = .ok s) ↔ ∃ m, KeptIn v m ∧ ∀ k ∈ recognised, WellTyped m k) ∧
    (∀ e, ofValue v source = .error e ↔ Refuses v e) ∧
    (∀ m v' m', KeptIn v m → KeptIn v' m' →
      (∀ k ∈ recognised, Value.lookup? m' k.1 = Value.lookup? m k.1) →
      ofValue v' source = ofValue v source) ∧
    ∀ s : Settings, s.source = source → ofValue (.map s.entries) source = .ok s ∧
      ∀ l, Value.lookup? l "verification" = some (.map s.entries) → ofValue (.map l) source = .ok s := by
  refine ⟨fun s => ofValue_eq_ok_iff, ?_, fun e => ofValue_eq_error_iff, ?_, ?_⟩
  · simp only [ofValue_eq_ok_iff]
    rw [exists_comm]
    exact exists_congr fun m => exists_and_left.trans (and_congr_right fun _ => exists_reads_iff)
  · intro m v' m' hm hm' hsame
    rw [ofValue_of_keptIn hm, ofValue_of_keptIn hm']
    exact ofEntries_congr hsame
  · rintro s rfl
    exact ⟨ofValue_of_keptIn_entries (.top rfl), fun l hl => ofValue_of_keptIn_entries (.below hl)⟩

/-- Beside `verification`, even a setting of the wrong type has no effect. -/
theorem ofValue_decides_under_key :
    let inner : Entries := [(.str "extra_log_sinks", .texts ["audit"])]
    let v : Value := .record [("strict", .null), ("verification", .map inner)]
    let noted : Value := .map (inner ++ [(.str "note", .null)])
    let faulty : Value := .record [("safe_calls", .null), ("declaration", .int 1)]
    (∃ s, ofValue v none = .ok s ∧ s.logSinks = ({} : Settings).logSinks ++ ["audit"]) ∧
      ofValue noted none = ofValue v none ∧
      ofValue faulty none = .error (.wrongType "declaration" .truth (.int 1)) := by
  intro inner v noted faulty
  have hkept : KeptIn v inner := .below rfl
  refine ⟨⟨{ ({} : Settings) with logSinks := ({} : Settings).logSinks ++ ["audit"] }, ?_, rfl⟩, ?_, ?_⟩
  · refine ((ofValue_decides v none).1 _).2 ⟨inner, hkept, ?_⟩
    exact ⟨.inr ⟨rfl, rfl⟩, .inr ⟨rfl, rfl⟩, .inr ⟨rfl, rfl⟩, .inr ⟨rfl, rfl⟩, .inr ⟨rfl, rfl⟩,
      ⟨_, ["audit"], .inr ⟨rfl, rfl⟩, .inl rfl, rfl⟩, .inr ⟨rfl, rfl⟩, rfl⟩
  · refine (ofValue_decides v none).2.2.2.1 inner noted _ hkept (.top rfl) ?_
    simp only [recognised, List.forall_mem_cons]
    exact ⟨rfl, rfl, rfl, rfl, rfl, rfl, rfl, rfl, by simp⟩
  · have hsplit : recognised =
        [("strict", .truth)] ++ ("declaration", .truth) :: recognised.drop 2 := rfl
    refine ((ofValue_decides faulty none).2.2.1 _).2 (.wrongType (.top rfl) hsplit ?_ rfl (by decide))
    intro k hk v hv
    cases List.mem_singleton.1 hk
    cases hv

end Settings

end Conformance
