import Conformance.Proofs.Script.Exposure

/-! # What the calls of a script pass

The names of a call are those of all nodes of its argument list, so that a call in an argument has no
name which the outer call lacks. An access to a key gives that key away. By a dot it always does, by a
subscript just if its base has a path.

* `Tree.Passes`: a node stands in the argument list of a call.
* `mem_arguments_iff_passes`: the names of a call.
* `Tree.IsMember`, `Tree.IsSubscript`: a node reads a key off a base, in one of the two notations.
* `Tree.Respelled`: two trees that differ in the notation of one access.
* `Tree.Respelled.exists_shows_exposes`: such trees expose the key alike.
-/

namespace Conformance.Script
open Text
set_option autoImplicit false

variable {key : String} {sinks : List String}

/-! ## What a call passes -/

namespace Tree

/-- The second node stands in the argument list of the first one. -/
def Passes (a d : Tree) : Prop :=
  ∃ arguments, a.child? .arguments = some arguments ∧ arguments.Holds d

variable {a b d t c : Tree}

theorem mem_children_of_child? {f : Field} (h : t.child? f = some c) : c ∈ t.children :=
  List.mem_of_find?_eq_some h

theorem Passes.trans_holds (h : a.Passes b) (hd : b.Holds d) : a.Passes d := by
  obtain ⟨arguments, harguments, hb⟩ := h
  exact ⟨arguments, harguments, hb.trans hd⟩

theorem Passes.holds (h : a.Passes d) : a.Holds d := by
  obtain ⟨arguments, harguments, hd⟩ := h
  exact .inside (mem_children_of_child? harguments) hd

end Tree

theorem mem_arguments_iff_passes {call : Tree} {name : String} :
    name ∈ (callSite call).arguments ↔ ∃ d, call.Passes d ∧ name ∈ argumentNames d := by
  unfold callSite Tree.Passes
  rw [Names.mem_ofList]
  cases call.child? .arguments with
  | none => simp
  | some arguments =>
    simp only [List.mem_flatMap, Tree.mem_walk_iff, Option.some.injEq, exists_eq_left']

/-- A call in what another one passes has no name that the other one lacks. -/
theorem mem_arguments_of_passes {call inner : Tree} (h : call.Passes inner) {name : String}
    (hname : name ∈ (callSite inner).arguments) : name ∈ (callSite call).arguments := by
  obtain ⟨d, hd, hmention⟩ := mem_arguments_iff_passes.1 hname
  exact mem_arguments_iff_passes.2 ⟨d, h.trans_holds hd.holds, hmention⟩

/-! ## Accesses -/

namespace Tree

/-- The node reads the key off the base by a dot. -/
structure IsMember (t base : Tree) (key : String) : Prop where
  kind_eq : t.kind = .memberExpression
  object_eq : t.child? .object = some base
  property_eq : ∃ p, t.child? .property = some p ∧ p.kind = .propertyIdentifier ∧ p.text = key

/-- The node reads the key off the base by a subscript, which is a text literal. -/
structure IsSubscript (t base : Tree) (key : String) : Prop where
  kind_eq : t.kind = .subscriptExpression
  object_eq : t.child? .object = some base
  index_eq : ∃ p, t.child? .index = some p ∧ p.kind = .string ∧ unquote p.text = key

variable {t base : Tree}

theorem IsMember.exists_holds (h : t.IsMember base key) : ∃ d, t.Holds d ∧ d.Mentions key := by
  -- The name behind the dot is a node of its own, so the base need not have a path.
  obtain ⟨p, hp, hkind, htext⟩ := h.property_eq
  have hname : p.kind.isName = true := by rw [hkind]; rfl
  exact ⟨p, .inside (mem_children_of_child? hp) (.self p), .inl ⟨hname, htext⟩⟩

theorem objectPath?_eq (children : List Tree) :
    objectPath? children = (children.find? fun c => c.field == some .object).bind dotted? := by
  induction children with
  | nil => rfl
  | cons c children ih =>
    rw [objectPath?, List.find?_cons]
    by_cases hfield : c.field = some .object
    · simp [hfield]
    · have hne : (c.field == some .object) = false := by simpa using hfield
      rw [if_neg hfield, ih, hne]

theorem IsSubscript.dotted?_eq (hkey : key ≠ "") (h : t.IsSubscript base key) :
    t.dotted? = base.dotted?.map fun path => path ++ "." ++ key := by
  obtain ⟨kind, field, isNamed, text, row, children⟩ := t
  obtain rfl : kind = .subscriptExpression := h.kind_eq
  obtain ⟨p, hp, hkind, hunquote⟩ := h.index_eq
  have hobject : objectPath? children = base.dotted? := by
    have hbase := h.object_eq
    rw [objectPath?_eq]
    rw [child?, Tree.children] at hbase
    rw [hbase, Option.bind_some]
  have hindex : subscriptKey? children = some key := by
    rw [child?, Tree.children] at hp
    rw [subscriptKey?, hp]
    simp [hkind, hunquote, nonempty?, hkey]
  rw [dotted?, hobject, hindex, extend]
  cases base.dotted? <;> rfl

theorem IsSubscript.mentions_iff (hkey : key ≠ "") (hdot : '.' ∉ key.toList)
    (h : t.IsSubscript base key) : t.Mentions key ↔ ∃ path, base.dotted? = some path := by
  rw [Mentions, h.dotted?_eq hkey, h.kind_eq]
  simp [Kind.isName, lastSegment_extend, lastSegment_eq_self hdot]

theorem IsMember.mem_arguments (hdot : '.' ∉ key.toList) {call : Tree} (hpasses : call.Passes t)
    (h : t.IsMember base key) : key ∈ (callSite call).arguments := by
  obtain ⟨d, hd, hmention⟩ := h.exists_holds
  exact mem_arguments_iff_passes.2
    ⟨d, hpasses.trans_holds hd, (mem_argumentNames_iff hdot).2 hmention⟩

/-! ## One access in two notations -/

/-- An access in either notation, with no call in it outside its base. -/
structure IsAccess (t base : Tree) (key : String) : Prop where
  reads : t.IsMember base key ∨ t.IsSubscript base key
  no_call : ∀ c ∈ t.children, c ≠ base → ∀ d, c.Holds d → d.kind ≠ .callExpression

theorem IsAccess.kind_eq (h : t.IsAccess base key) :
    t.kind = .memberExpression ∨ t.kind = .subscriptExpression :=
  h.reads.imp IsMember.kind_eq IsSubscript.kind_eq

theorem IsAccess.base_mem (h : t.IsAccess base key) : base ∈ t.children :=
  mem_children_of_child? (h.reads.elim IsMember.object_eq IsSubscript.object_eq)

/-- The second tree is the first one with one access to the key in the other notation, or in the same
one. The base of the access has a path, and the callees around it read as before. -/
inductive Respelled (key : String) : Tree → Tree → Prop
  | access {t t' base : Tree} {path : String} : base.dotted? = some path → t.IsAccess base key →
      t'.IsAccess base key → t.field = t'.field → Respelled key t t'
  | inside {t t' c c' : Tree} {front back : List Tree} : t.kind = t'.kind → t.field = t'.field →
      t.children = front ++ c :: back → t'.children = front ++ c' :: back →
      (t.kind = .callExpression → callee t = callee t') → Respelled key c c' → Respelled key t t'

variable {t' c c' call : Tree} {front back : List Tree}

theorem Respelled.symm (h : Respelled key t t') : Respelled key t' t := by
  induction h with
  | access hbase h h' hfield => exact .access hbase h' h hfield.symm
  | inside hkind hfield ht ht' hcallee _ ih =>
    exact .inside hkind.symm hfield.symm ht' ht (fun h => (hcallee (hkind ▸ h)).symm) ih

theorem Respelled.field_eq (h : Respelled key t t') : t.field = t'.field := by
  cases h with
  | access _ _ _ hfield => exact hfield
  | inside _ hfield => exact hfield

/-- An access is no parameter list. -/
theorem Respelled.kind_ne (h : Respelled key t t') (hkind : t.kind ≠ .formalParameters) :
    t'.kind ≠ .formalParameters := by
  cases h with
  | access _ _ h' _ => rcases h'.kind_eq with h | h <;> simp [h]
  | inside hsame => rwa [← hsame]

/-- The first child under a field name is the same, or it is the respelled one. -/
theorem exists_child?_of_inside {f : Field} {e : Tree} (hfield : c.field = c'.field)
    (ht : t.children = front ++ c :: back) (ht' : t'.children = front ++ c' :: back)
    (he : t.child? f = some e) : ∃ e', t'.child? f = some e' ∧ (e = e' ∨ e = c ∧ e' = c') := by
  unfold child? at he ⊢
  rw [ht, List.find?_append, List.find?_cons] at he
  rw [ht', List.find?_append, List.find?_cons, ← hfield]
  cases hfront : front.find? fun c => c.field == some f with
  | some e' =>
    rw [hfront, Option.some_or] at he
    exact ⟨e', rfl, .inl (Option.some.inj he).symm⟩
  | none =>
    rw [hfront, Option.none_or] at he
    cases hc : c.field == some f with
    | true =>
      rw [hc] at he
      exact ⟨c', rfl, .inr ⟨(Option.some.inj he).symm, rfl⟩⟩
    | false =>
      rw [hc] at he
      exact ⟨e, he, .inl rfl⟩

section

variable (hkey : key ≠ "") (hdot : '.' ∉ key.toList)
include hkey hdot

theorem Respelled.exists_holds (h : Respelled key t t') : ∃ d, t.Holds d ∧ d.Mentions key := by
  induction h with
  | access hbase h _ _ =>
    rcases h.reads with hmember | hsubscript
    · exact hmember.exists_holds
    · exact ⟨_, .self _, (hsubscript.mentions_iff hkey hdot).2 ⟨_, hbase⟩⟩
  | inside _ _ ht _ _ _ ih =>
    obtain ⟨d, hd, hmention⟩ := ih
    exact ⟨d, .inside (by rw [ht]; simp) hd, hmention⟩

/-- A call around the access passes the key in either notation. -/
theorem Respelled.exposes (h : Respelled key t t') (hexposes : t.Exposes sinks key) :
    t'.Exposes sinks key := by
  obtain ⟨hcall, hsink, arguments, harguments, hmentions⟩ := hexposes
  cases h with
  | access _ h _ _ =>
    rcases h.kind_eq with hkind | hkind <;> rw [hkind] at hcall <;> cases hcall
  | inside hkind hfield ht ht' hcallee h =>
    obtain ⟨arguments', harguments', hsame⟩ := exists_child?_of_inside h.field_eq ht ht' harguments
    refine ⟨hkind ▸ hcall, hcallee hcall ▸ hsink, arguments', harguments', ?_⟩
    -- Either nothing has changed in the argument list, or the access stands in it.
    rcases hsame with rfl | ⟨-, rfl⟩
    · exact hmentions
    · exact h.symm.exists_holds hkey hdot

theorem Respelled.exists_child_exposes (h : Respelled key t t') (hc : c ∈ t.children)
    (hcall : c.Opens call) (hexposes : call.Exposes sinks key) :
    ∃ c' ∈ t'.children, ∃ call', c'.Opens call' ∧ call'.Exposes sinks key := by
  -- A call below that exposes the key stands beside the way down to the access, and is in both trees,
  -- or on it, and passes the access.
  induction h generalizing c with
  | @access _ _ base _ _ h h' _ =>
    by_cases hbase : c = base
    · exact ⟨base, h'.base_mem, call, hbase ▸ hcall, hexposes⟩
    · exact absurd hexposes.1 (h.no_call c hc hbase call hcall.holds)
  | @inside t t' e e' front back _ _ ht ht' _ h ih =>
    by_cases hce : c = e
    · have he' : e' ∈ t'.children := by rw [ht']; simp
      subst hce
      cases hcall with
      | self => exact ⟨e', he', e', .self e', h.exposes hkey hdot hexposes⟩
      | inside hkind hd hcall =>
        obtain ⟨d', hd', call', hcall', hexposes'⟩ := ih hd hcall
        exact ⟨e', he', call', .inside (h.kind_ne hkind) hd' hcall', hexposes'⟩
    · exact ⟨c, by grind, call, hcall, hexposes⟩

theorem Respelled.exists_shows_exposes (h : Respelled key t t')
    (hexposes : ∃ call, t.Shows call ∧ call.Exposes sinks key) :
    ∃ call, t'.Shows call ∧ call.Exposes sinks key := by
  obtain ⟨call, rfl | ⟨c, hc, hcall⟩, hexposes⟩ := hexposes
  · exact ⟨t', .inl rfl, h.exposes hkey hdot hexposes⟩
  · obtain ⟨c', hc', call', hcall', hexposes'⟩ := h.exists_child_exposes hkey hdot hc hcall hexposes
    exact ⟨call', .inr ⟨c', hc', hcall'⟩, hexposes'⟩

end

end Tree

end Conformance.Script
