import Mathlib.Data.List.Forall2
import Conformance.Proofs.Offside.Exposure

/-! # What the calls of a module pass

The names of a call are those of all nodes that stand in what it passes, so that a call in an
argument has no name which the outer call lacks. An access to a key gives that key away. By a dot it
always does, by a subscript just if its base has a path.

* `Node.Passes`: a node stands in a value that a call passes.
* `mem_arguments_iff_passes`: the names of a call.
* `Node.IsAccess`: a node reads a key off a base, in one of the two notations.
* `Node.Respelled`, `Module.Respelled`: two trees that differ in the notation of one access.
* `Module.Respelled.exists_call_exposes`: such trees expose the key alike.
-/

namespace Conformance.Offside
open Text
set_option autoImplicit false

variable {ν : Type} {key : String} {sinks : List String}

/-! ## What a call passes -/

namespace Node

/-- The first node is a call, and the second one stands in a value that it passes. -/
def Passes : Node ν → Node ν → Prop
  | .call _ _ args keywords, d =>
    ∃ v, (v ∈ args ∨ ∃ name, .keyword name v ∈ keywords) ∧ v.Holds d
  | _, _ => False

variable {a b d : Node ν}

theorem Passes.trans_holds (h : a.Passes b) (hd : b.Holds d) : a.Passes d := by
  cases a with
  | call line func args keywords =>
    obtain ⟨v, hv, hb⟩ := h
    exact ⟨v, hv, hb.trans hd⟩
  | _ => exact h.elim

theorem Passes.holds (h : a.Passes d) : a.Holds d := by
  cases a with
  | call line func args keywords =>
    obtain ⟨v, hv, hd⟩ := h
    exact (holds_of_mem_passedValues (mem_passedValues_iff.2 hv)).trans hd
  | _ => exact h.elim

end Node

section

variable {call : Node ν} {site : Outline.CallSite}

theorem mem_arguments_iff_passes (hcall : callSite? call = some site) {name : String} :
    name ∈ site.arguments ↔ ∃ d, call.Passes d ∧ name ∈ argumentNames d := by
  cases call with
  | call line func args keywords =>
    cases hcall
    simp only [Names.mem_ofList, List.mem_flatMap, Node.mem_preorder_iff, mem_passedValues_iff]
    constructor
    · rintro ⟨v, hv, d, hd, hname⟩
      exact ⟨d, ⟨v, hv, hd⟩, hname⟩
    · rintro ⟨d, ⟨v, hv, hd⟩, hname⟩
      exact ⟨v, hv, d, hd, hname⟩
  | _ => cases hcall

/-- A call in what another one passes has no name that the other one lacks. -/
theorem mem_arguments_of_passes {inner : Node ν} {site' : Outline.CallSite}
    (hcall : callSite? call = some site) (hinner : callSite? inner = some site')
    (h : call.Passes inner) {name : String} (hname : name ∈ site'.arguments) :
    name ∈ site.arguments := by
  obtain ⟨d, hd, hmention⟩ := (mem_arguments_iff_passes hinner).1 hname
  exact (mem_arguments_iff_passes hcall).2 ⟨d, h.trans_holds hd.holds, hmention⟩

end

/-! ## Accesses -/

theorem mem_path_of_key (hdot : '.' ∉ key.toList) (path : String) :
    key ∈ [path ++ "." ++ key, lastSegment (path ++ "." ++ key)] := by
  rw [mem_path_iff hdot, lastSegment_extend, lastSegment_eq_self hdot]

theorem mem_argumentNames_member (hdot : '.' ∉ key.toList) (base : Node ν) :
    key ∈ argumentNames (.member base key) := by
  simp only [argumentNames, Node.dotted?]
  cases base.dotted? with
  | none => exact List.mem_singleton_self key
  | some path => exact mem_path_of_key hdot path

theorem mem_argumentNames_subscript_iff (hdot : '.' ∉ key.toList) (base : Node ν) (marked : Bool) :
    key ∈ argumentNames (.subscript base (.constant (.str key marked))) ↔
      ∃ path, base.dotted? = some path := by
  simp only [argumentNames, Node.dotted?, Node.textKey?]
  cases base.dotted? with
  | none => simp
  | some path => exact ⟨fun _ => ⟨path, rfl⟩, fun _ => mem_path_of_key hdot path⟩

namespace Node

/-- The node reads the key off the base, by a dot or by a subscript. -/
def IsAccess (n base : Node ν) (key : String) : Prop :=
  n = .member base key ∨ ∃ marked, n = .subscript base (.constant (.str key marked))

theorem IsAccess.mem_argumentNames (hdot : '.' ∉ key.toList) {n base : Node ν} {path : String}
    (h : n.IsAccess base key) (hbase : base.dotted? = some path) : key ∈ argumentNames n := by
  rcases h with rfl | ⟨marked, rfl⟩
  · exact mem_argumentNames_member hdot base
  · exact (mem_argumentNames_subscript_iff hdot base marked).2 ⟨path, hbase⟩

/-! ## One access in two notations -/

/-- The node with nothing in the places of the nodes below it. -/
def frame : Node ν → Node ν
  | name id => name id
  | member _ attr => member default attr
  | subscript _ _ => subscript default default
  | constant c => constant c
  | tuple elements => tuple (elements.map fun _ => default)
  | call line _ args keywords =>
    call line default (args.map fun _ => default) (keywords.map fun _ => default)
  | keyword word _ => keyword word default
  | handler line type body => handler line (type.map fun _ => default) (body.map fun _ => default)
  | importModules names => importModules names
  | importFrom module level => importFrom module level
  | function line isAsync word _ body decorators returns =>
    function line isAsync word default (body.map fun _ => default)
      (decorators.map fun _ => default) (returns.map fun _ => default)
  | parameters positionalOnly positional rest keywordOnly keywordDefaults keywords defaults =>
    parameters (positionalOnly.map fun _ => default) (positional.map fun _ => default)
      (rest.map fun _ => default) (keywordOnly.map fun _ => default)
      (keywordDefaults.map (Option.map fun _ => default)) (keywords.map fun _ => default)
      (defaults.map fun _ => default)
  | parameter word hint => parameter word (hint.map fun _ => default)
  | form kind parts => form kind (parts.map (Option.map fun _ => default))

/-- The second tree is the first one with one access to the key in the other notation, or in the same
one. The base of the access has a path, and the callees around it read as before. -/
inductive Respelled (key : String) : Node ν → Node ν → Prop
  | access {n n' base : Node ν} {path : String} : base.dotted? = some path →
      n.IsAccess base key → n'.IsAccess base key → Respelled key n n'
  | inside {n n' c c' : Node ν} {front back : List (Node ν)} : n.frame = n'.frame →
      n.children = front ++ c :: back → n'.children = front ++ c' :: back →
      (callSite? n).map Outline.CallSite.callee = (callSite? n').map Outline.CallSite.callee →
      Respelled key c c' → Respelled key n n'

variable {n n' : Node ν}

theorem Respelled.symm (h : Respelled key n n') : Respelled key n' n := by
  induction h with
  | access hbase h h' => exact .access hbase h' h
  | inside hframe hn hn' hcallee _ ih => exact .inside hframe.symm hn' hn hcallee.symm ih

theorem Respelled.exists_holds (hdot : '.' ∉ key.toList) (h : Respelled key n n') :
    ∃ d, n.Holds d ∧ key ∈ argumentNames d := by
  -- The way down ends at the access, which gives the key away.
  induction h with
  | access hbase h _ => exact ⟨_, .self _, h.mem_argumentNames hdot hbase⟩
  | inside _ hn _ _ _ ih =>
    obtain ⟨d, hd, hkey⟩ := ih
    exact ⟨d, .inside (by rw [hn]; simp) hd, hkey⟩

theorem Respelled.keyword_inv {name : Option String} {v w : Node ν}
    (h : Respelled key (.keyword name v) w) : ∃ v', w = .keyword name v' ∧ Respelled key v v' := by
  cases h with
  | access _ h _ => rcases h with h | ⟨_, h⟩ <;> cases h
  | @inside _ _ c c' front back hframe hn hn' _ h =>
    cases w with
    | keyword name' v' =>
      simp only [frame, keyword.injEq, and_true] at hframe
      subst hframe
      obtain ⟨rfl, rfl, rfl⟩ : front = [] ∧ c = v ∧ back = [] := by
        simpa [children, List.append_eq_singleton_iff, eq_comm] using hn
      obtain rfl : c' = v' := by simpa [children, eq_comm] using hn'
      exact ⟨c', rfl, h⟩
    | _ => simp [frame] at hframe

theorem exists_call_of_frame {line : Nat} {func c c' : Node ν} {args keywords front back : List (Node ν)}
    (hframe : (call line func args keywords).frame = n'.frame)
    (hn : (call line func args keywords).children = front ++ c :: back)
    (hn' : n'.children = front ++ c' :: back) (h : Respelled key c c') :
    ∃ func' args' keywords', n' = .call line func' args' keywords' ∧
      List.Forall₂ (fun a b => a = b ∨ Respelled key a b) args args' ∧
      List.Forall₂ (fun a b => a = b ∨ Respelled key a b) keywords keywords' := by
  cases n' with
  | call line' func' args' keywords' =>
    simp only [frame, call.injEq, true_and] at hframe
    obtain ⟨rfl, hargs, -⟩ := hframe
    have hlength : args.length = args'.length := by simpa using congrArg List.length hargs
    have hparts : List.Forall₂ (fun a b => a = b ∨ Respelled key a b) (front ++ c :: back)
        (front ++ c' :: back) := by
      have hsame : ∀ l : List (Node ν), List.Forall₂ (fun a b => a = b ∨ Respelled key a b) l l :=
        fun l => List.forall₂_same.2 fun _ _ => .inl rfl
      exact List.rel_append (hsame front) (.cons (.inr h) (hsame back))
    rw [← hn, ← hn', children, children, List.forall₂_cons] at hparts
    refine ⟨func', args', keywords', rfl, ?_, ?_⟩
    · have htake := List.forall₂_take_append _ _ _ hparts.2
      rwa [← hlength, List.take_left] at htake
    · have hdrop := List.forall₂_drop_append _ _ _ hparts.2
      rwa [← hlength, List.drop_left] at hdrop
  | _ => simp [frame] at hframe

theorem exists_mem_of_forall₂ {α : Type} {R : α → α → Prop} {l l' : List α}
    (h : List.Forall₂ R l l') {a : α} (ha : a ∈ l) : ∃ b ∈ l', R a b := by
  induction h with
  | nil => cases ha
  | cons hab _ ih =>
    rcases List.mem_cons.1 ha with rfl | ha
    · exact ⟨_, List.mem_cons_self, hab⟩
    · obtain ⟨b, hb, hab⟩ := ih ha
      exact ⟨b, List.mem_cons_of_mem _ hb, hab⟩

section

variable {c c' : Node ν} {front back : List (Node ν)} (hdot : '.' ∉ key.toList)
  (hframe : n.frame = n'.frame) (hn : n.children = front ++ c :: back)
  (hn' : n'.children = front ++ c' :: back) (h : Respelled key c c')
include hdot hframe hn hn' h

/-- A call around the access passes the key in either notation. -/
theorem passes_of_inside {d : Node ν} (hd : n.Passes d) (hkey : key ∈ argumentNames d) :
    ∃ d', n'.Passes d' ∧ key ∈ argumentNames d' := by
  cases n with
  | call line func args keywords =>
    obtain ⟨func', args', keywords', rfl, hargs, hkeywords⟩ := exists_call_of_frame hframe hn hn' h
    obtain ⟨v, hv, hd⟩ := hd
    have hpassed : ∃ w, (w ∈ args' ∨ ∃ word, .keyword word w ∈ keywords') ∧
        (v = w ∨ Respelled key v w) := by
      rcases hv with hv | ⟨word, hv⟩
      · obtain ⟨w, hw, hvw⟩ := exists_mem_of_forall₂ hargs hv
        exact ⟨w, .inl hw, hvw⟩
      · obtain ⟨w, hw, rfl | hvw⟩ := exists_mem_of_forall₂ hkeywords hv
        · exact ⟨v, .inr ⟨word, hw⟩, .inl rfl⟩
        · obtain ⟨v', rfl, hvv'⟩ := hvw.keyword_inv
          exact ⟨v', .inr ⟨word, hw⟩, .inr hvv'⟩
    obtain ⟨w, hw, rfl | hvw⟩ := hpassed
    · exact ⟨d, ⟨v, hw, hd⟩, hkey⟩
    · -- The access stands in this value, and whatever gave the key away before, now the access does.
      obtain ⟨d', hd', hkey'⟩ := hvw.symm.exists_holds hdot
      exact ⟨d', ⟨w, hw, hd'⟩, hkey'⟩
  | _ => exact hd.elim

/-- The node is a call that hands the name to a sink. -/
def Exposes (sinks : List String) (name : String) (n : Node ν) : Prop :=
  ∃ site, callSite? n = some site ∧ site.Exposes sinks name

theorem exposes_of_inside
    (hcallee : (callSite? n).map Outline.CallSite.callee =
      (callSite? n').map Outline.CallSite.callee)
    (hexposes : n.Exposes sinks key) : n'.Exposes sinks key := by
  obtain ⟨site, hsite, hname, hsink⟩ := hexposes
  rw [hsite, Option.map_some] at hcallee
  obtain ⟨site', hsite', hsame⟩ := Option.map_eq_some_iff.1 hcallee.symm
  obtain ⟨d, hd, hkey⟩ := (mem_arguments_iff_passes hsite).1 hname
  obtain ⟨d', hd', hkey'⟩ := passes_of_inside hdot hframe hn hn' h hd hkey
  exact ⟨site', hsite', (mem_arguments_iff_passes hsite').2 ⟨d', hd', hkey'⟩, hsame ▸ hsink⟩

end

theorem IsAccess.holds_of_base {base d : Node ν} (h : n.IsAccess base key) (hd : base.Holds d) :
    n.Holds d := by
  rcases h with rfl | ⟨marked, rfl⟩ <;> exact .inside List.mem_cons_self hd

/-- An access is no call, and the calls in it stand in its base. -/
theorem IsAccess.base_holds {base call : Node ν} (h : n.IsAccess base key) (hcall : n.Holds call)
    (hexposes : call.Exposes sinks key) : base.Holds call := by
  obtain ⟨site, hsite, -⟩ := hexposes
  rcases h with rfl | ⟨marked, rfl⟩
  · cases hcall with
    | self => cases hsite
    | inside hc hcall =>
      rw [List.mem_singleton.1 hc] at hcall
      exact hcall
  · cases hcall with
    | self => cases hsite
    | inside hc hcall =>
      rcases List.mem_cons.1 hc with rfl | hc
      · exact hcall
      · rw [List.mem_singleton.1 hc] at hcall
        cases hcall with
        | self => cases hsite
        | inside hc _ => cases hc

theorem Respelled.exists_exposes (hdot : '.' ∉ key.toList) (h : Respelled key n n') {call : Node ν}
    (hcall : n.Holds call) (hexposes : call.Exposes sinks key) :
    ∃ call', n'.Holds call' ∧ call'.Exposes sinks key := by
  -- A call that exposes the key stands beside the way down to the access, and is in both trees, or on
  -- it, and passes the access.
  induction h with
  | access _ hn hn' => exact ⟨call, hn'.holds_of_base (hn.base_holds hcall hexposes), hexposes⟩
  | @inside n n' c c' front back hframe hn hn' hcallee h ih =>
    cases hcall with
    | self => exact ⟨n', .self n', exposes_of_inside hdot hframe hn hn' h hcallee hexposes⟩
    | @inside _ e _ he hcall =>
      by_cases hec : e = c
      · obtain ⟨call', hcall', hexposes'⟩ := ih (hec ▸ hcall)
        exact ⟨call', .inside (by rw [hn']; simp) hcall', hexposes'⟩
      · have he' : e ∈ n'.children := by grind
        exact ⟨call, .inside he' hcall, hexposes⟩

end Node

namespace Module

/-- One statement is respelled, the others are the same. -/
def Respelled (key : String) (m m' : Module ν) : Prop :=
  ∃ front back s s', m.body = front ++ s :: back ∧ m'.body = front ++ s' :: back ∧
    Node.Respelled key s s'

theorem exists_call_exposes_iff {m : Module ν} {name : String} :
    (∃ c ∈ calls m.nodes, c.Exposes sinks name) ↔
      ∃ call, m.Holds call ∧ call.Exposes sinks name := by
  constructor
  · rintro ⟨c, hc, hexposes⟩
    obtain ⟨n, hn, hsite⟩ := mem_calls_iff.1 hc
    exact ⟨n, mem_nodes_iff.1 hn, c, hsite, hexposes⟩
  · rintro ⟨call, hcall, c, hsite, hexposes⟩
    exact ⟨c, mem_calls_iff.2 ⟨call, mem_nodes_iff.2 hcall, hsite⟩, hexposes⟩

variable {m m' : Module ν}

theorem Respelled.symm (h : m.Respelled key m') : m'.Respelled key m := by
  obtain ⟨front, back, s, s', hm, hm', h⟩ := h
  exact ⟨front, back, s', s, hm', hm, h.symm⟩

theorem Respelled.exists_call_exposes (hdot : '.' ∉ key.toList) (h : m.Respelled key m')
    (hexposes : ∃ c ∈ calls m.nodes, c.Exposes sinks key) :
    ∃ c ∈ calls m'.nodes, c.Exposes sinks key := by
  obtain ⟨call, ⟨s, hs, hcall⟩, hcallExposes⟩ := exists_call_exposes_iff.1 hexposes
  obtain ⟨front, back, t, t', hm, hm', h⟩ := h
  rw [exists_call_exposes_iff]
  by_cases hst : s = t
  · obtain ⟨call', hcall', hexposes'⟩ := h.exists_exposes hdot (hst ▸ hcall) hcallExposes
    exact ⟨call', ⟨t', by rw [hm']; simp, hcall'⟩, hexposes'⟩
  · have hs' : s ∈ m'.body := by grind
    exact ⟨call, ⟨s, hs', hcall⟩, hcallExposes⟩

end Module

end Conformance.Offside
