import Conformance.Offside.Outline
import Conformance.Proofs.Offside.Node
import Conformance.Proofs.Rule.Exposure
import Conformance.Proofs.Text.Normal

/-! # Exposure clauses and indentation-structured modules

The calls of an outline are the calls that stand anywhere in the module, in the order of their
lines, each with the names that stand anywhere in the values it passes. The verdict on an exposure
clause is therefore exact for the tree.

* `Module.ExposesAt`: a call of the module that hands a name to a sink, with its line and callee.
* `Module.IsVerdict`: an assertion that is failed exactly if there is such a call, and then cites
  the first line that has one.
* `Verifier.verify_exposure_of_module`: the assertions on exposure clauses are such verdicts.
-/

namespace Conformance.Offside
open Text
set_option autoImplicit false

variable {ν : Type}

namespace Node

/-- The node is the name, ends in it, or is a subscript whose path does. -/
def Mentions (name : String) : Node ν → Prop
  | .name id => id = name
  | .member _ attr => attr = name
  | .subscript value slice =>
    ∃ path, (Node.subscript value slice).dotted? = some path ∧ lastSegment path = name
  | _ => False

/-- What stands for a name in the node is an identifier. -/
def IsNamed : Node ν → Prop
  | .name id => isIdentifier id.toList = true
  | .member _ attr => isIdentifier attr.toList = true
  | _ => True

end Node

/-! ## The names of a call -/

theorem dot_not_mem_of_isIdentifier {name : String} (h : isIdentifier name.toList = true) :
    '.' ∉ name.toList :=
  fun hdot => ((isName_of_isIdentifier h).behindSlash _ hdot).ne_dot rfl

theorem mem_argumentNames_iff {d : Node ν} {name : String} (hname : '.' ∉ name.toList)
    (hd : d.IsNamed) : name ∈ argumentNames d ↔ d.Mentions name := by
  cases d with
  | name id =>
    simp only [argumentNames, Node.Mentions, List.mem_singleton]
    exact eq_comm
  | member value attr =>
    have hattr : lastSegment attr = attr := lastSegment_eq_self (dot_not_mem_of_isIdentifier hd)
    simp only [argumentNames, Node.Mentions, Node.dotted?]
    cases value.dotted? with
    | none =>
      simp only [Option.map_none, List.mem_singleton]
      exact eq_comm
    | some base =>
      simp only [Option.map_some]
      rw [mem_path_iff hname base attr, lastSegment_extend, hattr]
  | subscript value slice =>
    simp only [argumentNames, Node.Mentions]
    cases hpath : (Node.subscript value slice).dotted? with
    | none => simp
    | some path =>
      simp only [Node.dotted?, Option.bind_eq_some_iff, Option.map_eq_some_iff] at hpath
      obtain ⟨base, _, key, _, rfl⟩ := hpath
      simp only [Option.some.injEq, exists_eq_left']
      exact mem_path_iff hname base key
  | _ => exact ⟨fun h => absurd h List.not_mem_nil, False.elim⟩

theorem mem_passedValues_iff {args keywords : List (Node ν)} {v : Node ν} :
    v ∈ passedValues args keywords ↔ v ∈ args ∨ ∃ key, .keyword key v ∈ keywords := by
  rw [passedValues, List.mem_append, List.mem_filterMap]
  refine or_congr_right ⟨?_, ?_⟩
  · rintro ⟨k, hk, hv⟩
    cases k with
    | keyword key value =>
      cases hv
      exact ⟨key, hk⟩
    | _ => cases hv
  · rintro ⟨key, hk⟩
    exact ⟨_, hk, rfl⟩

/-- What a call passes stands in the call. -/
theorem holds_of_mem_passedValues {line : Nat} {func v : Node ν} {args keywords : List (Node ν)}
    (h : v ∈ passedValues args keywords) : (Node.call line func args keywords).Holds v := by
  rcases mem_passedValues_iff.1 h with h | ⟨key, h⟩
  · exact .inside (List.mem_cons_of_mem _ (List.mem_append_left _ h)) (.self v)
  · have hvalue : (Node.keyword key v).Holds v := .inside List.mem_cons_self (.self v)
    exact .inside (List.mem_cons_of_mem _ (List.mem_append_right _ h)) hvalue

/-! ## The calls of a module -/

theorem calls_sorted (nodes : List (Node ν)) :
    (calls nodes).Pairwise fun c d => c.line ≤ d.line := by
  have h : (calls nodes).Pairwise fun c d => decide (c.line ≤ d.line) = true := by
    refine List.pairwise_mergeSort ?_ ?_ _
    · intro a b c
      simp only [decide_eq_true_eq]
      omega
    · intro a b
      simp only [Bool.or_eq_true, decide_eq_true_eq]
      omega
  simpa only [decide_eq_true_eq] using h

/-- Calls that stand in the order of their lines already are not moved. -/
theorem calls_eq_of_sorted {nodes : List (Node ν)}
    (h : (nodes.filterMap callSite?).Pairwise fun c d => c.line ≤ d.line) :
    calls nodes = nodes.filterMap callSite? :=
  List.mergeSort_of_pairwise (by simpa only [decide_eq_true_eq] using h)

theorem mem_calls_iff {nodes : List (Node ν)} {c : Outline.CallSite} :
    c ∈ calls nodes ↔ ∃ n ∈ nodes, callSite? n = some c := by
  rw [calls, List.mem_mergeSort, List.mem_filterMap]

namespace Module

/-- A call on the line, with the callee, is one of a sink, and in a value that it passes stands a
mention of the name. -/
def ExposesAt (m : Module ν) (sinks : List String) (name : String) (line : Nat) (callee : String) :
    Prop :=
  ∃ func args keywords, m.Holds (.call line func args keywords) ∧
    callee = func.dotted?.getD func.source ∧ Call.isSinkCallee callee sinks = true ∧
    ∃ v, (v ∈ args ∨ ∃ key, .keyword key v ∈ keywords) ∧ ∃ d, v.Holds d ∧ d.Mentions name

variable {m : Module ν} {sinks : List String} {name : String}

theorem Holds.of_node {n d : Node ν} (h : m.Holds n) (hd : n.Holds d) : m.Holds d := by
  obtain ⟨s, hs, hn⟩ := h
  exact ⟨s, hs, hn.trans hd⟩

/-- The names of a call of the module are the mentions in what it passes. -/
theorem mem_arguments_iff (hnamed : ∀ d, m.Holds d → d.IsNamed) (hname : '.' ∉ name.toList)
    {line : Nat} {func : Node ν} {args keywords : List (Node ν)}
    (hcall : m.Holds (.call line func args keywords)) :
    name ∈ Names.ofList
        ((passedValues args keywords).flatMap fun v => v.preorder.flatMap argumentNames) ↔
      ∃ v, (v ∈ args ∨ ∃ key, .keyword key v ∈ keywords) ∧ ∃ d, v.Holds d ∧ d.Mentions name := by
  simp only [Names.mem_ofList, List.mem_flatMap, Node.mem_preorder_iff, ← mem_passedValues_iff]
  refine exists_congr fun v => and_congr_right fun hv => exists_congr fun d =>
    and_congr_right fun hd => ?_
  have hdm := (hcall.of_node (holds_of_mem_passedValues hv)).of_node hd
  exact mem_argumentNames_iff hname (hnamed d hdm)

theorem exposesAt_of_mem_calls (hnamed : ∀ d, m.Holds d → d.IsNamed) (hname : '.' ∉ name.toList)
    {c : Outline.CallSite} (hc : c ∈ calls m.nodes) (h : c.Exposes sinks name) :
    m.ExposesAt sinks name c.line c.callee := by
  obtain ⟨n, hn, hcall⟩ := mem_calls_iff.1 hc
  rw [mem_nodes_iff] at hn
  cases n with
  | call line func args keywords =>
    cases hcall
    exact ⟨func, args, keywords, hn, rfl, h.2, (mem_arguments_iff hnamed hname hn).1 h.1⟩
  | _ => cases hcall

theorem exists_mem_calls_of_exposesAt (hnamed : ∀ d, m.Holds d → d.IsNamed)
    (hname : '.' ∉ name.toList) {line : Nat} {callee : String}
    (h : m.ExposesAt sinks name line callee) :
    ∃ c ∈ calls m.nodes, c.Exposes sinks name ∧ c.line = line := by
  obtain ⟨func, args, keywords, hcall, rfl, hsink, hpassed⟩ := h
  have hmem := mem_calls_iff.2 ⟨_, mem_nodes_iff.2 hcall, rfl⟩
  exact ⟨_, hmem, ⟨(mem_arguments_iff hnamed hname hcall).2 hpassed, hsink⟩, rfl⟩

/-- The assertion is the exact verdict on a name: settled by syntax, failed exactly if a call exposes
the name, and then it cites a call on the smallest line of all such calls. -/
structure IsVerdict (m : Module ν) (sinks : List String) (name : String) (a : Assertion) : Prop where
  level_eq : a.level = .proven
  failed_iff : a.passed = false ↔ ∃ line callee, m.ExposesAt sinks name line callee
  cites_first : a.passed = false → ∃ line callee, m.ExposesAt sinks name line callee ∧
    (∀ line' callee', m.ExposesAt sinks name line' callee' → line ≤ line') ∧
    a.message = Rule.exposureMessage name callee line

theorem isVerdict_exposureInCalls (hnamed : ∀ d, m.Holds d → d.IsNamed)
    (hname : '.' ∉ name.toList) (text : String) (category : Category) (settings : Settings) :
    m.IsVerdict settings.logSinks name
      (Rule.assessExposureInCalls text category name settings (calls m.nodes)) where
  level_eq := Rule.level_exposureInCalls
  failed_iff := by
    rw [Rule.passed_exposureInCalls_eq_false_iff]
    constructor
    · rintro ⟨c, hc, h⟩
      exact ⟨c.line, c.callee, exposesAt_of_mem_calls hnamed hname hc h⟩
    · rintro ⟨line, callee, h⟩
      obtain ⟨c, hc, hexposes, _⟩ := exists_mem_calls_of_exposesAt hnamed hname h
      exact ⟨c, hc, hexposes⟩
  cites_first hfailed := by
    obtain ⟨c, hc, hexposes, hfirst, hmessage⟩ :=
      Rule.exposureInCalls_of_failed_of_sorted (calls_sorted m.nodes) hfailed
    refine ⟨c.line, c.callee, exposesAt_of_mem_calls hnamed hname hc hexposes, ?_, hmessage⟩
    intro line callee h
    obtain ⟨d, hd, hexposes, rfl⟩ := exists_mem_calls_of_exposesAt hnamed hname h
    exact hfirst d hd hexposes

end Module

end Conformance.Offside

namespace Conformance.Verifier
open Text Offside
set_option autoImplicit false

/-- **Exposure verdicts are exact.** Whatever else the contract holds, the assertion on each exposure
clause is the exact verdict on the name that the clause protects. -/
theorem verify_exposure_of_module {ν : Type} [ToString ν] (settings : Settings) (u : Implementation)
    (m : Module ν) (hnamed : ∀ d, m.Holds d → d.IsNamed) :
    ∃ r, ({ settings : Verifier }).verify u (some (outline m)) = .ok r ∧
      List.Forall₂ (fun e a => ∀ subject, e.1 = .invariants →
          Clause.exposureSubject? e.2 = some subject →
          m.IsVerdict settings.logSinks (lastSegment subject) a)
        u.contract.entries r.assertions := by
  refine exists_verify_of_answers ?_
  rintro ⟨s, clause⟩ subject rfl hsubject
  rw [Rule.answer_exposure hsubject rfl]
  exact Module.isVerdict_exposureInCalls hnamed (dot_not_mem_lastSegment subject) ..

/-- The default of a parameter of a function inside another one prints a secret. -/
theorem verify_exposure_in_nested_default :
    let leak : Node := .call 2 (.name "print")
      [.subscript (.name "user") (.constant (.str "secret" false))] []
    let inner : Node := .function 2 false "g"
      (.parameters [] [.parameter "x" none] none [] [] none [leak]) [] [] none
    let m : Module := ⟨[.function 1 false "f" (.parameters [] [] none [] [] none []) [inner] [] none]⟩
    let u : Implementation :=
      ⟨"a.b", "", { Contract.empty with invariants := ["user.secret never logged"] }, "", none, .python⟩
    (∀ d, m.Holds d → d.IsNamed) ∧
      Clause.exposureSubject? "user.secret never logged" = some "user.secret" ∧
      ∃ r a, ({ settings := {} : Verifier }).verify u (some (outline m)) = .ok r ∧
        r.assertions = [a] ∧ a.level = .proven ∧ a.passed = false ∧
        ∃ line callee, line ≤ 2 ∧ a.message = Rule.exposureMessage "secret" callee line := by
  intro leak inner m u
  have hname : ∀ id : String, isIdentifier id.toList = true →
      ∀ d, (Node.name id : Node).Holds d → d.IsNamed :=
    fun id h => Node.forall_holds_iff.2 ⟨h, List.forall_mem_nil _⟩
  have hleak : ∀ d, leak.Holds d → d.IsNamed := by
    refine Node.forall_holds_iff.2 ⟨trivial, List.forall_mem_cons.2 ⟨hname _ (by decide), ?_⟩⟩
    refine List.forall_mem_singleton.2 (Node.forall_holds_iff.2 ⟨trivial, ?_⟩)
    refine List.forall_mem_cons.2 ⟨hname _ (by decide), List.forall_mem_singleton.2 ?_⟩
    exact Node.forall_holds_iff.2 ⟨trivial, List.forall_mem_nil _⟩
  have hinner : ∀ d, inner.Holds d → d.IsNamed := by
    refine Node.forall_holds_iff.2 ⟨trivial, List.forall_mem_singleton.2 ?_⟩
    refine Node.forall_holds_iff.2 ⟨trivial, List.forall_mem_cons.2 ⟨?_, ?_⟩⟩
    · exact Node.forall_holds_iff.2 ⟨trivial, List.forall_mem_nil _⟩
    · exact List.forall_mem_singleton.2 hleak
  have hnamed : ∀ d, m.Holds d → d.IsNamed := by
    rintro d ⟨s, hs, hd⟩
    rw [List.mem_singleton.1 hs] at hd
    refine Node.forall_holds_iff.2 ⟨trivial, List.forall_mem_cons.2 ⟨?_, ?_⟩⟩ d hd
    · exact Node.forall_holds_iff.2 ⟨trivial, List.forall_mem_nil _⟩
    · exact List.forall_mem_singleton.2 hinner
  have hsubject : Clause.exposureSubject? "user.secret never logged" = some "user.secret" := by
    decide
  have hholds : inner.Holds leak := .inside List.mem_cons_self
    (.inside (List.mem_cons_of_mem _ List.mem_cons_self) (.self leak))
  have hexposes : m.ExposesAt ({} : Settings).logSinks "secret" 2 "print" :=
    ⟨.name "print", [.subscript (.name "user") (.constant (.str "secret" false))], [],
      ⟨_, List.mem_cons_self, .inside (List.mem_cons_of_mem _ List.mem_cons_self) hholds⟩, rfl,
      by decide, _, .inl List.mem_cons_self, _, .self _, "user.secret", rfl, rfl⟩
  obtain ⟨r, hr, hanswers⟩ := verify_exposure_of_module {} u m hnamed
  obtain ⟨a, as, ha, has, hassertions⟩ := List.forall₂_cons_left_iff.1 hanswers
  have hverdict := ha _ rfl hsubject
  rw [List.forall₂_nil_left_iff.1 has] at hassertions
  have hfailed := hverdict.failed_iff.2 ⟨2, "print", hexposes⟩
  obtain ⟨line, callee, _, hfirst, hmessage⟩ := hverdict.cites_first hfailed
  exact ⟨hnamed, hsubject, r, a, hr, hassertions, hverdict.level_eq, hfailed, line, callee,
    hfirst _ _ hexposes, hmessage⟩

end Conformance.Verifier
