import Conformance.Proofs.Rule.Exposure
import Conformance.Proofs.Script.Outline

/-! # Exposure clauses and scripts

The calls of an outline are those that stand outside parameter lists, each with the names that stand
anywhere in its arguments. The verdict on an exposure clause is exact for these calls. A call in the
default value of a parameter is not among them, and what it exposes goes unseen.

* `Tree.Exposes`: a call that hands a name to a sink.
* `Verifier.verify_exposure_of_script`: an exposure clause fails exactly if such a call stands
  outside parameter lists.
* `Verifier.verify_misses_exposure_in_default`: the default value of a parameter.
-/

namespace Conformance.Script
open Text
set_option autoImplicit false

namespace Tree

/-- The node is the name, or a path that ends in it. -/
def Mentions (name : String) (d : Tree) : Prop :=
  d.kind.isName = true ∧ d.text = name ∨
    (d.kind = .memberExpression ∨ d.kind = .subscriptExpression) ∧
      ∃ path, d.dotted? = some path ∧ lastSegment path = name

/-- The node is a call of a sink, and anywhere in its arguments stands a mention of the name. -/
def Exposes (sinks : List String) (name : String) (call : Tree) : Prop :=
  call.kind = .callExpression ∧ Call.isSinkCallee (callee call) sinks = true ∧
    ∃ arguments, call.child? .arguments = some arguments ∧
      ∃ d, arguments.Holds d ∧ d.Mentions name

theorem exists_of_extend {base key : Option String} {path : String}
    (h : extend base key = some path) : ∃ b k, path = b ++ "." ++ k := by
  simp only [extend, Option.bind_eq_some_iff, Option.map_eq_some_iff] at h
  obtain ⟨b, _, k, _, rfl⟩ := h
  exact ⟨b, k, rfl⟩

/-- The path of a member access or a subscript has several segments. -/
theorem exists_of_dotted? {d : Tree} {path : String}
    (hkind : d.kind = .memberExpression ∨ d.kind = .subscriptExpression)
    (h : d.dotted? = some path) : ∃ b k, path = b ++ "." ++ k := by
  obtain ⟨kind, field, isNamed, text, row, children⟩ := d
  rcases hkind with hkind | hkind
  · obtain rfl : kind = .memberExpression := hkind
    rw [dotted?] at h
    exact exists_of_extend h
  · obtain rfl : kind = .subscriptExpression := hkind
    rw [dotted?] at h
    exact exists_of_extend h

end Tree

/-! ## The names and the calls of a script -/

theorem mem_argumentNames_iff {d : Tree} {name : String} (hname : '.' ∉ name.toList) :
    name ∈ argumentNames d ↔ d.Mentions name := by
  unfold argumentNames Tree.Mentions
  by_cases hn : d.kind.isName = true
  · have hpath : ¬ (d.kind = .memberExpression ∨ d.kind = .subscriptExpression) := by
      rintro (h | h) <;> rw [h] at hn <;> cases hn
    rw [if_pos hn, List.mem_singleton]
    simp only [hn, hpath, true_and, false_and, or_false]
    exact eq_comm
  · rw [if_neg hn]
    simp only [hn, Bool.false_eq_true, false_and, false_or, Bool.or_eq_true, decide_eq_true_eq]
    split
    · next hkind =>
      cases hpath : d.dotted? with
      | none => simp
      | some path =>
        obtain ⟨base, key, rfl⟩ := Tree.exists_of_dotted? hkind hpath
        simp only [hkind, true_and, Option.some.injEq, exists_eq_left']
        exact mem_path_iff hname base key
    · next hkind => simp [hkind]

theorem mem_calls_iff {nodes : List Tree} {c : Outline.CallSite} :
    c ∈ calls nodes ↔ ∃ t ∈ nodes, t.kind = .callExpression ∧ callSite t = c := by
  simp only [calls, List.mem_map, List.mem_filter, decide_eq_true_eq, and_assoc]

theorem exposes_callSite_iff {call : Tree} {sinks : List String} {name : String}
    (hname : '.' ∉ name.toList) (hkind : call.kind = .callExpression) :
    (callSite call).Exposes sinks name ↔ call.Exposes sinks name := by
  have harguments : name ∈ (callSite call).arguments ↔
      ∃ arguments, call.child? .arguments = some arguments ∧
        ∃ d, arguments.Holds d ∧ d.Mentions name := by
    unfold callSite
    rw [Names.mem_ofList]
    cases call.child? .arguments with
    | none => simp
    | some arguments =>
      simp only [List.mem_flatMap, Tree.mem_walk_iff, mem_argumentNames_iff hname,
        Option.some.injEq, exists_eq_left']
  unfold Outline.CallSite.Exposes Tree.Exposes
  rw [harguments]
  exact ⟨fun h => ⟨hkind, h.2, h.1⟩, fun h => ⟨h.2.2, h.2.1⟩⟩

theorem exists_call_exposes_iff {root : Tree} {sinks : List String} {name : String}
    (hname : '.' ∉ name.toList) (hasError : Bool) :
    (∃ c ∈ (outline root hasError).calls, c.Exposes sinks name) ↔
      ∃ call, root.Shows call ∧ call.Exposes sinks name := by
  rw [calls_outline]
  constructor
  · rintro ⟨c, hc, h⟩
    obtain ⟨call, hcall, hkind, rfl⟩ := mem_calls_iff.1 hc
    exact ⟨call, Tree.mem_walk_parameters_iff.1 hcall, (exposes_callSite_iff hname hkind).1 h⟩
  · rintro ⟨call, hcall, h⟩
    have hmet := Tree.mem_walk_parameters_iff.2 hcall
    refine ⟨callSite call, mem_calls_iff.2 ⟨call, hmet, h.1, rfl⟩, ?_⟩
    exact (exposes_callSite_iff hname h.1).2 h

end Conformance.Script

namespace Conformance.Verifier
open Text Script
set_option autoImplicit false

/-- **Exposure verdicts see what stands outside parameter lists.** A tree without errors is
outlined, whatever the settings, and against the outline each exposure clause is settled: it fails
exactly if a call that hands the protected name to a sink stands outside parameter lists. Of the
calls anywhere in the tree, only those in parameter lists can go unseen. -/
theorem verify_exposure_of_script (settings : Settings) (u : Implementation) (root : Tree) :
    ∃ o r, Script.outline? settings.recoverSyntaxErrors root false = some o ∧
      ({ settings : Verifier }).verify u (some o) = .ok r ∧
      List.Forall₂ (fun e a => ∀ subject, e.1 = .invariants →
          Clause.exposureSubject? e.2 = some subject → a.level = .proven ∧
          (a.passed = false ↔
            ∃ call, root.Shows call ∧ call.Exposes settings.logSinks (lastSegment subject)) ∧
          ∀ call, root.Holds call → call.Exposes settings.logSinks (lastSegment subject) →
            a.passed = false ∨ root.Hides call)
        u.contract.entries r.assertions := by
  refine ⟨Script.outline root false, ?_⟩
  refine (exists_verify_of_answers ?_).imp fun r h => ⟨rfl, h⟩
  rintro ⟨s, clause⟩ subject rfl hsubject
  rw [Rule.answer_exposure hsubject rfl]
  have hfailed : (Rule.assessExposureInCalls clause .invariant (lastSegment subject) settings
      (Script.outline root false).calls).passed = false ↔
        ∃ call, root.Shows call ∧ call.Exposes settings.logSinks (lastSegment subject) := by
    rw [Rule.passed_exposureInCalls_eq_false_iff]
    exact exists_call_exposes_iff (dot_not_mem_lastSegment subject) false
  refine ⟨Rule.level_exposureInCalls, hfailed, fun call hcall hexposes => ?_⟩
  rcases hcall.shows_or_hides with hshows | hhides
  · exact .inl (hfailed.2 ⟨call, hshows, hexposes⟩)
  · exact .inr hhides

/-- `function f(x = console.log(user.secret)) {}` logs a secret whenever it is called without an
argument, and the clause that forbids it is proven. -/
theorem verify_misses_exposure_in_default :
    let dot : Tree := .node (.other ".") none false "." 0 []
    let opening : Tree := .node (.other "(") none false "(" 0 []
    let closing : Tree := .node (.other ")") none false ")" 0 []
    let sink : Tree := .node .memberExpression (some .function) true "console.log" 0
      [.node .identifier (some .object) true "console" 0 [], dot,
        .node .propertyIdentifier (some .property) true "log" 0 []]
    let mention : Tree := .node .propertyIdentifier (some .property) true "secret" 0 []
    let secret : Tree := .node .memberExpression none true "user.secret" 0
      [.node .identifier (some .object) true "user" 0 [], dot, mention]
    let arguments : Tree := .node (.other "arguments") (some .arguments) true "(user.secret)" 0
      [opening, secret, closing]
    let call : Tree := .node .callExpression (some .value) true "console.log(user.secret)" 0
      [sink, arguments]
    let parameter : Tree :=
      .node (.other "required_parameter") none true "x = console.log(user.secret)" 0
        [.node .identifier (some .pattern) true "x" 0 [], .node (.other "=") none false "=" 0 [], call]
    let list : Tree :=
      .node .formalParameters (some .parameters) true "(x = console.log(user.secret))" 0
        [opening, parameter, closing]
    let function : Tree :=
      .node .functionDeclaration none true "function f(x = console.log(user.secret)) {}" 0
        [.node .function none false "function" 0 [], .node .identifier (some .name) true "f" 0 [], list]
    let root : Tree :=
      .node (.other "program") none true "function f(x = console.log(user.secret)) {}" 0 [function]
    let u : Implementation :=
      ⟨"a.b", "", { Contract.empty with invariants := ["user.secret never logged"] }, root.text, none,
        .typescript⟩
    root.Holds call ∧ call.kind = .callExpression ∧
      call.child? .function = some sink ∧ sink.dotted? = some "console.log" ∧
      Call.isSinkCallee "console.log" ({} : Settings).logSinks = true ∧
      call.child? .arguments = some arguments ∧ arguments.Holds mention ∧
      mention.kind = .propertyIdentifier ∧ mention.text = "secret" ∧
      Clause.exposureSubject? "user.secret never logged" = some "user.secret" ∧
      ∃ o, Script.outline? false root false = some o ∧
        ({ settings := {} : Verifier }).verify u (some o) =
          .ok ⟨"a.b", .proven, [⟨"user.secret never logged", .invariant, true, .proven,
            "'secret' not passed to any logging call"⟩], []⟩ := by
  intro dot opening closing sink mention secret arguments call parameter list function root u
  have hparameter : parameter.Holds call :=
    .inside (List.mem_cons_of_mem _ (List.mem_cons_of_mem _ List.mem_cons_self)) (.self call)
  have hlist : list.Holds call :=
    .inside (List.mem_cons_of_mem _ List.mem_cons_self) hparameter
  have hfunction : function.Holds call :=
    .inside (List.mem_cons_of_mem _ (List.mem_cons_of_mem _ List.mem_cons_self)) hlist
  have hsecret : secret.Holds mention :=
    .inside (List.mem_cons_of_mem _ (List.mem_cons_of_mem _ List.mem_cons_self)) (.self mention)
  refine ⟨.inside List.mem_cons_self hfunction, rfl, rfl, rfl, by decide, rfl,
    .inside (List.mem_cons_of_mem _ List.mem_cons_self) hsecret, rfl, rfl, by decide, _, rfl, ?_⟩
  rw [outline, Tree.walk_eq_preorder]
  rfl

end Conformance.Verifier
