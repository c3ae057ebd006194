import Conformance.Proofs.Offside.Argument
import Conformance.Proofs.Script.Argument

/-! # Exposure clauses and what calls pass

What a call passes decides an exposure clause, in modules and in scripts alike.

* `CallSite.Nests`: one call stands in what another one passes.
* `Verifier.verify_nested_call`: wrapping a value in calls never hides it.
* `Verifier.AgreesOn`: the clauses that protect a name pass or fail alike against two outlines.
* `Verifier.verify_access`: a key is given away in either notation, if the base has a path.
* `Verifier.verify_misses_key_of_call`: the subscript of a call's result gives no key away.
-/

namespace Conformance
open Text
set_option autoImplicit false

/-! ## Calls in arguments -/

namespace Outline.CallSite

/-- The sites of two calls of one tree, the second of which stands in what the first one passes. -/
inductive Nests : CallSite → CallSite → Prop
  | ofNodes {ν : Type} {a b : Offside.Node ν} {outer inner : CallSite} :
      Offside.callSite? a = some outer → Offside.callSite? b = some inner → a.Passes b →
      Nests outer inner
  | ofTrees {a b : Script.Tree} : a.kind = .callExpression → b.kind = .callExpression →
      a.Passes b → Nests (Script.callSite a) (Script.callSite b)

theorem Nests.mem_arguments {outer inner : CallSite} (h : outer.Nests inner) {name : String}
    (hname : name ∈ inner.arguments) : name ∈ outer.arguments := by
  cases h with
  | ofNodes houter hinner h => exact Offside.mem_arguments_of_passes houter hinner h hname
  | ofTrees _ _ h => exact Script.mem_arguments_of_passes h hname

end Outline.CallSite

/-- Of what holds somewhere, one place is singled out. -/
theorem exists_iff_at_or_beside {α : Type} {p q : α → Prop} {a : α} (ha : p a) :
    (∃ d, p d ∧ q d) ↔ q a ∨ ∃ d, p d ∧ d ≠ a ∧ q d := by
  constructor
  · rintro ⟨d, hd, hq⟩
    by_cases hda : d = a
    · exact .inl (hda ▸ hq)
    · exact .inr ⟨d, hd, hda, hq⟩
  · rintro (hq | ⟨d, hd, -, hq⟩)
    · exact ⟨a, ha, hq⟩
    · exact ⟨d, hd, hq⟩

namespace Verifier
open Outline

/-- **Wrapping a value in calls never hides it.** A call that stands in what another one passes, at any
depth, has no name that the outer call lacks. If the outer call is one of a sink and stands in an
outline without errors, each exposure clause that protects a name of the inner call fails. -/
theorem verify_nested_call {outer inner : CallSite} (h : outer.Nests inner) :
    (∀ name ∈ inner.arguments, name ∈ outer.arguments) ∧
    ∀ (settings : Settings) (u : Implementation) (o : Outline), o.clean = true →
      outer ∈ o.calls → Call.isSinkCallee outer.callee settings.logSinks = true →
      ∃ r, ({ settings : Verifier }).verify u (some o) = .ok r ∧
        List.Forall₂ (fun e a => ∀ subject, e.1 = .invariants →
            Clause.exposureSubject? e.2 = some subject →
            lastSegment subject ∈ inner.arguments → a.level = .proven ∧ a.passed = false)
          u.contract.entries r.assertions := by
  refine ⟨fun name hname => h.mem_arguments hname, fun settings u o hclean houter hsink => ?_⟩
  refine exists_verify_of_answers ?_
  rintro ⟨s, clause⟩ subject rfl hsubject hname
  rw [Rule.answer_exposure hsubject hclean]
  refine ⟨Rule.level_exposureInCalls, Rule.passed_exposureInCalls_eq_false_iff.2 ?_⟩
  exact ⟨outer, houter, h.mem_arguments hname, hsink⟩

/-- A secret in a call in a list in a keyword argument of `print`. -/
theorem verify_nested_call_in_list :
    let inner : Offside.Node := .call 2 (.name "mask") [.member (.name "user") "secret"] []
    let outer : Offside.Node :=
      .call 1 (.name "print") [] [.keyword (some "file") (.form .list [some inner])]
    let o := Offside.outline ⟨[outer]⟩
    let u : Implementation :=
      ⟨"a.b", "", { Contract.empty with invariants := ["user.secret never logged"] }, "", none, .python⟩
    ∃ a b, Offside.callSite? outer = some a ∧ Offside.callSite? inner = some b ∧ a.Nests b ∧
      o.clean = true ∧ a ∈ o.calls ∧ Call.isSinkCallee a.callee ({} : Settings).logSinks = true ∧
      lastSegment "user.secret" ∈ b.arguments ∧
      ∃ r assertion, ({ settings := {} : Verifier }).verify u (some o) = .ok r ∧
        r.assertions = [assertion] ∧ assertion.level = .proven ∧ assertion.passed = false := by
  intro inner outer o u
  have hpasses : outer.Passes inner :=
    ⟨_, .inr ⟨_, List.mem_singleton_self _⟩, .inside (List.mem_singleton_self _) (.self inner)⟩
  obtain ⟨a, ha⟩ : ∃ a, Offside.callSite? outer = some a := ⟨_, rfl⟩
  obtain ⟨b, hb⟩ : ∃ b, Offside.callSite? inner = some b := ⟨_, rfl⟩
  have hnests : a.Nests b := .ofNodes ha hb hpasses
  have hcall : a ∈ o.calls := Offside.mem_calls_iff.2
    ⟨outer, Offside.Module.mem_nodes_iff.2 ⟨outer, List.mem_singleton_self _, .self outer⟩, ha⟩
  have hsink : Call.isSinkCallee a.callee ({} : Settings).logSinks = true := by
    cases ha
    decide
  have hsecret : lastSegment "user.secret" ∈ b.arguments :=
    (Offside.mem_arguments_iff_passes hb).2 ⟨.member (.name "user") "secret",
      ⟨_, .inl (List.mem_singleton_self _), .self _⟩,
      Offside.mem_argumentNames_member (by decide) (.name "user")⟩
  obtain ⟨r, hr, hanswers⟩ := (verify_nested_call hnests).2 {} u o rfl hcall hsink
  obtain ⟨assertion, rest, hassertion, hrest, hassertions⟩ := List.forall₂_cons_left_iff.1 hanswers
  rw [List.forall₂_nil_left_iff.1 hrest] at hassertions
  exact ⟨a, b, ha, hb, hnests, rfl, hcall, hsink, hsecret, r, assertion, hr, hassertions,
    hassertion "user.secret" rfl (by decide) hsecret⟩

/-! ## Accesses in two notations -/

/-- Against either outline, the exposure clauses of the unit that protect the name pass or fail
alike. -/
def AgreesOn (v : Verifier) (name : String) (u : Implementation) (o o' : Outline) : Prop :=
  ∃ r r', v.verify u (some o) = .ok r ∧ v.verify u (some o') = .ok r' ∧
    List.Forall₂ (fun e (p : Assertion × Assertion) => ∀ subject, e.1 = .invariants →
        Clause.exposureSubject? e.2 = some subject → lastSegment subject = name →
        p.1.passed = p.2.passed)
      u.contract.entries (r.assertions.zip r'.assertions)

theorem agreesOn_of_exposes_iff {settings : Settings} {name : String} {o o' : Outline}
    (hclean : o.clean = true) (hclean' : o'.clean = true)
    (h : (∃ c ∈ o.calls, c.Exposes settings.logSinks name) ↔
      ∃ c ∈ o'.calls, c.Exposes settings.logSinks name) (u : Implementation) :
    ({ settings : Verifier }).AgreesOn name u o o' := by
  refine ⟨_, _, verify_standard_eq settings u (some o), verify_standard_eq settings u (some o'), ?_⟩
  rw [List.zip_map', List.forall₂_map_right_iff, List.forall₂_same]
  rintro ⟨s, clause⟩ - subject rfl hsubject rfl
  rw [Rule.answer_exposure hsubject hclean, Rule.answer_exposure hsubject hclean',
    ← Bool.not_inj_iff, Bool.eq_iff_iff, Bool.not_eq_true', Bool.not_eq_true',
    Rule.passed_exposureInCalls_eq_false_iff, Rule.passed_exposureInCalls_eq_false_iff]
  exact h

/-- **A key is given away in either notation, if the base has a path.** A call that passes a member
access has the key among its arguments, whatever the base is. If it passes a subscript by the key, the
key is among them exactly if the base has a path or something else that the call passes mentions the
key. Trees that differ in the notation of one access to a base with a path pass or fail alike in the
exposure clauses that protect the key. -/
theorem verify_access {key : String} (hkey : key ≠ "") (hdot : '.' ∉ key.toList) :
    (∀ {ν : Type} {call base : Offside.Node ν} {site : CallSite},
      Offside.callSite? call = some site →
      (call.Passes (.member base key) → key ∈ site.arguments) ∧
      ∀ marked, call.Passes (.subscript base (.constant (.str key marked))) →
        (key ∈ site.arguments ↔ (∃ path, base.dotted? = some path) ∨
          ∃ d, call.Passes d ∧ d ≠ .subscript base (.constant (.str key marked)) ∧
            key ∈ Offside.argumentNames d)) ∧
    (∀ {call access base : Script.Tree}, call.Passes access →
      (access.IsMember base key → key ∈ (Script.callSite call).arguments) ∧
      (access.IsSubscript base key →
        (key ∈ (Script.callSite call).arguments ↔ (∃ path, base.dotted? = some path) ∨
          ∃ d, call.Passes d ∧ d ≠ access ∧ key ∈ Script.argumentNames d))) ∧
    (∀ {ν : Type} [ToString ν] {m m' : Offside.Module ν}, m.Respelled key m' →
      ∀ settings u, ({ settings : Verifier }).AgreesOn key u (Offside.outline m)
        (Offside.outline m')) ∧
    ∀ {root root' : Script.Tree}, root.Respelled key root' →
      ∀ settings u, ({ settings : Verifier }).AgreesOn key u (Script.outline root false)
        (Script.outline root' false) := by
  refine ⟨fun {ν call base site} hsite => ⟨fun hpasses => ?_, fun marked hpasses => ?_⟩,
    fun {call access base} hpasses => ⟨fun h => h.mem_arguments hdot hpasses, fun h => ?_⟩,
    fun {ν _ m m'} h settings u => ?_, fun {root root'} h settings u => ?_⟩
  · exact (Offside.mem_arguments_iff_passes hsite).2
      ⟨_, hpasses, Offside.mem_argumentNames_member hdot base⟩
  · rw [Offside.mem_arguments_iff_passes hsite, exists_iff_at_or_beside hpasses,
      Offside.mem_argumentNames_subscript_iff hdot]
  · rw [Script.mem_arguments_iff_passes, exists_iff_at_or_beside hpasses,
      Script.mem_argumentNames_iff hdot, h.mentions_iff hkey hdot]
  · exact agreesOn_of_exposes_iff rfl rfl
      ⟨h.exists_call_exposes hdot, h.symm.exists_call_exposes hdot⟩ u
  · refine agreesOn_of_exposes_iff rfl rfl ?_ u
    rw [Script.exists_call_exposes_iff hdot, Script.exists_call_exposes_iff hdot]
    exact ⟨h.exists_shows_exposes hkey hdot, h.symm.exists_shows_exposes hkey hdot⟩

/-- `print(user.secret)` and `print(user["secret"])` fail alike. -/
theorem verify_access_of_name :
    let m : Offside.Module := ⟨[.call 1 (.name "print") [.member (.name "user") "secret"] []]⟩
    let m' : Offside.Module :=
      ⟨[.call 1 (.name "print") [.subscript (.name "user") (.constant (.str "secret" false))] []]⟩
    let u : Implementation :=
      ⟨"a.b", "", { Contract.empty with invariants := ["user.secret never logged"] }, "", none, .python⟩
    "secret" ≠ "" ∧ '.' ∉ "secret".toList ∧ m.Respelled "secret" m' ∧
      ∃ r r' a a', ({ settings := {} : Verifier }).verify u (some (Offside.outline m)) = .ok r ∧
        ({ settings := {} : Verifier }).verify u (some (Offside.outline m')) = .ok r' ∧
        r.assertions = [a] ∧ r'.assertions = [a'] ∧ a.passed = false ∧ a'.passed = false := by
  intro m m' u
  have hkey : "secret" ≠ "" := by decide
  have hdot : '.' ∉ "secret".toList := by decide
  have hbase : (.name "user" : Offside.Node).dotted? = some "user" := rfl
  have hrespelled : m.Respelled "secret" m' :=
    ⟨[], [], _, _, rfl, rfl, @Offside.Node.Respelled.inside _ _ _ _ _ _ [.name "print"] [] rfl rfl rfl
      rfl (.access hbase (.inl rfl) (.inr ⟨false, rfl⟩))⟩
  obtain ⟨r, r', hr, hr', hanswers⟩ := (verify_access hkey hdot).2.2.1 hrespelled {} u
  have hfirst : ∃ a, r.assertions = [a] ∧ a.passed = false := by
    rw [verify_standard_eq] at hr
    cases hr
    exact ⟨_, rfl, by decide +kernel⟩
  obtain ⟨a, ha, hfailed⟩ := hfirst
  obtain ⟨a', ha'⟩ : ∃ a', r'.assertions = [a'] := by
    rw [verify_standard_eq] at hr'
    cases hr'
    exact ⟨_, rfl⟩
  rw [ha, ha', List.zip_cons_cons, List.zip_nil_left] at hanswers
  obtain ⟨hsame, -⟩ := List.forall₂_cons.1 hanswers
  have hpassed : a.passed = a'.passed := hsame "user.secret" rfl (by decide) (by decide)
  exact ⟨hkey, hdot, hrespelled, r, r', a, a', hr, hr', ha, ha', hfailed, hpassed ▸ hfailed⟩

/-- The result of a call has no path. `print(find().secret)` is found out, and
`print(find()["secret"])` is not. -/
theorem verify_misses_key_of_call :
    let find : Offside.Node := .call 1 (.name "find") [] []
    let print (passed : Offside.Node) : Offside.Node := .call 1 (.name "print") [passed] []
    let byDot := print (.member find "secret")
    let byKey := print (.subscript find (.constant (.str "secret" false)))
    let u : Implementation :=
      ⟨"a.b", "", { Contract.empty with invariants := ["user.secret never logged"] }, "", none, .python⟩
    find.dotted? = none ∧
      ((Offside.callSite? byDot).map fun c => decide ("secret" ∈ c.arguments)) = some true ∧
      ((Offside.callSite? byKey).map fun c => decide ("secret" ∈ c.arguments)) = some false ∧
      ({ settings := {} : Verifier }).verify u (some (Offside.outline ⟨[byDot]⟩)) =
        .ok ⟨"a.b", .failed, [⟨"user.secret never logged", .invariant, false, .proven,
          "'secret' passed to print() on line 1"⟩], []⟩ ∧
      ({ settings := {} : Verifier }).verify u (some (Offside.outline ⟨[byKey]⟩)) =
        .ok ⟨"a.b", .proven, [⟨"user.secret never logged", .invariant, true, .proven,
          "'secret' not passed to any logging call"⟩], []⟩ := by
  intro find print byDot byKey u
  have hsubject : Clause.exposureSubject? "user.secret never logged" = some "user.secret" := by decide
  have hentries : u.contract.entries = [(.invariants, "user.secret never logged")] := rfl
  have hanswer (m : Offside.Module)
      (hsorted : (m.nodes.filterMap Offside.callSite?).Pairwise fun c d => c.line ≤ d.line) :
      u.contract.entries.map (Rule.answer ⟨u.text, some (Offside.outline m), {}⟩) =
        [Rule.assessExposureInCalls "user.secret never logged" .invariant (lastSegment "user.secret") {}
          (m.nodes.filterMap Offside.callSite?)] := by
    rw [hentries, List.map_singleton, Rule.answer_exposure hsubject rfl,
      ← Offside.calls_eq_of_sorted hsorted]
    rfl
  refine ⟨rfl, by decide +kernel, by decide +kernel, ?_, ?_⟩
  · rw [verify_standard_eq, hanswer ⟨[byDot]⟩ (by decide +kernel), Except.ok.injEq]
    decide +kernel
  · rw [verify_standard_eq, hanswer ⟨[byKey]⟩ (by decide +kernel), Except.ok.injEq]
    decide +kernel

end Verifier

end Conformance
