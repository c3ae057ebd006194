import Mathlib.Data.List.Forall2
import Conformance.Proofs.Verification

/-! # Which rule answers

A verifier asks one rule about each entry of a contract: of the registered rules that cover the entry's
category the newest one, of the listed rules the first one. A category that no rule covers ends the
verification.

* `Rule.Chosen`: the rule that is asked, said of the two lists of rules.
* `Verifier.assess_registered_eq_ok_iff`, `Verifier.assess_eq_error_iff`: the two ends of one question.
* `Verifier.assessAll_eq_ok_iff`, `Verifier.assessAll_eq_error_iff`: the two ends of a row of them.
* `Verifier.verify_dispatch`: the results and the errors of a verifier, for all rules.
-/

namespace Conformance
set_option autoImplicit false

/-! ## The rule that is asked -/

/-- The rule answers for a category: it is the newest of the registered rules that cover the category,
or none of them does and it is the first of the listed ones. -/
inductive Rule.Chosen (listed registered : List Rule) (category : Category) (r : Rule) : Prop
  | registered (before after : List Rule) (registered_eq : registered = before ++ r :: after)
      (covers : r.covers category = true) (newest : ∀ s ∈ after, s.covers category = false)
  | listed (unregistered : ∀ s ∈ registered, s.covers category = false) (before after : List Rule)
      (listed_eq : listed = before ++ r :: after) (covers : r.covers category = true)
      (first : ∀ s ∈ before, s.covers category = false)

namespace Verifier

/-- The verifier with further rules, registered one after the other. -/
def registerAll (v : Verifier) (rules : List Rule) : Verifier := rules.foldl register v

section

variable {v : Verifier} {listed registered : List Rule} {category : Category} {r : Rule}

theorem registerAll_eq (v : Verifier) (registered : List Rule) :
    v.registerAll registered = ⟨registered.reverse ++ v.rules, v.settings⟩ := by
  induction registered generalizing v with
  | nil => rfl
  | cons r rest ih =>
    have hrest := ih (v.register r)
    rw [registerAll, List.foldl_cons, List.reverse_cons, List.append_assoc]
    exact hrest

theorem find?_reverse_eq_some_iff {α : Type} {p : α → Bool} {l : List α} {a : α} :
    l.reverse.find? p = some a ↔
      p a = true ∧ ∃ before after, l = before ++ a :: after ∧ ∀ b ∈ after, p b = false := by
  rw [List.find?_eq_some_iff_append]
  constructor
  · rintro ⟨ha, front, back, hl, hfront⟩
    rw [List.reverse_eq_iff] at hl
    refine ⟨ha, back.reverse, front.reverse, ?_, ?_⟩
    · rw [hl, List.reverse_append, List.reverse_cons, List.append_assoc, List.singleton_append]
    · intro b hb
      simpa using hfront b (List.mem_reverse.1 hb)
  · rintro ⟨ha, before, after, rfl, hafter⟩
    refine ⟨ha, after.reverse, before.reverse, ?_, ?_⟩
    · rw [List.reverse_append, List.reverse_cons, List.append_assoc, List.singleton_append]
    · intro b hb
      simpa using hafter b (List.mem_reverse.1 hb)

/-- The first rule that covers a category, registered rules being put before the others. -/
theorem find?_covers_eq_some_iff :
    ((registered.reverse ++ listed).find? fun s => s.covers category) = some r ↔
      Rule.Chosen listed registered category r := by
  rw [List.find?_append, Option.or_eq_some_iff, find?_reverse_eq_some_iff, List.find?_eq_none,
    List.find?_eq_some_iff_append]
  constructor
  · rintro (⟨hr, before, after, hregistered, hafter⟩ | ⟨hnone, hr, before, after, hlisted, hbefore⟩)
    · exact .registered before after hregistered hr hafter
    · refine .listed (fun s hs => ?_) before after hlisted hr fun s hs => ?_
      · simpa using hnone s (List.mem_reverse.2 hs)
      · simpa using hbefore s hs
  · rintro (⟨before, after, hregistered, hr, hafter⟩ | ⟨hnone, before, after, hlisted, hr, hbefore⟩)
    · exact .inl ⟨hr, before, after, hregistered, hafter⟩
    · refine .inr ⟨fun s hs => ?_, hr, before, after, hlisted, fun s hs => ?_⟩
      · simpa using hnone s (List.mem_reverse.1 hs)
      · simpa using hbefore s hs

/-! ## One entry -/

variable {text : String} {evidence : Evidence}

theorem assess_eq_ok_iff {a : Assertion} :
    v.assess text category evidence = .ok a ↔
      ∃ r, (v.rules.find? fun s => s.covers category) = some r ∧ a = r.assess text category evidence := by
  unfold assess
  cases v.rules.find? fun s => s.covers category with
  | none => simp
  | some r =>
    constructor
    · intro h
      exact ⟨r, rfl, (Except.ok.inj h).symm⟩
    · rintro ⟨r', hr', rfl⟩
      rw [Option.some.inj hr']

theorem assess_eq_error_iff {e : Uncovered} :
    v.assess text category evidence = .error e ↔
      (∀ r ∈ v.rules, r.covers category = false) ∧ e = ⟨category⟩ := by
  have hnone : (v.rules.find? fun s => s.covers category) = none ↔
      ∀ r ∈ v.rules, r.covers category = false := by
    rw [List.find?_eq_none]
    simp only [Bool.not_eq_true]
  rw [← hnone]
  unfold assess
  cases v.rules.find? fun s => s.covers category with
  | none =>
    constructor
    · intro h
      exact ⟨rfl, (Except.error.inj h).symm⟩
    · rintro ⟨-, rfl⟩
      rfl
  | some r => simp

end

/-! ## The entries of a contract -/

section

variable {v : Verifier} {evidence : Evidence} {entries : List (Section × String)}

/-- The answer to an entry, or that there is none. -/
def assessEntry (v : Verifier) (evidence : Evidence) (e : Section × String) :
    Except Uncovered Assertion := v.assess e.2 (Clause.category e.2 e.1) evidence

theorem assessAll_cons (e : Section × String) (rest : List (Section × String)) :
    v.assessAll evidence (e :: rest) =
      v.assessEntry evidence e >>= fun a => v.assessAll evidence rest >>= fun as => .ok (a :: as) := by
  obtain ⟨s, text⟩ := e
  rw [assessAll, assessEntry]
  cases v.assess text (Clause.category text s) evidence with
  | error e => rfl
  | ok a => cases v.assessAll evidence rest <;> rfl

/-- There is a list of answers if each entry has its own. -/
theorem assessAll_eq_ok_iff {as : List Assertion} :
    v.assessAll evidence entries = .ok as ↔
      List.Forall₂ (fun e a => v.assessEntry evidence e = .ok a) entries as := by
  induction entries generalizing as with
  | nil => simp [assessAll, eq_comm]
  | cons e rest ih =>
    rw [assessAll_cons, List.forall₂_cons_left_iff]
    simp only [← ih]
    cases v.assessEntry evidence e with
    | error e => simp [bind, Except.bind]
    | ok a =>
      cases v.assessAll evidence rest with
      | error e => simp [bind, Except.bind]
      | ok as => simp [bind, Except.bind, eq_comm]

/-- There is an error if an entry has one and all entries before it are answered. -/
theorem assessAll_eq_error_iff {err : Uncovered} :
    v.assessAll evidence entries = .error err ↔
      ∃ before e after, entries = before ++ e :: after ∧
        (∀ d ∈ before, ∃ a, v.assessEntry evidence d = .ok a) ∧
        v.assessEntry evidence e = .error err := by
  induction entries with
  | nil => simp [assessAll]
  | cons e rest ih =>
    rw [assessAll_cons]
    cases hfirst : v.assessEntry evidence e with
    | error e' =>
      have hstop : ((.error e' : Except Uncovered Assertion) >>= fun a =>
          v.assessAll evidence rest >>= fun as => .ok (a :: as)) = .error err ↔ e' = err := by
        simp [bind, Except.bind]
      rw [hstop]
      constructor
      · rintro rfl
        exact ⟨[], e, rest, rfl, List.forall_mem_nil _, hfirst⟩
      · rintro ⟨before, d, after, hentries, hbefore, hd⟩
        cases before with
        | nil =>
          obtain ⟨rfl, -⟩ := List.cons.inj hentries
          rw [hfirst] at hd
          exact Except.error.inj hd
        | cons b before =>
          -- The first entry has an error, so that it is not answered before another one.
          obtain ⟨rfl, -⟩ := List.cons.inj hentries
          obtain ⟨a, ha⟩ := hbefore e List.mem_cons_self
          rw [hfirst] at ha
          cases ha
    | ok a =>
      have hrest : ((.ok a : Except Uncovered Assertion) >>= fun a =>
          v.assessAll evidence rest >>= fun as => .ok (a :: as)) = .error err ↔
          v.assessAll evidence rest = .error err := by
        cases v.assessAll evidence rest <;> simp [bind, Except.bind]
      rw [hrest, ih]
      constructor
      · rintro ⟨before, d, after, rfl, hbefore, hd⟩
        exact ⟨e :: before, d, after, rfl, List.forall_mem_cons.2 ⟨⟨a, hfirst⟩, hbefore⟩, hd⟩
      · rintro ⟨before, d, after, hentries, hbefore, hd⟩
        cases before with
        | nil =>
          obtain ⟨rfl, -⟩ := List.cons.inj hentries
          rw [hfirst] at hd
          cases hd
        | cons b before =>
          obtain ⟨rfl, rfl⟩ := List.cons.inj hentries
          exact ⟨before, d, after, rfl, (List.forall_mem_cons.1 hbefore).2, hd⟩

theorem exists_assessAll_eq_error_iff :
    (∃ err, v.assessAll evidence entries = .error err) ↔
      ∃ e ∈ entries, ∃ err, v.assessEntry evidence e = .error err := by
  constructor
  · rintro ⟨err, h⟩
    obtain ⟨before, e, after, rfl, -, he⟩ := assessAll_eq_error_iff.1 h
    exact ⟨e, by simp, err, he⟩
  · rintro ⟨e, he, err, herr⟩
    cases h : v.assessAll evidence entries with
    | error err' => exact ⟨err', rfl⟩
    | ok as =>
      have hanswered : List.Forall₂ (fun e a => (∃ a, v.assessEntry evidence e = .ok a) ∧
          v.assessEntry evidence e = .ok a) entries as :=
        (assessAll_eq_ok_iff.1 h).imp fun d a hd => ⟨⟨a, hd⟩, hd⟩
      obtain ⟨a, ha⟩ := ((List.forall₂_and_left _ _).1 hanswered).1 e he
      rw [herr] at ha
      cases ha

end

/-! ## Results and errors -/

section

variable {listed registered : List Rule} {settings : Settings} {evidence : Evidence}
  {e : Section × String}

theorem assessEntry_registered_eq_ok_iff {a : Assertion} :
    (registerAll ⟨listed, settings⟩ registered).assessEntry evidence e = .ok a ↔
      ∃ r, Rule.Chosen listed registered (Clause.category e.2 e.1) r ∧
        a = r.assess e.2 (Clause.category e.2 e.1) evidence := by
  rw [registerAll_eq, assessEntry, assess_eq_ok_iff]
  simp only [find?_covers_eq_some_iff]

theorem assessEntry_registered_eq_error_iff {err : Uncovered} :
    (registerAll ⟨listed, settings⟩ registered).assessEntry evidence e = .error err ↔
      (∀ r ∈ registered ++ listed, r.covers (Clause.category e.2 e.1) = false) ∧
        err = ⟨Clause.category e.2 e.1⟩ := by
  rw [registerAll_eq, assessEntry, assess_eq_error_iff]
  simp only [List.mem_append, List.mem_reverse]

/-- A question is answered if some rule covers the category. -/
theorem exists_assessEntry_registered_iff :
    (∃ a, (registerAll ⟨listed, settings⟩ registered).assessEntry evidence e = .ok a) ↔
      ∃ r ∈ registered ++ listed, r.covers (Clause.category e.2 e.1) = true := by
  have herror (err : Uncovered) :
      (registerAll ⟨listed, settings⟩ registered).assessEntry evidence e = .error err ↔
        (∀ r ∈ registered ++ listed, r.covers (Clause.category e.2 e.1) = false) ∧
          err = ⟨Clause.category e.2 e.1⟩ := assessEntry_registered_eq_error_iff
  cases h : (registerAll ⟨listed, settings⟩ registered).assessEntry evidence e with
  | error err =>
    have hnone := ((herror err).1 h).1
    constructor
    · rintro ⟨a, ha⟩
      cases ha
    · rintro ⟨r, hr, hcovers⟩
      rw [hnone r hr] at hcovers
      cases hcovers
  | ok a =>
    refine iff_of_true ⟨a, rfl⟩ ?_
    by_contra hnone
    push Not at hnone
    have hcovers : ∀ r ∈ registered ++ listed, r.covers (Clause.category e.2 e.1) = false := by
      intro r hr
      simpa using hnone r hr
    rw [(herror _).2 ⟨hcovers, rfl⟩] at h
    cases h

end

theorem verify_eq_error_iff {v : Verifier} {u : Implementation} {outline : Option Outline}
    {err : Uncovered} :
    v.verify u outline = .error err ↔
      v.assessAll ⟨u.text, outline, v.settings⟩ u.contract.entries = .error err := by
  unfold verify
  cases v.assessAll ⟨u.text, outline, v.settings⟩ u.contract.entries <;> simp

/-- A result says of the unit what the answers say. -/
theorem verify_eq_ok_iff_assessAll {v : Verifier} {u : Implementation} {outline : Option Outline}
    {result : Result} :
    v.verify u outline = .ok result ↔
      v.assessAll ⟨u.text, outline, v.settings⟩ u.contract.entries = .ok result.assertions ∧
        result.unitId = u.id ∧ result.advisories = u.contract.advisories ∧
        (result.status = .proven ↔ ∀ a ∈ result.assertions, a.passed = true) := by
  unfold verify
  cases v.assessAll ⟨u.text, outline, v.settings⟩ u.contract.entries with
  | error e => simp
  | ok as =>
    rcases result with ⟨unitId, status, assertions, advisories⟩
    dsimp only
    rw [← List.all_eq_true]
    constructor
    · intro h
      obtain ⟨rfl, rfl, rfl, rfl⟩ := Result.mk.inj (Except.ok.inj h)
      refine ⟨rfl, rfl, rfl, ?_⟩
      cases as.all Assertion.passed <;> simp
    · rintro ⟨has, rfl, rfl, hstatus⟩
      obtain rfl := Except.ok.inj has
      -- There are two statuses, so that the condition for one of them settles which it is.
      have hall : status = if as.all Assertion.passed then .proven else .failed := by
        by_cases hpassed : as.all Assertion.passed = true
        · rw [if_pos hpassed]
          exact hstatus.2 hpassed
        · rw [if_neg hpassed]
          cases status with
          | proven => exact absurd (hstatus.1 rfl) hpassed
          | failed => rfl
      rw [hall]

/-- **The newest registered rule answers, then the first listed one.** -/
theorem verify_dispatch (listed registered : List Rule) (settings : Settings) (u : Implementation)
    (outline : Option Outline) :
    let v := registered.foldl register ⟨listed, settings⟩
    let rules := registered ++ listed
    let category := fun e : Section × String => Clause.category e.2 e.1
    let entries :=
      u.contract.requires.map (fun t => (Section.requires, t)) ++
        u.contract.onSuccess.map (fun t => (Section.onSuccess, t)) ++
        u.contract.onFailure.map (fun t => (Section.onFailure, t)) ++
        u.contract.invariants.map (fun t => (Section.invariants, t)) ++
        u.contract.fails.map (fun f => (Section.fails, f.errorType))
    ((∃ err, v.verify u outline = .error err) ↔
      ∃ e ∈ entries, ∀ r ∈ rules, r.covers (category e) = false) ∧
    (∀ err, v.verify u outline = .error err ↔
      ∃ before e after, entries = before ++ e :: after ∧
        (∀ d ∈ before, ∃ r ∈ rules, r.covers (category d) = true) ∧
        (∀ r ∈ rules, r.covers (category e) = false) ∧ err = ⟨category e⟩) ∧
    ∀ result, v.verify u outline = .ok result ↔
      List.Forall₂ (fun e a => ∃ r, Rule.Chosen listed registered (category e) r ∧
        a = r.assess e.2 (category e) ⟨u.text, outline, settings⟩) entries result.assertions ∧
      result.unitId = u.id ∧ result.advisories = u.contract.advisories ∧
      (result.status = .proven ↔ ∀ a ∈ result.assertions, a.passed = true) := by
  intro v rules category entries
  have hv : v = registerAll ⟨listed, settings⟩ registered := rfl
  have hentries : u.contract.entries = entries := Contract.entries_eq u.contract
  have hsettings : v.settings = settings := by rw [hv, registerAll_eq]
  have hcovered (d : Section × String) :
      (∃ a, (registerAll ⟨listed, settings⟩ registered).assessEntry
        ⟨u.text, outline, settings⟩ d = .ok a) ↔ ∃ r ∈ rules, r.covers (category d) = true :=
    exists_assessEntry_registered_iff
  refine ⟨?_, ?_, ?_⟩
  · simp only [verify_eq_error_iff, exists_assessAll_eq_error_iff, hentries, hv,
      assessEntry_registered_eq_error_iff, exists_and_left, exists_eq, and_true]
    rfl
  · intro err
    rw [verify_eq_error_iff, assessAll_eq_error_iff, hentries, hsettings, hv]
    simp only [hcovered, assessEntry_registered_eq_error_iff]
    rfl
  · intro result
    rw [verify_eq_ok_iff_assessAll, hentries, hsettings, assessAll_eq_ok_iff, hv]
    simp only [assessEntry_registered_eq_ok_iff]
    rfl

end Verifier

end Conformance
