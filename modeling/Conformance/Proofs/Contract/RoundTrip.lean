import Conformance.Contract.Reading
import Conformance.Contract.Writing

/-! # What is written is read back

* `Checked.list_map`, `Checked.choice_name`: a list, and one of a fixed set of texts.
* `Implementation.read_toValue`, `Result.read_toValue`, `Plan.read_toValue`: each is what is read of its
  exchange form.
-/

namespace Conformance
set_option autoImplicit false

/-! ## Lists and names -/

namespace Checked

variable {α : Type} {read : Value → Checked α} {write : α → Value}

theorem each_map (h : ∀ a, read (write a) = ok a) (i : Nat) (l : List α) :
    each read i (l.map write) = ok l := by
  induction l generalizing i with
  | nil => rfl
  | cons a rest ih =>
    rw [List.map_cons, each, h, ih]
    rfl

theorem list_map (h : ∀ a, read (write a) = ok a) (l : List α) :
    list read (.list (l.map write)) = ok l := each_map h 0 l

theorem choice_name {ofName? : String → Option α} {name : α → String}
    (h : ∀ a, ofName? (name a) = some a) (a : α) : choice ofName? (.str (name a)) = ok a := by
  simp only [choice, h]

end Checked

theorem Language.ofName?_name (l : Language) : ofName? l.name = some l := by cases l <;> rfl

theorem Category.ofName?_name (c : Category) : ofName? c.name = some c := by cases c <;> rfl

theorem Level.ofName?_name (l : Level) : ofName? l.name = some l := by cases l <;> rfl

theorem Status.ofName?_name (s : Status) : ofName? s.name = some s := by cases s <;> rfl

theorem InsertionPoint.ofName?_name (p : InsertionPoint) : ofName? p.name = some p := by
  cases p <;> rfl

open Checked

/-! ## Contracts -/

theorem FailureMode.read_toValue (f : FailureMode) : read f.toValue = .ok f := rfl

theorem Advisory.read_toValue (a : Advisory) : read a.toValue = .ok a := rfl

namespace Contract

theorem list_longSection_map {α : Type} {item : Value → Checked α} {write : α → Value}
    (h : ∀ a, item (longEntry (write a)) = .ok a) (l : List α) :
    list item (longSection (.list (l.map write))) = .ok l := by
  have hitems : longSection (.list (l.map write)) = .list (l.map (longEntry ∘ write)) := by
    rw [← List.map_map]
    rfl
  rw [hitems]
  exact list_map h l

theorem clauses_toValue (texts : List String) :
    list readClause (longSection (.list (texts.map clauseValue))) = .ok texts :=
  list_longSection_map (fun _ => rfl) texts

theorem read_toValue (c : Contract) : read c.toValue = .ok c := by
  have hadvisories : list Advisory.read (longSection (.list (c.advisories.map Advisory.toValue))) =
      .ok c.advisories := list_longSection_map Advisory.read_toValue c.advisories
  have hfails : list FailureMode.read (longFails (.list (c.fails.map FailureMode.toValue))) =
      .ok c.fails := list_map FailureMode.read_toValue c.fails
  -- Each field is found under its name.
  have hfields : read c.toValue = Contract.mk
      <$> under (.key "requires")
        (list readClause (longSection (.list (c.requires.map clauseValue))))
      <*> under (.key "on_success")
        (list readClause (longSection (.list (c.onSuccess.map clauseValue))))
      <*> under (.key "on_failure")
        (list readClause (longSection (.list (c.onFailure.map clauseValue))))
      <*> under (.key "invariants")
        (list readClause (longSection (.list (c.invariants.map clauseValue))))
      <*> under (.key "fails")
        (list FailureMode.read (longFails (.list (c.fails.map FailureMode.toValue))))
      <*> under (.key "advisories")
        (list Advisory.read (longSection (.list (c.advisories.map Advisory.toValue)))) := rfl
  rw [hfields, hfails, hadvisories]
  simp only [clauses_toValue]
  rfl

end Contract

theorem Implementation.read_toValue (u : Implementation) : read u.toValue = .ok u := by
  have hpath : stringOrNull (Value.ofText? u.path) = .ok u.path := by
    cases u.path <;> rfl
  have hfields : read u.toValue = Implementation.mk <$> .ok u.id <*> .ok u.purpose
      <*> under (.key "contract") (Contract.read u.contract.toValue) <*> .ok u.text
      <*> under (.key "implementation_path") (stringOrNull (Value.ofText? u.path))
      <*> under (.key "language") (choice Language.ofName? (.str u.language.name)) := rfl
  rw [hfields, Contract.read_toValue, hpath, choice_name Language.ofName?_name]
  rfl

/-! ## Results and plans -/

theorem Assertion.read_toValue (a : Assertion) : read a.toValue = .ok a := by
  have hfields : read a.toValue = Assertion.mk <$> .ok a.text
      <*> under (.key "category") (choice Category.ofName? (.str a.category.name)) <*> .ok a.passed
      <*> under (.key "level") (choice Level.ofName? (.str a.level.name)) <*> .ok a.message := rfl
  rw [hfields, choice_name Category.ofName?_name, choice_name Level.ofName?_name]
  rfl

theorem Result.read_toValue (r : Result) : read r.toValue = .ok r := by
  have hfields : read r.toValue = Result.mk <$> .ok r.unitId
      <*> under (.key "status") (choice Status.ofName? (.str r.status.name))
      <*> under (.key "assertions") (list Assertion.read (.list (r.assertions.map Assertion.toValue)))
      <*> under (.key "advisories") (list Advisory.read (.list (r.advisories.map Advisory.toValue))) := rfl
  rw [hfields, choice_name Status.ofName?_name, list_map Assertion.read_toValue,
    list_map Advisory.read_toValue]
  rfl

theorem Check.read_toValue (c : Check) : read c.toValue = .ok c := by
  have hfields : read c.toValue = Check.mk <$> .ok c.text
      <*> under (.key "category") (choice Category.ofName? (.str c.category.name))
      <*> under (.key "level") (choice Level.ofName? (.str c.level.name))
      <*> under (.key "insertion_point")
        (choice InsertionPoint.ofName? (.str c.insertionPoint.name))
      <*> .ok c.guard <*> .ok c.errorMessage := rfl
  rw [hfields, choice_name Category.ofName?_name, choice_name Level.ofName?_name,
    choice_name InsertionPoint.ofName?_name]
  rfl

theorem Plan.read_toValue (p : Plan) : read p.toValue = .ok p := by
  have hfields : read p.toValue = Plan.mk <$> .ok p.unitId
      <*> under (.key "checks") (list Check.read (.list (p.checks.map Check.toValue))) := rfl
  rw [hfields, list_map Check.read_toValue]
  rfl

end Conformance
