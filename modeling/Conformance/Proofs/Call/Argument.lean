import Mathlib.Data.List.TakeWhile
import Conformance.Call.Argument
import Conformance.Proofs.Text.WholeWord

/-! # Which calls of a text are met

The search goes on behind the opening parenthesis of each call that it meets, so there are places it
never looks at. It misses no argument list if a call that begins at such a place shares its list with
the call that was met.

* `Apart`: a call that begins inside the head of another one has the same parenthesis.
* `MeetsFrom`: an argument list belongs to a call of the text, wherever the call stands.
* `mem_argumentLists_iff`: the search finds the argument lists of all calls that are apart.
-/

namespace Conformance.Call
open Text
set_option autoImplicit false

/-- Putting longer names first changes their order alone. -/
theorem mem_longestFirst {names : List String} {cs : List Char} :
    cs ∈ longestFirst names ↔ cs ∈ names.map String.toList :=
  (List.mergeSort_perm _ _).mem_iff

theorem forall_longestFirst {names : List String} {p : List Char → Prop}
    (h : ∀ name ∈ names, p name.toList) : ∀ cs ∈ longestFirst names, p cs := by
  intro cs hcs
  obtain ⟨name, hname, rfl⟩ := List.mem_map.1 (mem_longestFirst.1 hcs)
  exact h name hname

variable {joins : Char → Bool} {head? : List Char → Option (List Char)}

/-- A call has a first character, and another call that begins between that one and the opening
parenthesis opens there too. -/
structure Apart (joins : Char → Bool) (head? : List Char → Option (List Char)) : Prop where
  nil : head? [] = none
  inside : ∀ c front back rest rest', head? (c :: (front ++ back)) = some rest →
    joinsAfter joins (joins c) front = false → head? back = some rest' →
    back.length ≤ rest.length ∨ rest' = rest

/-- The argument list is that of a call at least `skip` characters into the text, which begins at
position `pos`. -/
def MeetsFrom (joins : Char → Bool) (head? : List Char → Option (List Char)) (pos skip : Nat)
    (joined : Bool) (text : List Char) (a : ArgumentList) : Prop :=
  ∃ front back rest, text = front ++ back ∧ skip ≤ front.length ∧
    joinsAfter joins joined front = false ∧ head? back = some rest ∧
    a = ⟨pos + front.length + (back.length - rest.length), argumentText rest⟩

section

variable {pos skip : Nat} {joined : Bool} {c : Char} {r rest : List Char} {a : ArgumentList}

theorem not_meetsFrom_nil (hnil : head? [] = none) : ¬ MeetsFrom joins head? pos skip joined [] a := by
  rintro ⟨front, back, rest, htext, -, -, hhead, -⟩
  obtain ⟨-, rfl⟩ := List.append_eq_nil_iff.1 htext.symm
  rw [hnil] at hhead
  cases hhead

/-- A call that does not begin at the first character begins behind it. -/
theorem meetsFrom_tail (joined : Bool) :
    MeetsFrom joins head? (pos + 1) skip (joins c) r a ↔
      ∃ front back rest, r = front ++ back ∧ skip ≤ front.length ∧
        joinsAfter joins joined (c :: front) = false ∧ head? back = some rest ∧
        a = ⟨pos + (c :: front).length + (back.length - rest.length), argumentText rest⟩ := by
  simp only [MeetsFrom, joinsAfter_cons, List.length_cons, Nat.add_assoc, Nat.add_comm 1]

theorem meetsFrom_succ :
    MeetsFrom joins head? pos (skip + 1) joined (c :: r) a ↔
      MeetsFrom joins head? (pos + 1) skip (joins c) r a := by
  rw [meetsFrom_tail joined]
  constructor
  · rintro ⟨front, back, rest, htext, hskip, hfront, hhead, ha⟩
    cases front with
    | nil => exact absurd hskip (by simp)
    | cons d front =>
      obtain ⟨rfl, rfl⟩ := List.cons.inj htext
      exact ⟨front, back, rest, rfl, Nat.le_of_succ_le_succ hskip, hfront, hhead, ha⟩
  · rintro ⟨front, back, rest, rfl, hskip, hfront, hhead, ha⟩
    exact ⟨c :: front, back, rest, rfl, Nat.succ_le_succ hskip, hfront, hhead, ha⟩

/-- The first character is the place of a call, or it is passed over. -/
theorem meetsFrom_zero :
    MeetsFrom joins head? pos 0 joined (c :: r) a ↔
      (joined = false ∧ ∃ rest, head? (c :: r) = some rest ∧
        a = ⟨pos + ((c :: r).length - rest.length), argumentText rest⟩) ∨
      MeetsFrom joins head? (pos + 1) 0 (joins c) r a := by
  rw [meetsFrom_tail joined]
  constructor
  · rintro ⟨front, back, rest, htext, -, hfront, hhead, ha⟩
    cases front with
    | nil =>
      rw [List.nil_append] at htext
      subst htext
      exact .inl ⟨hfront, rest, hhead, ha⟩
    | cons d front =>
      obtain ⟨rfl, rfl⟩ := List.cons.inj htext
      exact .inr ⟨front, back, rest, rfl, Nat.zero_le _, hfront, hhead, ha⟩
  · rintro (⟨hjoined, rest, hhead, ha⟩ | ⟨front, back, rest, rfl, -, hfront, hhead, ha⟩)
    · exact ⟨[], c :: r, rest, rfl, Nat.zero_le _, hjoined, hhead, ha⟩
    · exact ⟨c :: front, back, rest, rfl, Nat.zero_le _, hfront, hhead, ha⟩

/-- Behind the first character of a call no argument list is missed up to its parenthesis. -/
theorem meetsFrom_skip (hapart : Apart joins head?) (hhead : head? (c :: r) = some rest) (pos : Nat)
    (a : ArgumentList) :
    (a = ⟨pos + ((c :: r).length - rest.length), argumentText rest⟩ ∨
      MeetsFrom joins head? (pos + 1) ((c :: r).length - rest.length - 1) (joins c) r a) ↔
    (a = ⟨pos + ((c :: r).length - rest.length), argumentText rest⟩ ∨
      MeetsFrom joins head? (pos + 1) 0 (joins c) r a) := by
  constructor
  · rintro (ha | ⟨front, back, rest', rfl, -, hfront, hback, ha⟩)
    · exact .inl ha
    · exact .inr ⟨front, back, rest', rfl, Nat.zero_le _, hfront, hback, ha⟩
  · rintro (ha | ⟨front, back, rest', rfl, -, hfront, hback, ha⟩)
    · exact .inl ha
    by_cases hlength : back.length ≤ rest.length
    · refine .inr ⟨front, back, rest', rfl, ?_, hfront, hback, ha⟩
      rw [List.length_cons, List.length_append]
      omega
    · -- The call that was met opens at the same parenthesis.
      have hsame : rest' = rest :=
        (hapart.inside c front back rest rest' hhead hfront hback).resolve_left hlength
      refine .inl ?_
      rw [ha, hsame]
      congr 1
      rw [List.length_cons, List.length_append]
      omega

end

/-- Induction on the text; the search is generalised over what it is about to pass over. -/
theorem mem_argumentListsFrom_iff (hapart : Apart joins head?) {text : List Char} {pos skip : Nat}
    {joined : Bool} {a : ArgumentList} :
    a ∈ argumentListsFrom joins head? pos skip joined text ↔
      MeetsFrom joins head? pos skip joined text a := by
  induction text generalizing pos skip joined with
  | nil => simp [argumentListsFrom, not_meetsFrom_nil hapart.nil]
  | cons c r ih =>
    cases skip with
    | succ skip => rw [argumentListsFrom, ih, meetsFrom_succ]
    | zero =>
      rw [argumentListsFrom, meetsFrom_zero]
      cases joined with
      | true => simp [ih]
      | false =>
        cases hhead : head? (c :: r) with
        | none => simp [ih]
        | some rest =>
          have hskip := meetsFrom_skip hapart hhead pos a
          rw [← ih] at hskip
          simpa using hskip

theorem mem_argumentLists_iff (hapart : Apart joins head?) (text : List Char) (a : ArgumentList) :
    a ∈ argumentLists joins head? text ↔
      ∃ front back rest, text = front ++ back ∧ joinsAfter joins false front = false ∧
        head? back = some rest ∧
        a = ⟨front.length + (back.length - rest.length), argumentText rest⟩ := by
  unfold argumentLists
  rw [mem_argumentListsFrom_iff hapart]
  simp [MeetsFrom]

/-! ## Blanks before a parenthesis -/

theorem afterOpening?_eq_some_iff {text rest : List Char} :
    afterOpening? text = some rest ↔
      ∃ blanks, (∀ c ∈ blanks, isSpace c = true) ∧ text = blanks ++ '(' :: rest := by
  have hdrop : afterOpening? text = some rest ↔ text.dropWhile isSpace = '(' :: rest := by
    unfold afterOpening?
    split
    · next r hr => rw [hr, Option.some.injEq, List.cons.injEq, and_iff_right rfl]
    · next hr => exact ⟨fun h => (nomatch h), fun h => absurd h (hr rest)⟩
  rw [hdrop]
  constructor
  · intro h
    refine ⟨text.takeWhile isSpace, fun c hc => List.mem_takeWhile_imp hc, ?_⟩
    rw [← h, List.takeWhile_append_dropWhile]
  · rintro ⟨blanks, hblanks, rfl⟩
    have hopening : ¬ isSpace '(' = true := by decide
    rw [List.dropWhile_append_of_pos hblanks, List.dropWhile_cons_of_neg hopening]

end Conformance.Call
