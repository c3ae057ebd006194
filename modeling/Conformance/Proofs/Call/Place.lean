import Conformance.Proofs.Call.Argument

/-! # Calls by their places

A call of a text is told by two places: where its head begins, and where the parenthesis stands that
opens its argument list.

* `CallAt`: a call with a head of some form stands between two places.
* `extract_argumentEnd`: the argument list is the text between the parenthesis and its end.
* `mem_argumentLists_iff_callAt`: the search finds the argument lists of all calls.
* `any_holds_iff_callAt`: which positions lie in one of these lists.
-/

namespace Conformance.Call
open Text
set_option autoImplicit false

/-! ## The argument list -/

theorem argumentTextFrom_prefix (depth : Nat) (quote : Option Char) (rest : List Char) :
    argumentTextFrom depth quote rest <+: rest := by
  fun_induction argumentTextFrom depth quote rest with
  | case1 => exact List.prefix_refl _
  | case2 => exact List.prefix_refl _
  | case3 depth q c r ih => exact (List.prefix_cons_inj _).2 ((List.prefix_cons_inj _).2 ih)
  | case7 => exact List.nil_prefix
  | case4 _ _ _ _ _ _ ih | case5 _ _ _ _ ih | case6 _ _ _ ih | case8 _ _ _ _ ih
  | case9 _ _ _ _ _ _ ih => exact (List.prefix_cons_inj _).2 ih

/-- From a parenthesis to its end, the text is the argument list. -/
theorem extract_argumentEnd (text : List Char) (j : Nat) :
    text.extract (j + 1) (argumentEnd text j) = argumentText (text.drop (j + 1)) := by
  have hprefix : argumentText (text.drop (j + 1)) <+: text.drop (j + 1) :=
    argumentTextFrom_prefix 0 none _
  rw [List.extract_eq_take_drop, argumentEnd, Nat.add_sub_cancel_left]
  exact (List.prefix_iff_eq_take.1 hprefix).symm

/-- The positions that an argument list holds are those from its parenthesis to its end. -/
theorem holds_iff {text : List Char} {j q : Nat} :
    ArgumentList.holds ⟨j + 1, text.extract (j + 1) (argumentEnd text j)⟩ q = true ↔
      j < q ∧ q < argumentEnd text j := by
  unfold ArgumentList.holds ArgumentList.stop
  rw [extract_argumentEnd, Bool.and_eq_true, decide_eq_true_eq, decide_eq_true_eq]
  exact Iff.rfl

/-! ## Calls -/

/-- Between the places `i` and `j` stands the head of a call, and at `j` its parenthesis. The head has
the form and nothing of the class runs into it. -/
structure CallAt (joins : Char → Bool) (IsHead : List Char → Prop) (text : List Char) (i j : Nat) :
    Prop where
  lt : i < j
  notBehind : NotBehind joins text i
  isHead : IsHead (text.extract i j)
  opening : text[j]? = some '('

/-- The search for heads accepts the form, and heads of the form are not empty. -/
structure Accepts (head? : List Char → Option (List Char)) (IsHead : List Char → Prop) : Prop where
  eq_some_iff : ∀ text rest, head? text = some rest ↔ ∃ head, text = head ++ '(' :: rest ∧ IsHead head
  ne_nil : ∀ head, IsHead head → head ≠ []

variable {joins : Char → Bool} {head? : List Char → Option (List Char)}
  {IsHead : List Char → Prop}

theorem CallAt.split {text : List Char} {i j : Nat} (h : CallAt joins IsHead text i j) :
    ∃ front head rest, text = front ++ (head ++ '(' :: rest) ∧
      joinsAfter joins false front = false ∧ IsHead head ∧ front.length = i ∧
      front.length + head.length = j := by
  obtain ⟨hj, hopening⟩ := List.getElem?_eq_some_iff.1 h.opening
  have hlt := h.lt
  have hfront : (text.take i).length = i := by
    rw [List.length_take]
    omega
  have hhead : (text.extract i j).length = j - i := by
    rw [List.extract_eq_take_drop, List.length_take, List.length_drop]
    omega
  have htext : text = text.take i ++ (text.extract i j ++ '(' :: text.drop (j + 1)) := by
    have hrest : text.drop j = '(' :: text.drop (j + 1) := by
      rw [List.drop_eq_getElem_cons hj, hopening]
    have hdrop : (text.drop i).drop (j - i) = text.drop j := by
      rw [List.drop_drop]
      congr 1
      omega
    rw [← hrest, ← hdrop, List.extract_eq_take_drop, List.take_append_drop, List.take_append_drop]
  refine ⟨_, _, _, htext, ?_, h.isHead, hfront, ?_⟩
  · have hplace : NotBehind joins (text.take i ++ (text.extract i j ++ '(' :: text.drop (j + 1)))
        (text.take i).length := by
      rw [hfront, ← htext]
      exact h.notBehind
    exact notBehind_append_iff.1 hplace
  · omega

theorem callAt_of_split {front head rest : List Char} (hne : head ≠ [])
    (hfront : joinsAfter joins false front = false) (hhead : IsHead head) :
    CallAt joins IsHead (front ++ (head ++ '(' :: rest)) front.length (front.length + head.length) where
  lt := Nat.lt_add_of_pos_right (List.length_pos_iff.2 hne)
  notBehind := notBehind_append_iff.2 hfront
  isHead := by
    rw [List.extract_eq_take_drop, Nat.add_sub_cancel_left]
    simpa using hhead
  opening := by simp

/-- The search counts the position of an argument list from the end of the text, the call from its
beginning. -/
theorem argumentList_split (front head rest : List Char) :
    (⟨front.length + ((head ++ '(' :: rest).length - rest.length), argumentText rest⟩ :
        ArgumentList) =
      ⟨front.length + head.length + 1,
        (front ++ (head ++ '(' :: rest)).extract (front.length + head.length + 1)
          (argumentEnd (front ++ (head ++ '(' :: rest)) (front.length + head.length))⟩ := by
  have hstart : front.length + ((head ++ '(' :: rest).length - rest.length) =
      front.length + head.length + 1 := by
    rw [List.length_append, List.length_cons]
    omega
  have hdrop : (front ++ (head ++ '(' :: rest)).drop (front.length + head.length + 1) = rest := by
    rw [Nat.add_assoc, ← List.drop_drop, List.drop_left, ← List.drop_drop, List.drop_left]
    rfl
  rw [extract_argumentEnd, hdrop, hstart]

section

variable (hapart : Apart joins head?) (haccepts : Accepts head? IsHead) (text : List Char)
include hapart haccepts

/-- The search meets all calls of a text, wherever they stand. -/
theorem mem_argumentLists_iff_callAt (a : ArgumentList) :
    a ∈ argumentLists joins head? text ↔
      ∃ i j, CallAt joins IsHead text i j ∧
        a = ⟨j + 1, text.extract (j + 1) (argumentEnd text j)⟩ := by
  rw [mem_argumentLists_iff hapart]
  constructor
  · rintro ⟨front, back, rest, rfl, hfront, hback, rfl⟩
    obtain ⟨head, rfl, hhead⟩ := (haccepts.eq_some_iff back rest).1 hback
    exact ⟨_, _, callAt_of_split (haccepts.ne_nil head hhead) hfront hhead,
      argumentList_split front head rest⟩
  · rintro ⟨i, j, hcall, rfl⟩
    obtain ⟨front, head, rest, rfl, hfront, hhead, rfl, rfl⟩ := hcall.split
    exact ⟨front, _, rest, rfl, hfront, (haccepts.eq_some_iff _ rest).2 ⟨head, rfl, hhead⟩,
      (argumentList_split front head rest).symm⟩

/-- A position is held by a list that is met just if it lies in the arguments of a call. -/
theorem any_holds_iff_callAt (q : Nat) :
    ((argumentLists joins head? text).any fun a => a.holds q) = true ↔
      ∃ i j, CallAt joins IsHead text i j ∧ j < q ∧ q < argumentEnd text j := by
  rw [List.any_eq_true]
  constructor
  · rintro ⟨a, ha, hholds⟩
    obtain ⟨i, j, hcall, rfl⟩ := (mem_argumentLists_iff_callAt hapart haccepts text a).1 ha
    exact ⟨i, j, hcall, holds_iff.1 hholds⟩
  · rintro ⟨i, j, hcall, hholds⟩
    exact ⟨_, (mem_argumentLists_iff_callAt hapart haccepts text _).2 ⟨i, j, hcall, rfl⟩,
      holds_iff.2 hholds⟩

end

end Conformance.Call
