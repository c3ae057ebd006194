import Conformance.Text.WholeWord

/-! # Where a word occurs

A search for a whole word looks at every place of the text, so that an occurrence inside a longer
name hides no later one.

* `joinsAfter`: whether a character of a class stands directly behind a part of the text.
* `NotBehind`: the same of a place, in the negative.
* `Occurs`: the word stands in the text with no name character on either side.
* `containsWord_iff_occurs`: this is what the search finds.
* `OccursAt`: the word stands so at one place.
-/

namespace Conformance.Text
set_option autoImplicit false

/-- Over the characters of a list alone, where `decide` might go through all characters there are. -/
theorem forall_of_all {cs : List Char} {P : Char → Prop} [DecidablePred P]
    (h : (cs.all fun c => decide (P c)) = true) : ∀ c ∈ cs, P c :=
  fun c hc => of_decide_eq_true (List.all_eq_true.1 h c hc)

/-! ## The character before a place -/

/-- Whether the last character of `front` satisfies `p`; `joined` answers for the empty `front`. -/
def joinsAfter (p : Char → Bool) (joined : Bool) (front : List Char) : Bool :=
  (front.getLast?.map p).getD joined

section

variable {p : Char → Bool} {joined : Bool} {front back : List Char} {c : Char}

theorem joinsAfter_nil : joinsAfter p joined [] = joined := rfl

@[simp] theorem joinsAfter_cons : joinsAfter p joined (c :: front) = joinsAfter p (p c) front := by
  unfold joinsAfter
  rw [List.getLast?_cons]
  cases front.getLast? <;> rfl

theorem joinsAfter_eq_false_iff :
    joinsAfter p false front = false ↔ ∀ c ∈ front.getLast?, p c = false := by
  unfold joinsAfter
  cases front.getLast? <;> simp

theorem joinsAfter_of_mem (h : ∀ d ∈ c :: front, p d = true) : joinsAfter p (p c) front = true := by
  unfold joinsAfter
  cases hlast : front.getLast? with
  | none => exact h c List.mem_cons_self
  | some d => exact h d (List.mem_cons_of_mem _ (List.mem_of_getLast? hlast))

theorem headIs_eq_false_iff : headIs p back = false ↔ ∀ c ∈ back.head?, p c = false := by
  cases back <;> simp [headIs]

/-- No character of the class stands directly before the place. -/
def NotBehind (p : Char → Bool) (text : List Char) (i : Nat) : Prop :=
  ∀ k c, i = k + 1 → text[k]? = some c → p c = false

theorem notBehind_append_iff :
    NotBehind p (front ++ back) front.length ↔ joinsAfter p false front = false := by
  rw [joinsAfter_eq_false_iff]
  rcases List.eq_nil_or_concat front with rfl | ⟨init, d, hfront⟩
  · simp [NotBehind]
  · rw [List.concat_eq_append] at hfront
    subst hfront
    have hlast : (init ++ [d] ++ back)[init.length]? = some d := by simp
    have hlength : (init ++ [d]).length = init.length + 1 := by simp
    rw [hlength, List.getLast?_append, List.getLast?_singleton, Option.some_or]
    constructor
    · intro h c hc
      rw [Option.mem_some_iff] at hc
      exact h init.length c rfl (hc ▸ hlast)
    · intro h k c hk hc
      have hk : k = init.length := by omega
      rw [hk, hlast] at hc
      exact h c hc

end

/-! ## The search -/

/-- Where all candidates that lead anywhere lead to the same, their order does not matter. -/
theorem findSome?_eq_some_iff_of_unique {α β : Type} {f : α → Option β} {l : List α}
    (h : ∀ a ∈ l, ∀ a' ∈ l, ∀ b b', f a = some b → f a' = some b' → b = b') {b : β} :
    l.findSome? f = some b ↔ ∃ a ∈ l, f a = some b := by
  constructor
  · exact List.exists_of_findSome?_eq_some
  · rintro ⟨a, ha, hb⟩
    have hsome : (l.findSome? f).isSome :=
      List.findSome?_isSome_iff.2 ⟨a, ha, by rw [hb]; rfl⟩
    obtain ⟨b', hfound⟩ := Option.isSome_iff_exists.1 hsome
    obtain ⟨a', ha', hb'⟩ := List.exists_of_findSome?_eq_some hfound
    rw [hfound, h a ha a' ha' b b' hb hb']

variable {word : List Char}

theorem startsWithWord_iff {text : List Char} :
    startsWithWord word text = true ↔
      ∃ back, text = word ++ back ∧ headIs isNameChar back = false := by
  unfold startsWithWord
  constructor
  · intro h
    split at h
    · next back hback => exact ⟨back, after?_eq_some_iff.1 hback, by simpa using h⟩
    · cases h
  · rintro ⟨back, htext, hback⟩
    rw [after?_eq_some_iff.2 htext]
    simpa using hback

/-- The search goes on behind every place, also behind one where the word starts but is only a part
of a name. -/
theorem hasWord_iff (hword : word ≠ []) {joined : Bool} {text : List Char} :
    hasWord word joined text = true ↔
      ∃ front back, text = front ++ word ++ back ∧ joinsAfter isNameChar joined front = false ∧
        headIs isNameChar back = false := by
  induction text generalizing joined with
  | nil => simp [hasWord, hword]
  | cons c r ih =>
    rw [hasWord, Bool.or_eq_true, Bool.and_eq_true, startsWithWord_iff, ih]
    constructor
    · rintro (⟨hjoined, back, htext, hback⟩ | ⟨front, back, rfl, hfront, hback⟩)
      · rw [Bool.not_eq_true'] at hjoined
        exact ⟨[], back, htext, joinsAfter_nil.trans hjoined, hback⟩
      · exact ⟨c :: front, back, rfl, by rw [joinsAfter_cons, hfront], hback⟩
    · rintro ⟨front, back, htext, hfront, hback⟩
      cases front with
      | nil =>
        rw [joinsAfter_nil, ← Bool.not_eq_true'] at hfront
        exact .inl ⟨hfront, back, htext, hback⟩
      | cons d front =>
        obtain ⟨rfl, rfl⟩ := List.cons.inj htext
        rw [joinsAfter_cons] at hfront
        exact .inr ⟨front, back, rfl, hfront, hback⟩

/-! ## Texts -/

/-- The word is not empty and stands in the text with no name character on either side of it. -/
def Occurs (word text : String) : Prop :=
  word ≠ "" ∧ ∃ before after : String, text = before ++ word ++ after ∧
    (∀ c ∈ before.toList.getLast?, isNameChar c = false) ∧
    ∀ c ∈ after.toList.head?, isNameChar c = false

theorem containsWord_iff_occurs {text word : String} :
    containsWord text word = true ↔ Occurs word text := by
  unfold containsWord Occurs
  rw [Bool.and_eq_true, Bool.not_eq_true', ← Bool.not_eq_true, String.isEmpty_iff]
  refine and_congr_right fun hword => ?_
  rw [hasWord_iff (by simpa using hword)]
  constructor
  · rintro ⟨front, back, htext, hfront, hback⟩
    refine ⟨.ofList front, .ofList back, ?_, ?_, ?_⟩
    · rw [← String.toList_inj]
      simpa using htext
    · rw [String.toList_ofList]
      exact joinsAfter_eq_false_iff.1 hfront
    · rw [String.toList_ofList]
      exact headIs_eq_false_iff.1 hback
  · rintro ⟨before, after, rfl, hbefore, hafter⟩
    exact ⟨before.toList, after.toList, by simp, joinsAfter_eq_false_iff.2 hbefore,
      headIs_eq_false_iff.2 hafter⟩

/-! ## Places -/

/-- The word stands at the place with no name character on either side of it. -/
structure OccursAt (word text : List Char) (q : Nat) : Prop where
  eq_word : text.extract q (q + word.length) = word
  notBehind : NotBehind isNameChar text q
  notBefore : ∀ c, text[q + word.length]? = some c → isNameChar c = false

theorem occursAt_iff (hword : word ≠ []) {text : List Char} {q : Nat} :
    OccursAt word text q ↔
      ∃ front back, text = front ++ (word ++ back) ∧ joinsAfter isNameChar false front = false ∧
        headIs isNameChar back = false ∧ front.length = q := by
  constructor
  · intro h
    have hslice : (text.drop q).take word.length = word := by
      have heq := h.eq_word
      rwa [List.extract_eq_take_drop, Nat.add_sub_cancel_left] at heq
    have hlength := congrArg List.length hslice
    rw [List.length_take, List.length_drop] at hlength
    have hpos : 0 < word.length := List.length_pos_iff.2 hword
    have hfront : (text.take q).length = q := by
      rw [List.length_take]
      omega
    have hrest : text.drop q = word ++ text.drop (q + word.length) := by
      have hsplit := List.take_append_drop word.length (text.drop q)
      rw [hslice, List.drop_drop] at hsplit
      exact hsplit.symm
    have htext : text = text.take q ++ (word ++ text.drop (q + word.length)) := by
      rw [← hrest, List.take_append_drop]
    refine ⟨_, _, htext, ?_, ?_, hfront⟩
    · have hplace : NotBehind isNameChar (text.take q ++ (word ++ text.drop (q + word.length)))
          (text.take q).length := by
        rw [hfront, ← htext]
        exact h.notBehind
      exact notBehind_append_iff.1 hplace
    · rw [headIs_eq_false_iff, List.head?_drop]
      exact fun c hc => h.notBefore c hc
  · rintro ⟨front, back, rfl, hfront, hback, rfl⟩
    refine ⟨?_, notBehind_append_iff.2 hfront, ?_⟩
    · rw [List.extract_eq_take_drop, Nat.add_sub_cancel_left, List.drop_left, List.take_left]
    · intro c hc
      rw [headIs_eq_false_iff] at hback
      refine hback c ?_
      rw [← List.append_assoc, ← List.length_append, List.getElem?_append_right (Nat.le_refl _),
        Nat.sub_self] at hc
      rw [List.head?_eq_getElem?]
      exact hc

end Conformance.Text
