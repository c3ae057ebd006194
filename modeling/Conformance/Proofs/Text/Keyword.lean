import Mathlib.Data.List.Forall2
import Conformance.Text.Keyword
import Conformance.Proofs.Text.WholeWord

/-! # How keywords are written

A keyword may be written in either case, and with the few letters that a case mapping takes to its
own. Most of these are found again by lower case, but not all: the long s, the dotless i and the
capital dotted I stay what they are.

* `Spells`: the characters are the letters of a word, each in one of its forms.
* `keyword?_eq_some_iff`: which keyword stands at the head of a text.
* `IsKeyword.map_lowerAscii_mem`: what lower case makes of a keyword.
-/

namespace Conformance.Text
set_option autoImplicit false

/-- The characters are the letters of the lower-case word, each in one of its forms. -/
def Spells (word cs : List Char) : Prop := List.Forall₂ (fun p c => isFormOf p c = true) word cs

def IsKeyword (words : List String) (cs : List Char) : Prop :=
  ∃ word ∈ words, Spells word.toList cs

instance (word cs : List Char) : Decidable (Spells word cs) :=
  inferInstanceAs (Decidable (List.Forall₂ _ word cs))

instance (words : List String) (cs : List Char) : Decidable (IsKeyword words cs) :=
  inferInstanceAs (Decidable (∃ word ∈ words, Spells word.toList cs))

def lowerLetters : List Char := "abcdefghijklmnopqrstuvwxyz".toList

/-- The words are made of lower-case letters. -/
def AreLower (words : List String) : Prop := ∀ word ∈ words, word.toList ⊆ lowerLetters

instance (words : List String) : Decidable (AreLower words) :=
  inferInstanceAs (Decidable (∀ word ∈ words, word.toList ⊆ lowerLetters))

/-- Forms of a letter that lower case does not take to the letter. -/
def strayForms : List Char := ['ſ', 'ı', 'İ']

variable {p c : Char} {word cs rest text : List Char} {words : List String}

/-! ## Forms of a letter -/

theorem isFormOf_iff :
    isFormOf p c = true ↔ c = p ∨ c = p.toUpper ∨ (p = 's' ∧ c = 'ſ') ∨ (p = 'k' ∧ c = '\u212a') ∨
      (p = 'i' ∧ (c = 'ı' ∨ c = 'İ')) := by
  simp only [isFormOf, Bool.or_eq_true, Bool.and_eq_true, beq_iff_eq, or_assoc]

theorem isWordChar_of_isFormOf (hp : p ∈ lowerLetters) (h : isFormOf p c = true) :
    isWordChar c = true := by
  have hboth : ∀ p ∈ lowerLetters, isWordChar p = true ∧ isWordChar p.toUpper = true :=
    forall_of_all (by decide)
  rcases isFormOf_iff.1 h with rfl | rfl | ⟨-, rfl⟩ | ⟨-, rfl⟩ | ⟨-, rfl | rfl⟩
  · exact (hboth c hp).1
  · exact (hboth p hp).2
  · decide +kernel
  · decide +kernel
  · decide +kernel
  · decide +kernel

theorem lowerAscii_of_isFormOf (hp : p ∈ lowerLetters) (h : isFormOf p c = true)
    (hc : c ∉ strayForms) : lowerAscii c = p := by
  have hboth : ∀ p ∈ lowerLetters, lowerAscii p = p ∧ lowerAscii p.toUpper = p :=
    forall_of_all (by decide)
  rcases isFormOf_iff.1 h with rfl | rfl | ⟨-, rfl⟩ | ⟨rfl, rfl⟩ | ⟨-, rfl | rfl⟩
  · exact (hboth c hp).1
  · exact (hboth p hp).2
  · exact absurd (by decide) hc
  · decide
  · exact absurd (by decide) hc
  · exact absurd (by decide) hc

theorem isNameStart_of_isFormOf (hp : p ∈ lowerLetters) (hplain : p ∉ ['s', 'k', 'i'])
    (h : isFormOf p c = true) : isNameStart c = true := by
  have hboth : ∀ p ∈ lowerLetters, isNameStart p = true ∧ isNameStart p.toUpper = true :=
    forall_of_all (by decide)
  rcases isFormOf_iff.1 h with rfl | rfl | ⟨rfl, -⟩ | ⟨rfl, -⟩ | ⟨rfl, -⟩
  · exact (hboth c hp).1
  · exact (hboth p hp).2
  · exact absurd (by decide) hplain
  · exact absurd (by decide) hplain
  · exact absurd (by decide) hplain

/-- Two letters have such forms. -/
theorem eq_of_isFormOf_strayForm (hp : p ∈ lowerLetters) (hc : c ∈ strayForms)
    (h : isFormOf p c = true) : p = 's' ∨ p = 'i' := by
  have hall : (lowerLetters.all fun p => strayForms.all fun c =>
      decide (isFormOf p c = true → p = 's' ∨ p = 'i')) = true := by decide
  exact of_decide_eq_true (List.all_eq_true.1 (List.all_eq_true.1 hall p hp) c hc) h

/-! ## Keywords -/

theorem afterFolded?_eq_some_iff :
    afterFolded? word text = some rest ↔ ∃ cs, Spells word cs ∧ text = cs ++ rest := by
  induction word generalizing text with
  | nil =>
    rw [afterFolded?, Option.some.injEq]
    constructor
    · rintro rfl
      exact ⟨[], .nil, rfl⟩
    · rintro ⟨cs, hcs, rfl⟩
      cases hcs
      rfl
  | cons p word ih =>
    cases text with
    | nil =>
      constructor
      · intro h
        cases h
      · rintro ⟨cs, hcs, htext⟩
        cases hcs
        cases htext
    | cons c text =>
      rw [afterFolded?]
      constructor
      · intro h
        obtain ⟨hform, hrest⟩ := Option.ite_none_right_eq_some.1 h
        obtain ⟨cs, hcs, rfl⟩ := ih.1 hrest
        exact ⟨c :: cs, .cons hform hcs, rfl⟩
      · rintro ⟨cs, hcs, htext⟩
        cases hcs with
        | cons hform hcs =>
          obtain ⟨rfl, rfl⟩ := List.cons.inj htext
          rw [if_pos hform]
          exact ih.2 ⟨_, hcs, rfl⟩

theorem Spells.exists_letter (h : Spells word cs) (hc : c ∈ cs) : ∃ p ∈ word, isFormOf p c = true := by
  induction h with
  | nil => cases hc
  | cons hform _ ih =>
    rcases List.mem_cons.1 hc with rfl | hc
    · exact ⟨_, List.mem_cons_self, hform⟩
    · obtain ⟨p, hp, hform⟩ := ih hc
      exact ⟨p, List.mem_cons_of_mem _ hp, hform⟩

theorem Spells.map_lowerAscii (h : Spells word cs) (hword : word ⊆ lowerLetters)
    (hcs : ∀ c ∈ cs, c ∉ strayForms) : cs.map lowerAscii = word := by
  induction h with
  | nil => rfl
  | cons hform _ ih =>
    rw [List.cons_subset] at hword
    rw [List.forall_mem_cons] at hcs
    rw [List.map_cons, lowerAscii_of_isFormOf hword.1 hform hcs.1, ih hword.2 hcs.2]

theorem IsKeyword.isWordChar (h : IsKeyword words cs) (hwords : AreLower words) :
    ∀ c ∈ cs, isWordChar c = true := by
  obtain ⟨word, hword, hspells⟩ := h
  intro c hc
  obtain ⟨p, hp, hform⟩ := hspells.exists_letter hc
  exact isWordChar_of_isFormOf (hwords word hword hp) hform

/-- A run of characters of a class, with none behind it, is all of the run. -/
theorem run_unique {q : Char → Bool} {run run' rest' : List Char} (h : ∀ c ∈ run, q c = true)
    (h' : ∀ c ∈ run', q c = true) (hrest : headIs q rest = false) (hrest' : headIs q rest' = false)
    (heq : run ++ rest = run' ++ rest') : run = run' ∧ rest = rest' := by
  have htake {run rest : List Char} (hrun : ∀ c ∈ run, q c = true) (hr : headIs q rest = false) :
      (run ++ rest).takeWhile q = run := by
    rw [List.takeWhile_append_of_pos hrun]
    cases rest with
    | nil => simp
    | cons d r =>
      have hd : q d = false := hr
      simp [hd]
  have hrun : run = run' := by rw [← htake h hrest, heq, htake h' hrest']
  subst hrun
  exact ⟨rfl, List.append_cancel_left heq⟩

/-- A keyword stands at the head of a text with no word character behind it. -/
theorem keyword?_eq_some_iff (hwords : AreLower words) :
    keyword? words text = some rest ↔
      ∃ cs, IsKeyword words cs ∧ text = cs ++ rest ∧ headIs isWordChar rest = false := by
  have hiff (word : String) (rest : List Char) :
      ((afterFolded? word.toList text).filter fun rest => !headIs isWordChar rest) = some rest ↔
        ∃ cs, Spells word.toList cs ∧ text = cs ++ rest ∧ headIs isWordChar rest = false := by
    rw [Option.filter_eq_some_iff, afterFolded?_eq_some_iff, Bool.not_eq_true']
    simp only [← and_assoc, exists_and_right]
  unfold keyword?
  rw [findSome?_eq_some_iff_of_unique]
  · simp only [hiff, IsKeyword]
    constructor
    · rintro ⟨word, hword, cs, hspells, htext⟩
      exact ⟨cs, ⟨word, hword, hspells⟩, htext⟩
    · rintro ⟨cs, ⟨word, hword, hspells⟩, htext⟩
      exact ⟨word, hword, cs, hspells, htext⟩
  · intro word hword word' hword' r r' hr hr'
    obtain ⟨cs, hspells, htext, hrest⟩ := (hiff _ _).1 hr
    obtain ⟨cs', hspells', htext', hrest'⟩ := (hiff _ _).1 hr'
    have hkeyword : IsKeyword words cs := ⟨word, hword, hspells⟩
    have hkeyword' : IsKeyword words cs' := ⟨word', hword', hspells'⟩
    exact (run_unique (hkeyword.isWordChar hwords) (hkeyword'.isWordChar hwords) hrest hrest'
      (htext.symm.trans htext')).2

/-- In lower case a keyword is one of the words, unless it holds a form that lower case keeps. -/
theorem IsKeyword.map_lowerAscii_mem (h : IsKeyword words cs) (hwords : AreLower words) :
    (∃ c ∈ cs, c ∈ strayForms) ∨ String.ofList (cs.map lowerAscii) ∈ words := by
  obtain ⟨word, hword, hspells⟩ := h
  by_cases hstray : ∃ c ∈ cs, c ∈ strayForms
  · exact .inl hstray
  · have hcs : ∀ c ∈ cs, c ∉ strayForms := fun c hc hmem => hstray ⟨c, hc, hmem⟩
    rw [hspells.map_lowerAscii (hwords word hword) hcs, String.ofList_toList]
    exact .inr hword

/-- The Kelvin sign is no stray form. -/
example : "lea\u212aed".toList.map lowerAscii = "leaked".toList := by decide

end Conformance.Text
