import Mathlib.Data.List.Basic
import Conformance.Call.Safe
import Conformance.Proofs.Call.Place
import Conformance.Proofs.Text.DottedPath

/-! # Words that only safe calls see

Two searches meet here: one for the occurrences of a word and one for the calls whose argument lists
may hold them. Both go from left to right and step over what they have met, and neither misses
anything: two occurrences of a word of name characters never overlap, and two names that end alike
lead to the same parenthesis.

* `IsSafeHead`: a text from the first character of a safe call to its parenthesis.
* `apart_safeCall?`, `accepts_safeCall?`: the search for calls.
* `mem_wordPositions_iff`: the search for the word.
* `onlyInSafeCalls_iff`: each occurrence of the word lies in the arguments of a safe call.
-/

namespace Conformance.Call
open Text
set_option autoImplicit false

/-! ## Safe calls -/

/-- One of the names, and blanks. -/
def IsSafeHead (names : List (List Char)) (head : List Char) : Prop :=
  ∃ name ∈ names, ∃ blanks, (∀ c ∈ blanks, isSpace c = true) ∧ head = name ++ blanks

section

variable {names : List (List Char)} {text rest head : List Char}

theorem opening_not_mem_blanks {blanks : List Char} (h : ∀ c ∈ blanks, isSpace c = true) :
    '(' ∉ blanks := by
  intro hmem
  have hopening := h _ hmem
  revert hopening
  decide

theorem IsSafeHead.opening_not_mem (hnames : ∀ name ∈ names, IsDottedPath name)
    (h : IsSafeHead names head) : '(' ∉ head := by
  obtain ⟨name, hname, blanks, hblanks, rfl⟩ := h
  rw [List.mem_append, not_or]
  exact ⟨(hnames name hname).opening_not_mem, opening_not_mem_blanks hblanks⟩

/-- What stands behind the first parenthesis of a text is one thing. -/
theorem rest_unique {front front' rest' : List Char} (h : '(' ∉ front) (h' : '(' ∉ front')
    (heq : front ++ '(' :: rest = front' ++ '(' :: rest') : rest = rest' := by
  have hdrop : ∀ {front rest : List Char}, '(' ∉ front →
      (front ++ '(' :: rest).dropWhile (· != '(') = '(' :: rest := by
    intro front rest hfront
    rw [List.dropWhile_append_of_pos, List.dropWhile_cons_of_neg (by simp)]
    intro c hc
    rw [bne_iff_ne]
    rintro rfl
    exact hfront hc
  have hsame : '(' :: rest = '(' :: rest' := by rw [← hdrop h, heq, hdrop h']
  exact (List.cons.inj hsame).2

theorem afterName?_eq_some_iff {name : List Char} :
    (after? name text).bind afterOpening? = some rest ↔
      ∃ blanks, (∀ c ∈ blanks, isSpace c = true) ∧ text = name ++ blanks ++ '(' :: rest := by
  rw [Option.bind_eq_some_iff]
  simp only [after?_eq_some_iff, afterOpening?_eq_some_iff]
  constructor
  · rintro ⟨_, rfl, blanks, hblanks, rfl⟩
    exact ⟨blanks, hblanks, (List.append_assoc ..).symm⟩
  · rintro ⟨blanks, hblanks, rfl⟩
    exact ⟨_, List.append_assoc .., blanks, hblanks, rfl⟩

theorem accepts_safeCall? (hnames : ∀ name ∈ names, IsDottedPath name) :
    Accepts (safeCall? names) (IsSafeHead names) where
  eq_some_iff := by
    intro text rest
    unfold safeCall?
    rw [findSome?_eq_some_iff_of_unique]
    · simp only [afterName?_eq_some_iff]
      constructor
      · rintro ⟨name, hname, blanks, hblanks, htext⟩
        exact ⟨_, htext, name, hname, blanks, hblanks, rfl⟩
      · rintro ⟨_, htext, name, hname, blanks, hblanks, rfl⟩
        exact ⟨name, hname, blanks, hblanks, htext⟩
    · -- Names that end alike lead to the same parenthesis.
      intro name hname name' hname' r r' hr hr'
      obtain ⟨blanks, hblanks, htext⟩ := afterName?_eq_some_iff.1 hr
      obtain ⟨blanks', hblanks', htext'⟩ := afterName?_eq_some_iff.1 hr'
      have hsafe : IsSafeHead names (name ++ blanks) := ⟨name, hname, blanks, hblanks, rfl⟩
      have hsafe' : IsSafeHead names (name' ++ blanks') := ⟨name', hname', blanks', hblanks', rfl⟩
      exact rest_unique (hsafe.opening_not_mem hnames) (hsafe'.opening_not_mem hnames)
        (htext.symm.trans htext')
  ne_nil := by
    rintro _ ⟨name, hname, blanks, -, rfl⟩ hnil
    obtain ⟨c, r, rfl, -⟩ := (hnames name hname).exists_cons
    cases hnil

/-- A call that begins in the head of another one opens at its parenthesis. -/
theorem apart_safeCall? (hnames : ∀ name ∈ names, IsDottedPath name) :
    Apart isNameChar (safeCall? names) where
  nil := by
    rw [Option.eq_none_iff_forall_ne_some]
    intro rest h
    obtain ⟨head, htext, -⟩ := ((accepts_safeCall? hnames).eq_some_iff _ _).1 h
    simp at htext
  inside := by
    intro c front back rest rest' hhead _ hback
    obtain ⟨head, htext, hsafe⟩ := ((accepts_safeCall? hnames).eq_some_iff _ _).1 hhead
    obtain ⟨head', rfl, hsafe'⟩ := ((accepts_safeCall? hnames).eq_some_iff _ _).1 hback
    have hopening' : '(' ∉ head' := hsafe'.opening_not_mem hnames
    rw [← List.cons_append] at htext
    rcases List.append_eq_append_iff.1 htext with ⟨inner, rfl, hinner⟩ | ⟨outer, -, houter⟩
    · have hopening : '(' ∉ inner := fun hmem =>
        hsafe.opening_not_mem hnames (List.mem_append_right _ hmem)
      exact .inr (rest_unique hopening' hopening hinner)
    · cases outer with
      | nil => exact .inr (rest_unique hopening' List.not_mem_nil houter.symm)
      | cons d outer =>
        -- It begins behind the parenthesis.
        refine .inl ?_
        rw [(List.cons.inj houter).2]
        exact (List.suffix_append outer _).length_le

end

/-! ## Occurrences of a word -/

/-- What follows the word at the head of the text. -/
def afterWord? (word text : List Char) : Option (List Char) :=
  if startsWithWord word text then some (text.drop word.length) else none

section

variable {word text rest : List Char}

theorem afterWord?_eq_some_iff :
    afterWord? word text = some rest ↔ text = word ++ rest ∧ headIs isNameChar rest = false := by
  unfold afterWord?
  rw [Option.ite_none_right_eq_some, startsWithWord_iff, Option.some.injEq]
  constructor
  · rintro ⟨⟨back, rfl, hback⟩, hrest⟩
    rw [List.drop_left] at hrest
    subst hrest
    exact ⟨rfl, hback⟩
  · rintro ⟨rfl, hrest⟩
    exact ⟨⟨rest, rfl, hrest⟩, List.drop_left⟩

/-- Inside a word of name characters none of its occurrences begins. -/
theorem apart_afterWord? (hword : word ≠ []) (hname : ∀ c ∈ word, isNameChar c = true) :
    Apart isNameChar (afterWord? word) where
  nil := by
    rw [Option.eq_none_iff_forall_ne_some]
    intro rest h
    have htext := (afterWord?_eq_some_iff.1 h).1
    simp [hword] at htext
  inside := by
    intro c front back rest rest' hhead hfront _
    refine .inl ?_
    have htext := (afterWord?_eq_some_iff.1 hhead).1
    rw [← List.cons_append] at htext
    rcases List.append_eq_append_iff.1 htext with ⟨inner, rfl, -⟩ | ⟨outer, -, rfl⟩
    · have hjoined := joinsAfter_of_mem fun d hd => hname d (List.mem_append_left _ hd)
      rw [hfront] at hjoined
      cases hjoined
    · rw [List.length_append]
      omega

/-- The search for a word is a search for calls whose head is the word. -/
theorem wordPositionsFrom_eq_map {pos skip : Nat} {joined : Bool} :
    wordPositionsFrom word pos skip joined text =
      (argumentListsFrom isNameChar (afterWord? word) pos skip joined text).map
        fun a => a.start - word.length := by
  induction text generalizing pos skip joined with
  | nil => rfl
  | cons c r ih =>
    cases skip with
    | succ skip => rw [wordPositionsFrom, argumentListsFrom, ih]
    | zero =>
      rw [wordPositionsFrom, argumentListsFrom]
      cases joined with
      | true => simp [ih]
      | false =>
        cases hhead : afterWord? word (c :: r) with
        | none =>
          have hstarts : startsWithWord word (c :: r) = false := by
            simpa [afterWord?] using hhead
          simp [hstarts, ih]
        | some rest =>
          obtain ⟨htext, hrest⟩ := afterWord?_eq_some_iff.1 hhead
          have hstarts : startsWithWord word (c :: r) = true :=
            startsWithWord_iff.2 ⟨rest, htext, hrest⟩
          have hwidth : (c :: r).length - rest.length = word.length := by
            rw [htext, List.length_append]
            omega
          simp only [hstarts, hwidth, Bool.not_false, Bool.and_self, ↓reduceIte,
            Bool.false_eq_true, List.map_cons, ih, Nat.add_sub_cancel]

theorem mem_wordPositions_iff (hword : word ≠ []) (hname : ∀ c ∈ word, isNameChar c = true)
    {q : Nat} : q ∈ wordPositions word text ↔ OccursAt word text q := by
  have hmeets := mem_argumentLists_iff (apart_afterWord? hword hname) text
  unfold wordPositions
  rw [wordPositionsFrom_eq_map, List.mem_map, occursAt_iff hword]
  constructor
  · rintro ⟨a, ha, rfl⟩
    obtain ⟨front, back, rest, rfl, hfront, hback, rfl⟩ := (hmeets a).1 ha
    obtain ⟨rfl, hrest⟩ := afterWord?_eq_some_iff.1 hback
    refine ⟨front, rest, rfl, hfront, hrest, ?_⟩
    show front.length = front.length + ((word ++ rest).length - rest.length) - word.length
    rw [List.length_append]
    omega
  · rintro ⟨front, rest, rfl, hfront, hrest, rfl⟩
    refine ⟨_, (hmeets _).2 ⟨front, word ++ rest, rest, rfl, hfront,
      afterWord?_eq_some_iff.2 ⟨rfl, hrest⟩, rfl⟩, ?_⟩
    show front.length + ((word ++ rest).length - rest.length) - word.length = front.length
    rw [List.length_append]
    omega

end

/-! ## Words in safe calls -/

section

variable {names : List String}

theorem isSafeHead_longestFirst :
    IsSafeHead (longestFirst names) = IsSafeHead (names.map String.toList) := by
  funext head
  unfold IsSafeHead
  simp only [mem_longestFirst]

/-- **Only in safe calls.** Where the names are dotted paths and the word is made of name characters,
the check passes just if the word occurs at all and each place where it does lies between the
parenthesis of a safe call and its end. -/
theorem onlyInSafeCalls_iff (hnames : ∀ name ∈ names, IsDottedPath name.toList) {word : String}
    (hword : word ≠ "") (hname : ∀ c ∈ word.toList, isNameChar c = true) (text : String) :
    onlyInSafeCalls text word names = true ↔
      (∃ q, OccursAt word.toList text.toList q) ∧
        ∀ q, OccursAt word.toList text.toList q →
          ∃ i j, CallAt isNameChar (IsSafeHead (names.map String.toList)) text.toList i j ∧
            j < q ∧ q < argumentEnd text.toList j := by
  have hpaths : ∀ name ∈ longestFirst names, IsDottedPath name := forall_longestFirst hnames
  have hheld := any_holds_iff_callAt (apart_safeCall? hpaths) (accepts_safeCall? hpaths) text.toList
  rw [isSafeHead_longestFirst] at hheld
  have hchars : word.toList ≠ [] := by simpa using hword
  unfold onlyInSafeCalls
  simp only [Bool.and_eq_true, Bool.not_eq_true', List.all_eq_true, hheld,
    mem_wordPositions_iff hchars hname, List.isEmpty_eq_false_iff_exists_mem]
  constructor
  · rintro ⟨⟨-, hsome⟩, hall⟩
    exact ⟨hsome, hall⟩
  · rintro ⟨⟨q, hq⟩, hall⟩
    have hne : ∃ name, name ∈ names := by
      obtain ⟨_, _, hcall, -⟩ := hall q hq
      obtain ⟨_, hmem, -⟩ := hcall.isHead
      obtain ⟨name, hmem, -⟩ := List.mem_map.1 hmem
      exact ⟨name, hmem⟩
    exact ⟨⟨⟨hne, by simpa using hword⟩, q, hq⟩, hall⟩

/-- One name ends as the other does; the calls are nested, and the outer one is left open. -/
theorem onlyInSafeCalls_nested_unclosed :
    let names := ["compare", "safe.compare"]
    let text := "safe.compare (key, compare(x.key),\n  [key"
    (∀ name ∈ names, IsDottedPath name.toList) ∧ "key" ≠ "" ∧
      (∀ c ∈ "key".toList, isNameChar c = true) ∧
      (∃ q, OccursAt "key".toList text.toList q) ∧
        ∀ q, OccursAt "key".toList text.toList q →
          ∃ i j, CallAt isNameChar (IsSafeHead (names.map String.toList)) text.toList i j ∧
            j < q ∧ q < argumentEnd text.toList j := by
  intro names text
  have hnames : ∀ name ∈ names, IsDottedPath name.toList := by decide
  have hword : "key" ≠ "" := by decide
  have hname : ∀ c ∈ "key".toList, isNameChar c = true := List.all_eq_true.1 (by decide)
  have hsorted : longestFirst names = ["safe.compare".toList, "compare".toList] := by
    simp [longestFirst, names, List.mergeSort]
  have honly : onlyInSafeCalls text "key" names = true := by
    unfold onlyInSafeCalls
    rw [hsorted]
    decide +kernel
  exact ⟨hnames, hword, hname, (onlyInSafeCalls_iff hnames hword hname text).1 honly⟩

end

end Conformance.Call
