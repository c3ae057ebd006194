import Conformance.Proofs.Call.Callee
import Conformance.Proofs.Call.Safe
import Conformance.Proofs.Text.Segment

/-! # Callees of safe calls

Whether a callee is safe is decided twice: for the callee alone, and for a call that stands in a text.
Of the callee alone only the last segment is looked up, so that a safe name of several segments is never
found. In a text a name of several segments is found like any other.

* `occursAt_call_iff`: a word that is no segment of the callee occurs once in a call of it.
* `exists_callAt_call_iff`: which safe calls hold that place.
* `isSafeCallee_eq_onlyInSafeCalls_iff`: when the two decisions agree.
-/

namespace Conformance.Call
open Text
set_option autoImplicit false

variable {names : List String} {callee word : String} {cs front back name : List Char}

/-! ## Paths and what runs into them -/

/-- A part of a path that no name character ends is empty or ends in a dot. -/
theorem exists_dot_of_joinsAfter (hcs : IsDottedPath (front ++ back))
    (hfront : joinsAfter isNameChar false front = false) :
    front = [] ∨ ∃ before, front = before ++ ['.'] := by
  rcases List.eq_nil_or_concat front with rfl | ⟨before, c, rfl⟩
  · exact .inl rfl
  · rw [List.concat_eq_append] at hcs hfront ⊢
    have hname : isNameChar c = false := by
      simpa [joinsAfter] using hfront
    have hdot : c = '.' := hcs.eq_dot (by simp) hname
    exact .inr ⟨before, by rw [hdot]⟩

theorem not_isSpace_of_mem (hcs : IsDottedPath cs) {c : Char} (hc : c ∈ cs) :
    ¬ isSpace c = true := by
  intro hspace
  have hdot : c = '.' := hcs.eq_dot hc (isNameChar_eq_false_of_isSpace hspace)
  rw [hdot] at hspace
  exact absurd hspace (by decide)

/-- In front of a name that ends a path there is nothing or a dot. -/
theorem endsIn_iff_joinsAfter (hcs : IsDottedPath cs) :
    EndsIn cs name ↔ ∃ front, cs = front ++ name ∧ joinsAfter isNameChar false front = false := by
  constructor
  · rintro (rfl | ⟨front, rfl⟩)
    · exact ⟨[], rfl, rfl⟩
    · refine ⟨front ++ ['.'], by simp, ?_⟩
      rw [joinsAfter, List.getLast?_concat, Option.map_some, Option.getD_some, isNameChar_dot]
  · rintro ⟨front, rfl, hfront⟩
    rcases exists_dot_of_joinsAfter hcs hfront with rfl | ⟨before, rfl⟩
    · exact .inl rfl
    · exact .inr ⟨before, by simp⟩

/-- A word of a path with no name character on either side is one of its parts. -/
theorem mem_splitOn_of_bounded {word : List Char} (hcs : IsDottedPath (front ++ word ++ back))
    (hword : '.' ∉ word) (hfront : joinsAfter isNameChar false front = false)
    (hback : headIs isNameChar back = false) : word ∈ splitOn '.' (front ++ word ++ back) := by
  refine mem_splitOn_of_between hword ?_ ?_
  · rw [List.append_assoc] at hcs
    exact exists_dot_of_joinsAfter hcs hfront
  · cases back with
    | nil => exact .inl rfl
    | cons c after =>
      have hdot : c = '.' := hcs.eq_dot (by simp) hback
      exact .inr ⟨after, by rw [hdot]⟩

/-! ## A call of the callee -/

section

variable {word : List Char} (hword : word ≠ []) (hchars : ∀ c ∈ word, isNameChar c = true)
include hchars

/-- An occurrence that begins in the callee ends in it, and is a segment of it. -/
theorem mem_splitOn_of_begins_in {inner tail : List Char} (hcs : IsDottedPath (front ++ inner))
    (htext : word ++ back = inner ++ '(' :: tail) (hfront : joinsAfter isNameChar false front = false)
    (hback : headIs isNameChar back = false) : word ∈ splitOn '.' (front ++ inner) := by
  have hopening : '(' ∉ word := fun hmem => absurd (hchars _ hmem) (by decide)
  have hdot : '.' ∉ word := fun hmem => absurd (hchars _ hmem) (by decide)
  obtain ⟨more, rfl, rfl⟩ : ∃ more, inner = word ++ more ∧ back = more ++ '(' :: tail := by
    rcases List.append_eq_append_iff.1 htext with hsplit | ⟨beyond, rfl, htail⟩
    · exact hsplit
    · cases beyond with
      | nil => exact ⟨[], by simp, htail.symm⟩
      | cons c r =>
        -- The word would reach over the parenthesis.
        obtain ⟨rfl, -⟩ := List.cons.inj htail
        exact absurd (List.mem_append_right inner List.mem_cons_self) hopening
  have hmore : headIs isNameChar more = false := by
    cases more with
    | nil => rfl
    | cons c r => exact hback
  rw [← List.append_assoc] at hcs ⊢
  exact mem_splitOn_of_bounded hcs hdot hfront hmore

include hword

/-- An occurrence that begins at the parenthesis or behind it is the argument. -/
theorem eq_opening_of_begins_behind {outer : List Char}
    (htext : '(' :: (word ++ [')']) = outer ++ (word ++ back)) : outer = ['('] := by
  have hclosing : ')' ∉ word := fun hmem => absurd (hchars _ hmem) (by decide)
  cases outer with
  | nil =>
    obtain ⟨c, r, rfl⟩ := List.exists_cons_of_ne_nil hword
    obtain ⟨rfl, -⟩ := List.cons.inj htext
    exact absurd (hchars _ List.mem_cons_self) (by decide)
  | cons c outer =>
    rw [List.cons_append] at htext
    obtain ⟨rfl, hbehind⟩ := List.cons.inj htext
    cases back with
    | nil =>
      -- The word would end in the closing parenthesis.
      have hlast := congrArg List.getLast? hbehind
      rw [List.getLast?_concat, List.append_nil, List.getLast?_append_of_ne_nil _ hword] at hlast
      exact absurd (List.mem_of_getLast? hlast.symm) hclosing
    | cons d back =>
      have hlength := congrArg List.length hbehind
      simp only [List.length_append, List.length_cons, List.length_nil] at hlength
      rw [List.eq_nil_of_length_eq_zero (by omega : outer.length = 0)]

variable (hcallee : IsDottedPath cs)
include hcallee

/-- A word that is no segment of the callee occurs once in a call of it, as the argument. -/
theorem occursAt_call_iff (hsegment : word ∉ splitOn '.' cs) (q : Nat) :
    OccursAt word (cs ++ '(' :: (word ++ [')'])) q ↔ q = cs.length + 1 := by
  rw [occursAt_iff hword]
  constructor
  · rintro ⟨front, back, htext, hfront, hback, rfl⟩
    rcases List.append_eq_append_iff.1 htext with ⟨outer, rfl, houter⟩ | ⟨inner, rfl, hinner⟩
    · rw [eq_opening_of_begins_behind hword hchars houter, List.length_append, List.length_singleton]
    · exact absurd (mem_splitOn_of_begins_in hchars hcallee hinner hfront hback) hsegment
  · rintro rfl
    refine ⟨cs ++ ['('], [')'], by simp, ?_, by decide, by simp⟩
    rw [joinsAfter, List.getLast?_concat]
    rfl

/-- The argument lies in a safe call exactly if the callee ends in a safe name. -/
theorem exists_callAt_call_iff (hnames : ∀ name ∈ names, IsDottedPath name.toList) :
    (∃ i j, CallAt isNameChar (IsSafeHead (names.map String.toList)) (cs ++ '(' :: (word ++ [')'])) i j ∧
        j < cs.length + 1 ∧ cs.length + 1 < argumentEnd (cs ++ '(' :: (word ++ [')'])) j) ↔
      ∃ name ∈ names, EndsIn cs name.toList := by
  have htail : '(' ∉ word ++ [')'] := opening_not_mem_argument hchars
  constructor
  · rintro ⟨i, j, hcall, -, -⟩
    obtain ⟨front, _, rest, htext, hfront, ⟨_, hsafe, blanks, hblanks, rfl⟩, -, -⟩ := hcall.split
    obtain ⟨name, hmem, rfl⟩ := List.mem_map.1 hsafe
    rw [← List.append_assoc] at htext
    obtain ⟨hsplit, -, -⟩ :=
      (List.append_cons_inj_of_notMem hcallee.opening_not_mem htail).1 htext
    obtain rfl : blanks = [] := by
      rw [List.eq_nil_iff_forall_not_mem]
      intro c hc
      refine not_isSpace_of_mem hcallee ?_ (hblanks c hc)
      rw [hsplit]
      simp [hc]
    rw [List.append_nil] at hsplit
    exact ⟨name, hmem, (endsIn_iff_joinsAfter hcallee).2 ⟨front, hsplit, hfront⟩⟩
  · rintro ⟨name, hmem, hends⟩
    obtain ⟨front, rfl, hfront⟩ := (endsIn_iff_joinsAfter hcallee).1 hends
    have hhead : IsSafeHead (names.map String.toList) name.toList :=
      ⟨_, List.mem_map_of_mem hmem, [], List.forall_mem_nil _, (List.append_nil _).symm⟩
    have hne : name.toList ≠ [] := by
      obtain ⟨c, r, hcons, -⟩ := (hnames name hmem).exists_cons
      rw [hcons]
      exact List.cons_ne_nil c r
    have hcall : CallAt isNameChar (IsSafeHead (names.map String.toList))
        (front ++ (name.toList ++ '(' :: (word ++ [')']))) front.length
        (front.length + name.toList.length) := callAt_of_split hne hfront hhead
    rw [← List.append_assoc, ← List.length_append] at hcall
    refine ⟨_, _, hcall, Nat.lt_succ_self _, ?_⟩
    have hdrop : ((front ++ name.toList) ++ '(' :: (word ++ [')'])).drop
        ((front ++ name.toList).length + 1) = word ++ [')'] := by
      rw [← List.drop_drop, List.drop_left]
      rfl
    have hlength : 0 < word.length := List.length_pos_iff.2 hword
    rw [argumentEnd, hdrop, argumentText_name hchars]
    omega

end

section

variable (hnames : ∀ name ∈ names, IsDottedPath name.toList) (hcallee : IsDottedPath callee.toList)
  (hword : word ≠ "") (hchars : ∀ c ∈ word.toList, isNameChar c = true)
  (hsegment : word.toList ∉ splitOn '.' callee.toList)
include hnames hcallee hword hchars hsegment

theorem onlyInSafeCalls_call_iff :
    onlyInSafeCalls (callee ++ "(" ++ word ++ ")") word names = true ↔
      ∃ name ∈ names, EndsIn callee.toList name.toList := by
  have hne : word.toList ≠ [] := by simpa using hword
  have hpositions : ∀ q, q ∈ wordPositions word.toList (callee ++ "(" ++ word ++ ")").toList ↔
      q = callee.toList.length + 1 := by
    intro q
    rw [mem_wordPositions_iff hne hchars, toList_call, occursAt_call_iff hne hchars hcallee hsegment]
  have hpaths : ∀ name ∈ longestFirst names, IsDottedPath name := forall_longestFirst hnames
  have hheld := any_holds_iff_callAt (apart_safeCall? hpaths) (accepts_safeCall? hpaths)
    (callee ++ "(" ++ word ++ ")").toList (callee.toList.length + 1)
  rw [isSafeHead_longestFirst, toList_call, exists_callAt_call_iff hne hchars hcallee hnames,
    ← toList_call] at hheld
  unfold onlyInSafeCalls
  simp only [Bool.and_eq_true, Bool.not_eq_true', List.all_eq_true, hpositions, forall_eq]
  rw [hheld]
  constructor
  · exact fun h => h.2
  · rintro ⟨name, hmem, hends⟩
    have hnonempty : (wordPositions word.toList (callee ++ "(" ++ word ++ ")").toList).isEmpty = false :=
      List.isEmpty_eq_false_iff_exists_mem.2 ⟨_, (hpositions _).2 rfl⟩
    refine ⟨⟨⟨?_, by simpa using hword⟩, hnonempty⟩, name, hmem, hends⟩
    exact List.isEmpty_eq_false_iff_exists_mem.2 ⟨name, hmem⟩

/-- **One notion of a safe callee.** A word that is no segment of the callee is only in safe calls, in a
call of the callee with the word as its argument, exactly if the callee ends in a safe name. The callee
alone is judged alike, unless it ends in a safe name of several segments and its last segment is no safe
name. Safe names of one segment are all judged alike. -/
theorem isSafeCallee_eq_onlyInSafeCalls_iff :
    (onlyInSafeCalls (callee ++ "(" ++ word ++ ")") word names = true ↔
      ∃ name ∈ names, EndsIn callee.toList name.toList) ∧
    (isSafeCallee callee names = onlyInSafeCalls (callee ++ "(" ++ word ++ ")") word names ↔
      ∀ name ∈ names, EndsIn callee.toList name.toList → lastSegment callee ∈ names) ∧
    ((∀ name ∈ names, '.' ∉ name.toList) →
      isSafeCallee callee names = onlyInSafeCalls (callee ++ "(" ++ word ++ ")") word names) := by
  have honly := onlyInSafeCalls_call_iff hnames hcallee hword hchars hsegment
  have hsafe : isSafeCallee callee names = true ↔ lastSegment callee ∈ names := by
    rw [isSafeCallee, List.contains_iff_mem]
  have hagree : isSafeCallee callee names =
        onlyInSafeCalls (callee ++ "(" ++ word ++ ")") word names ↔
      ∀ name ∈ names, EndsIn callee.toList name.toList → lastSegment callee ∈ names := by
    rw [Bool.eq_iff_iff, honly, hsafe]
    constructor
    · exact fun h name hmem hends => h.2 ⟨name, hmem, hends⟩
    · refine fun h => ⟨fun hlast => ⟨lastSegment callee, hlast, ?_⟩, ?_⟩
      · rw [lastSegment, String.toList_ofList]
        exact endsIn_lastSegmentChars callee.toList
      · rintro ⟨name, hmem, hends⟩
        exact h name hmem hends
  refine ⟨honly, hagree, fun hsingle => hagree.2 fun name hmem hends => ?_⟩
  have hlast : name = lastSegment callee := by
    rw [lastSegment, ← hends.eq_lastSegmentChars (hsingle name hmem), String.ofList_toList]
  exact hlast ▸ hmem

end

/-- The callee ends in both names, and its last segment is one of them. -/
theorem isSafeCallee_in_longer_names :
    let names := ["bcrypt.compare", "compare"]
    let callee := "lib.bcrypt.compare"
    (∀ name ∈ names, IsDottedPath name.toList) ∧ IsDottedPath callee.toList ∧ "key" ≠ "" ∧
      (∀ c ∈ "key".toList, isNameChar c = true) ∧ "key".toList ∉ splitOn '.' callee.toList ∧
      onlyInSafeCalls (callee ++ "(" ++ "key" ++ ")") "key" names = true ∧
      isSafeCallee callee names = onlyInSafeCalls (callee ++ "(" ++ "key" ++ ")") "key" names := by
  intro names callee
  have hnames : ∀ name ∈ names, IsDottedPath name.toList := by decide
  have hcallee : IsDottedPath callee.toList := by decide
  have hword : "key" ≠ "" := by decide
  have hchars : ∀ c ∈ "key".toList, isNameChar c = true := List.all_eq_true.1 (by decide)
  have hsegment : "key".toList ∉ splitOn '.' callee.toList := by decide
  obtain ⟨honly, hagree, -⟩ :=
    isSafeCallee_eq_onlyInSafeCalls_iff hnames hcallee hword hchars hsegment
  refine ⟨hnames, hcallee, hword, hchars, hsegment, honly.2 ?_, hagree.2 fun _ _ _ => by decide⟩
  exact ⟨"bcrypt.compare", List.mem_cons_self, .inr ⟨"lib".toList, by decide⟩⟩

/-- The callee is the only safe name, and its last segment is none. -/
theorem isSafeCallee_overlooks_longer_name :
    IsDottedPath "argon2.verify".toList ∧ "key".toList ∉ splitOn '.' "argon2.verify".toList ∧
      isSafeCallee "argon2.verify" ["argon2.verify"] = false ∧
      onlyInSafeCalls ("argon2.verify" ++ "(" ++ "key" ++ ")") "key" ["argon2.verify"] = true :=
  ⟨by decide, by decide, by decide +kernel, by decide +kernel⟩

end Conformance.Call
