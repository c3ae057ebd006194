import Conformance.Offside.Name

/-! # Normal forms of identifiers

Every character of an identifier stands behind the slash in the order of characters, and so do the
characters that it is taken apart into and those that are put together again. The normal form of an
identifier is therefore never empty and holds neither dots nor slashes: it is one name of a path.

* `IsName`: a text that is one name of a path.
* `isName_normalIdentifier`: normal forms of identifiers are such texts.
-/

namespace Conformance.Text
set_option autoImplicit false

/-- Behind the slash in the order of characters, and so behind the dot. -/
def IsBehindSlash (c : Char) : Prop := 47 < c.toNat

instance (c : Char) : Decidable (IsBehindSlash c) := inferInstanceAs (Decidable (47 < c.toNat))

/-- Not empty, and without dots and slashes. -/
structure IsName (cs : List Char) : Prop where
  ne_nil : cs ≠ []
  behindSlash : ∀ c ∈ cs, IsBehindSlash c

theorem IsBehindSlash.ne_slash {c : Char} (h : IsBehindSlash c) : c ≠ '/' := by
  rintro rfl
  exact absurd h (by decide)

theorem IsBehindSlash.ne_dot {c : Char} (h : IsBehindSlash c) : c ≠ '.' := by
  rintro rfl
  exact absurd h (by decide)

theorem isBehindSlash_ofNat {n : Nat} (h : 47 < n) (hn : n < 0xd800) :
    IsBehindSlash (Char.ofNat n) := by
  have hv : n.isValidChar := .inl hn
  rw [IsBehindSlash, Char.ofNat, dif_pos hv]
  exact h

theorem isBehindSlash_of_isIdentifierChar {c : Char} (h : isIdentifierChar c = true) :
    IsBehindSlash c := by
  rw [IsBehindSlash]
  by_cases hc : c.toNat < 128
  · have hval : c.toNat = c.val.toNat := rfl
    unfold isIdentifierChar at h
    rw [if_pos hc] at h
    delta Char.isAlphanum Char.isAlpha Char.isUpper Char.isLower Char.isDigit at h
    simp only [Bool.or_eq_true, Bool.and_eq_true, decide_eq_true_eq, UInt32.le_iff_toNat_le,
      beq_iff_eq] at h
    rcases h with ((h | h) | h) | rfl
    · simp at h
      omega
    · simp at h
      omega
    · simp at h
      omega
    · decide
  · omega

theorem isName_of_isIdentifier {cs : List Char} (h : Offside.isIdentifier cs = true) :
    IsName cs := by
  simp only [Offside.isIdentifier, Bool.and_eq_true, List.all_eq_true] at h
  refine ⟨?_, fun c hc => isBehindSlash_of_isIdentifierChar (h.2 c hc)⟩
  rintro rfl
  exact absurd h.1 (by decide)

/-! ## The tables -/

/-- Words of at least two characters, all of them behind the slash. -/
def isTidy (line : List Char) : Bool :=
  (splitOn ' ' line).all fun word => Nat.ble 2 word.length && word.all fun c => Nat.blt 47 c.toNat

-- A literal is compared with its characters first: they are cheap to check, the literal is not.
def IsTidy (line : String) : Prop := ∃ cs, line = String.ofList cs ∧ isTidy cs = true

set_option maxRecDepth 4000 in
theorem isTidy_compositionWords : ∀ line ∈ compositionWords, IsTidy line := by
  unfold compositionWords
  repeat refine List.forall_mem_cons.2 ⟨⟨_, rfl, by decide +kernel⟩, ?_⟩
  exact List.forall_mem_nil _

set_option maxRecDepth 4000 in
theorem isTidy_decompositionWords : ∀ line ∈ decompositionWords, IsTidy line := by
  unfold decompositionWords
  repeat refine List.forall_mem_cons.2 ⟨⟨_, rfl, by decide +kernel⟩, ?_⟩
  exact List.forall_mem_nil _

theorem isName_of_mem_tableOf {lines : List String} (h : ∀ line ∈ lines, IsTidy line)
    {e : Char × List Char} (he : e ∈ tableOf lines) : IsBehindSlash e.1 ∧ IsName e.2 := by
  simp only [tableOf, List.mem_flatMap, List.mem_filterMap] at he
  obtain ⟨line, hline, word, hword, he⟩ := he
  obtain ⟨cs, rfl, htidy⟩ := h line hline
  rw [String.toList_ofList] at hword
  have hw := List.all_eq_true.1 htidy word hword
  simp only [Bool.and_eq_true, Nat.ble_eq, List.all_eq_true, Nat.blt_eq] at hw
  rcases word with _ | ⟨c, r⟩
  · cases he
  · cases he
    refine ⟨hw.2 c (List.mem_cons_self ..), ?_, fun d hd => hw.2 d (List.mem_cons_of_mem _ hd)⟩
    rintro rfl
    simp at hw

theorem mem_of_lookup {α β : Type} [BEq α] [LawfulBEq α] {l : List (α × β)} {a : α} {b : β}
    (h : l.lookup a = some b) : (a, b) ∈ l := by
  obtain ⟨l₁, l₂, rfl, -⟩ := List.lookup_eq_some_iff.1 h
  simp

/-! ## The steps -/

-- The bounds stay folded: a conditional on their numerals is no longer seen as one.
theorem syllables_eq : syllables.1 = 0xac00 ∧ syllables.2 = 11172 := ⟨rfl, rfl⟩

theorem isName_syllableLetters {c : Char} {l : List Char} (h : syllableLetters? c = some l) :
    IsName l := by
  have hs := syllables_eq
  simp only [syllableLetters?, Option.ite_none_right_eq_some, Bool.and_eq_true,
    decide_eq_true_eq] at h
  obtain ⟨hc, hl⟩ := h
  rw [← Option.some.inj hl]
  have hfront : IsName [Char.ofNat (0x1100 + (c.toNat - syllables.1) / 588),
      Char.ofNat (0x1161 + (c.toNat - syllables.1) % 588 / 28)] := by
    refine ⟨List.cons_ne_nil _ _, List.forall_mem_cons.2 ⟨?_, List.forall_mem_cons.2 ⟨?_, ?_⟩⟩⟩
    · exact isBehindSlash_ofNat (by omega) (by omega)
    · exact isBehindSlash_ofNat (by omega) (by omega)
    · exact List.forall_mem_nil _
  by_cases hi : (c.toNat - syllables.1) % 28 = 0
  · rw [if_pos hi]
    exact hfront
  · rw [if_neg hi]
    refine ⟨List.append_ne_nil_of_left_ne_nil hfront.ne_nil _,
      List.forall_mem_append.2 ⟨hfront.behindSlash, fun d hd => ?_⟩⟩
    rw [List.mem_singleton.1 hd]
    exact isBehindSlash_ofNat (by omega) (by omega)

theorem isName_decompose {c : Char} (h : IsBehindSlash c) : IsName (decompose c) := by
  have hself : IsName [c] := ⟨List.cons_ne_nil _ _, fun d hd => by rwa [List.mem_singleton.1 hd]⟩
  unfold decompose
  split
  · exact hself
  · cases hs : syllableLetters? c with
    | some l => exact isName_syllableLetters hs
    | none =>
      cases hl : decompositions.lookup c with
      | none => exact hself
      | some l =>
        exact (isName_of_mem_tableOf isTidy_decompositionWords (mem_of_lookup hl)).2

theorem insertMark_perm (c : Char) (l : List Char) : (insertMark c l).Perm (c :: l) := by
  induction l with
  | nil => exact .refl _
  | cons d r ih =>
    rw [insertMark]
    split
    · exact (ih.cons d).trans (.swap c d r)
    · exact .refl _

theorem inOrder_perm (l : List Char) : (inOrder l).Perm l := by
  induction l with
  | nil => exact .refl _
  | cons c r ih =>
    rw [inOrder]
    split
    · exact ih.cons c
    · exact (insertMark_perm c _).trans (ih.cons c)

theorem isBehindSlash_syllableOf {a b c : Char} (h : syllableOf? a b = some c) :
    IsBehindSlash c := by
  have hs := syllables_eq
  unfold syllableOf? at h
  split at h
  next first number heq =>
  have hfirst : first = syllables.1 := by rw [heq]
  have hnumber : number = syllables.2 := by rw [heq]
  split at h
  · next hab =>
    simp only [Bool.and_eq_true, decide_eq_true_eq] at hab
    rw [← Option.some.inj h]
    exact isBehindSlash_ofNat (by omega) (by omega)
  · obtain ⟨hab, h⟩ := Option.ite_none_right_eq_some.1 h
    simp only [Bool.and_eq_true, decide_eq_true_eq] at hab
    rw [← Option.some.inj h]
    exact isBehindSlash_ofNat (by omega) (by omega)

theorem isBehindSlash_pair {a b c : Char} (h : pair? a b = some c) : IsBehindSlash c := by
  rw [pair?, Option.or_eq_some_iff] at h
  rcases h with h | ⟨-, h⟩
  · exact isBehindSlash_syllableOf h
  · have hmem := mem_of_lookup h
    rw [compositions, List.mem_map] at hmem
    obtain ⟨e, he, heq⟩ := hmem
    rw [← (Prod.mk.inj heq).2]
    exact (isName_of_mem_tableOf isTidy_compositionWords he).1

theorem isName_composeFrom {base : Char} {marks rest : List Char} (hb : IsBehindSlash base)
    (hm : ∀ c ∈ marks, IsBehindSlash c) (hr : ∀ c ∈ rest, IsBehindSlash c) :
    IsName (composeFrom base marks rest) := by
  -- The base and the marks grow out of the characters that were read, and keep what they have.
  induction rest generalizing base marks with
  | nil =>
    refine ⟨List.cons_ne_nil _ _, fun c hc => ?_⟩
    simp only [composeFrom, List.mem_cons, List.mem_reverse] at hc
    rcases hc with rfl | hc
    · exact hb
    · exact hm c hc
  | cons c rest ih =>
    obtain ⟨hc, hrest⟩ := List.forall_mem_cons.1 hr
    rw [composeFrom.eq_def]
    dsimp only
    split
    · next both hboth =>
      exact ih (isBehindSlash_pair (Option.ite_none_left_eq_some.1 hboth).2) hm hrest
    · split
      · refine ⟨by simp, fun d hd => ?_⟩
        simp only [List.mem_append, List.mem_cons, List.mem_reverse] at hd
        rcases hd with (rfl | hd) | hd
        · exact hb
        · exact hm d hd
        · exact (ih hc (by simp) hrest).behindSlash d hd
      · exact ih hb (List.forall_mem_cons.2 ⟨hc, hm⟩) hrest

theorem isName_compose {l : List Char} (h : IsName l) : IsName (compose l) := by
  cases l with
  | nil => exact absurd rfl h.ne_nil
  | cons c r =>
    obtain ⟨hc, hr⟩ := List.forall_mem_cons.1 h.behindSlash
    exact isName_composeFrom hc (by simp) hr

/-! ## The normal form -/

theorem isName_flatMap_decompose {l : List Char} (h : IsName l) : IsName (l.flatMap decompose) := by
  have hd := fun c hc => isName_decompose (h.behindSlash c hc)
  constructor
  · obtain ⟨c, r, rfl⟩ := List.exists_cons_of_ne_nil h.ne_nil
    simp [(hd c (List.mem_cons_self ..)).ne_nil]
  · intro d hmem
    obtain ⟨c, hc, hdc⟩ := List.mem_flatMap.1 hmem
    exact (hd c hc).behindSlash d hdc

theorem isName_inOrder {l : List Char} (h : IsName l) : IsName (inOrder l) := by
  refine ⟨fun he => h.ne_nil ?_, fun c hc => h.behindSlash c ((inOrder_perm l).mem_iff.1 hc)⟩
  have hp := inOrder_perm l
  rw [he] at hp
  exact hp.nil_eq.symm

theorem isName_normalIdentifier {s : String} (h : Offside.isIdentifier s.toList = true) :
    IsName (normalIdentifier s).toList := by
  have hs := isName_of_isIdentifier h
  unfold normalIdentifier
  split
  · exact hs
  · rw [String.toList_ofList]
    exact isName_compose (isName_inOrder (isName_flatMap_decompose hs))

end Conformance.Text
