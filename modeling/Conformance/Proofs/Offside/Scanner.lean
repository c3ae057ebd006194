import Conformance.Offside.Token
import Conformance.Proofs.Text.Lines

/-! # The scanner comes to an end

Each step of the scanner takes characters off the text ahead, or it takes the blanks at the head of a
line and is done with them. So the number of steps that the scanner is given never cuts a text off.

* `number?_length_lt`, `quotedText?_length_lt`, `operator?_length_lt`: tokens have characters.
* `Scanner.size`: what becomes smaller with each step.
* `Scanner.run_eq`: the number of steps does not matter if it is above the size.
* `Token.ofChars?_comment`: a source that starts with a comment has the tokens of the lines below.
-/

namespace Conformance.Offside
open Text
set_option autoImplicit false

/-- A reader's answer is changed, and what it leaves is not. -/
theorem exists_of_map {α β γ : Type} {f : α × β → γ × β} {o : Option (α × β)} {c : γ} {b : β}
    (h : o.map f = some (c, b)) (hf : ∀ x, (f x).2 = x.2) : ∃ a, o = some (a, b) := by
  obtain ⟨x, ho, hx⟩ := Option.map_eq_some_iff.1 h
  have hb : x.2 = b := by rw [← hf x, hx]
  exact ⟨x.1, by rw [← hb, ho]⟩

variable {p : Char → Bool} {cs rest : List Char}

theorem exists_cons_of_headIs (h : headIs p cs = true) : ∃ c r, cs = c :: r ∧ p c = true := by
  cases cs with
  | nil => cases h
  | cons c r => exact ⟨c, r, rfl, h⟩

/-! ## Numbers -/

theorem digitsOf_length_le {ds : List Char} (h : digitsOf p cs = some (ds, rest)) :
    rest.length ≤ cs.length := by
  fun_induction digitsOf p cs generalizing ds rest with
  | case1 | case6 =>
    cases h
    exact Nat.le_refl _
  | case3 | case4 => cases h
  | case2 c r _ ih | case5 c r _ _ _ ih =>
    obtain ⟨ds', hr⟩ := exists_of_map h fun _ => rfl
    have hle := ih hr
    simp only [List.length_cons]
    omega

theorem digits?_length_le {ds : List Char} (h : digits? p cs = some (ds, rest)) :
    rest.length ≤ cs.length := by
  unfold digits? at h
  split at h
  · exact digitsOf_length_le h
  · cases h

/-- Digits that start with no mark have a first one. -/
theorem digits?_length_lt {ds : List Char} (hmark : p '_' = false) (h : digits? p cs = some (ds, rest)) :
    rest.length < cs.length := by
  unfold digits? at h
  split at h
  · next hhead =>
    obtain ⟨c, r, rfl, hp⟩ := exists_cons_of_headIs hhead
    have hc : c ≠ '_' := by
      rintro rfl
      rw [hmark] at hp
      cases hp
    have hdigits : digitsOf p (c :: r) = (digitsOf p r).map fun x => (c :: x.1, x.2) := by
      rw [digitsOf]
      · simp [hc, hp]
      · exact fun _ _ hcs => absurd hcs hc
    rw [hdigits] at h
    obtain ⟨ds', hr⟩ := exists_of_map h fun _ => rfl
    exact Nat.lt_succ_of_le (digitsOf_length_le hr)
  · cases h

theorem basedNumber?_length_le {base : Nat} {k : Constant} (h : basedNumber? base p cs = some (k, rest)) :
    rest.length ≤ cs.length := by
  unfold basedNumber? at h
  simp only [Option.bind_eq_bind, Option.bind_eq_some_iff, Prod.exists] at h
  obtain ⟨ds, r, hds, h⟩ := h
  have hle := digits?_length_le hds
  split at h
  · cases h
  · cases h
    split at hle
    · rw [List.length_drop] at hle
      omega
    · exact hle

theorem exponent?_length_le {e : Option Int} (h : exponent? cs = some (e, rest)) :
    rest.length ≤ cs.length := by
  unfold exponent? at h
  split at h
  · next c r =>
    split at h
    · split at h
      · obtain ⟨ds, hds⟩ := exists_of_map h fun _ => rfl
        exact Nat.le_succ_of_le (Nat.le_succ_of_le (digits?_length_le hds))
      · obtain ⟨ds, hds⟩ := exists_of_map h fun _ => rfl
        exact Nat.le_succ_of_le (Nat.le_succ_of_le (digits?_length_le hds))
      · split at h
        · obtain ⟨ds, hds⟩ := exists_of_map h fun _ => rfl
          exact Nat.le_succ_of_le (digits?_length_le hds)
        · cases h
          exact Nat.le_refl _
    · cases h
      exact Nat.le_refl _
  · cases h
    exact Nat.le_refl _

/-- What may follow the digits of a decimal number leaves a part of the text. -/
theorem numberEnd_length_le {imaginary float whole : Option Int × List Char → Constant} {k : Constant}
    {isFloat isInt : Option Int × List Char → Bool}
    (h : (exponent? cs).bind (fun x =>
      if headIs (fun c => c == 'j' || c == 'J') x.2 = true then
        if endsNumber (x.2.drop 1) = true then some (imaginary x, x.2.drop 1) else none
      else if (!endsNumber x.2) = true then none
      else if isFloat x = true then some (float x, x.2)
      else if isInt x = true then some (whole x, x.2) else none) = some (k, rest)) :
    rest.length ≤ cs.length := by
  obtain ⟨⟨e, r⟩, he, h⟩ := Option.bind_eq_some_iff.1 h
  have hle := exponent?_length_le he
  dsimp only at h
  split at h
  · split at h
    · cases h
      rw [List.length_drop]
      omega
    · cases h
  · split at h
    · cases h
    · split at h
      · cases h
        exact hle
      · split at h
        · cases h
          exact hle
        · cases h

/-- A digit stands ahead, or a point and a digit. -/
def StartsNumber (cs : List Char) : Prop :=
  headIs Char.isDigit cs = true ∨ headIs (· == '.') cs = true ∧ headIs Char.isDigit (cs.drop 1) = true

theorem decimalNumber?_length_lt {k : Constant} (hstart : StartsNumber cs)
    (h : decimalNumber? cs = some (k, rest)) : rest.length < cs.length := by
  unfold decimalNumber? at h
  simp only [Option.bind_eq_bind, Option.bind_some, Option.bind_map] at h
  split at h
  · obtain ⟨⟨whole, r⟩, hwhole, h⟩ := Option.bind_eq_some_iff.1 h
    have hlt := digits?_length_lt (by decide) hwhole
    refine Nat.lt_of_le_of_lt ?_ hlt
    dsimp only at h
    split at h
    · next r =>
      refine Nat.le_succ_of_le ?_
      split at h
      · obtain ⟨⟨fraction, r'⟩, hfraction, h⟩ := Option.bind_eq_some_iff.1 h
        exact Nat.le_trans (numberEnd_length_le h) (digits?_length_le hfraction)
      · exact numberEnd_length_le h
    · exact numberEnd_length_le h
  · next hdigit =>
    obtain ⟨hpoint, hfraction⟩ := hstart.resolve_left hdigit
    split at h
    · next r =>
      rw [if_pos (show headIs Char.isDigit r = true from hfraction)] at h
      obtain ⟨⟨fraction, r'⟩, hfraction, h⟩ := Option.bind_eq_some_iff.1 h
      exact Nat.lt_succ_of_le
        (Nat.le_trans (numberEnd_length_le h) (digits?_length_le hfraction))
    · next hother =>
      obtain ⟨c, r, rfl, hc⟩ := exists_cons_of_headIs hpoint
      exact absurd rfl (beq_iff_eq.1 hc ▸ hother r)

theorem number?_length_lt {k : Constant} (hstart : StartsNumber cs)
    (h : number? cs = some (k, rest)) : rest.length < cs.length := by
  unfold number? at h
  split at h
  · split at h
    · exact Nat.lt_succ_of_le (Nat.le_succ_of_le (basedNumber?_length_le h))
    · split at h
      · exact Nat.lt_succ_of_le (Nat.le_succ_of_le (basedNumber?_length_le h))
      · split at h
        · exact Nat.lt_succ_of_le (Nat.le_succ_of_le (basedNumber?_length_le h))
        · exact decimalNumber?_length_lt hstart h
  · exact decimalNumber?_length_lt hstart h

/-! ## Quoted texts and operators -/

theorem quotedBody?_length_le {quotes body : List Char} {fuel : Nat}
    (h : quotedBody? quotes fuel cs = some (body, rest)) : rest.length ≤ cs.length := by
  induction fuel generalizing cs body with
  | zero => cases h
  | succ fuel ih =>
    unfold quotedBody? at h
    split at h
    · next r hafter =>
      cases h
      rw [after?_eq_some_iff.1 hafter, List.length_append]
      omega
    · obtain ⟨body', hr⟩ := exists_of_map h fun _ => rfl
      exact Nat.le_succ_of_le (Nat.le_succ_of_le (ih hr))
    · split at h
      · cases h
      · obtain ⟨body', hr⟩ := exists_of_map h fun _ => rfl
        exact Nat.le_succ_of_le (ih hr)
    · cases h

theorem quotes?_eq_some {quotes : List Char} (h : quotes? cs = some quotes) :
    cs ≠ [] ∧ quotes ≠ [] := by
  unfold quotes? at h
  split at h
  · refine ⟨List.cons_ne_nil _ _, ?_⟩
    split at h
    · cases h
      split <;> exact List.cons_ne_nil _ _
    · cases h
  · cases h

theorem quotedText?_length_lt {marks body : List Char}
    (h : quotedText? cs = some (marks, body, rest)) : rest.length < cs.length := by
  unfold quotedText? at h
  simp only [Option.bind_eq_bind, Option.pure_def] at h
  split at h
  · obtain ⟨quotes, hquotes, h⟩ := Option.bind_eq_some_iff.1 h
    obtain ⟨⟨body', r⟩, hbody, hpair⟩ := Option.bind_eq_some_iff.1 h
    have hrest : r = rest := congrArg (fun x => x.2.2) (Option.some.inj hpair)
    subst hrest
    obtain ⟨hr, hne⟩ := quotes?_eq_some hquotes
    have hle := quotedBody?_length_le hbody
    have hpos := List.length_pos_iff.2 hr
    have hquote := List.length_pos_iff.2 hne
    simp only [List.length_drop] at hle hpos
    omega
  · cases h

theorem operator?_length_lt {op : String} (h : operator? cs = some (op, rest)) :
    rest.length < cs.length := by
  obtain ⟨s, hs, hafter⟩ := List.exists_of_findSome?_eq_some h
  obtain ⟨r, hr, hpair⟩ := Option.map_eq_some_iff.1 hafter
  cases hpair
  have hne : ∀ s ∈ operators, s.toList ≠ [] := by decide
  have hpos := List.length_pos_iff.2 (hne _ hs)
  rw [after?_eq_some_iff.1 hr, List.length_append]
  omega

/-! ## Steps -/

theorem lineWidth?_length_le {fuel line line' : Nat} {width width' : Nat × Nat} {fixed : Option Nat}
    (h : lineWidth? fuel width fixed line cs = some (width', line', rest)) :
    rest.length ≤ cs.length := by
  fun_induction lineWidth? fuel width fixed line cs with
  | case1 | case5 => cases h
  | case2 _ _ _ _ _ r ih | case3 _ _ _ _ _ r ih | case4 _ _ _ _ _ r ih =>
    exact Nat.le_succ_of_le (ih h)
  | case6 _ _ _ _ _ r _ _ ih => exact Nat.le_succ_of_le (Nat.le_succ_of_le (ih h))
  | case7 | case8 =>
    cases h
    exact Nat.le_refl _

namespace Scanner

variable {s s' : Scanner} {fuel fuel' : Nat}

/-- Twice the number of characters ahead, and one more before the blanks of a line. -/
def size (s : Scanner) : Nat := 2 * s.rest.length + if s.atLineStart then 1 else 0

/-- What a scanner with text ahead does next. -/
def step? (s : Scanner) : Option Scanner :=
  if s.atLineStart then s.startLine
  else
    match s.rest with
    | [] => none
    | '\n' :: r => some (s.endLine r)
    | '#' :: r => some { s with rest := r.dropWhile (· != '\n') }
    | '\\' :: r =>
      match r with
      | '\n' :: c :: r => some { s with rest := c :: r, line := s.line + 1 }
      | _ => none
    | c :: r => if c == ' ' || c == '\t' || c == '\x0c' then some { s with rest := r } else s.token

theorem run_succ (fuel : Nat) (s : Scanner) :
    run (fuel + 1) s = if s.rest.isEmpty then s.finish else s.step?.bind (run fuel) := by
  rw [run]
  unfold step?
  cases hstart : s.atLineStart with
  | true => cases hrest : s.rest <;> simp
  | false =>
    simp only [Bool.false_and, Bool.false_eq_true, ↓reduceIte]
    split
    · next hrest => simp [hrest]
    · next r hrest => simp [hrest]
    · next r hrest => simp [hrest]
    · next r hrest =>
      simp only [hrest]
      split <;> simp
    · next c r hend hcomment hescape hrest =>
      simp only [hrest]
      split <;> simp

theorem run_of_step (hrest : s.rest ≠ []) (h : s.step? = some s') :
    run (fuel + 1) s = run fuel s' := by
  rw [run_succ, if_neg (by simpa using hrest), h, Option.bind_some]

theorem startLine_smaller (h : s.startLine = some s') :
    s'.rest.length ≤ s.rest.length ∧ s'.atLineStart = false := by
  unfold startLine at h
  obtain ⟨⟨width, line, rest⟩, hwidth, h⟩ := Option.bind_eq_some_iff.1 h
  have hle := lineWidth?_length_le hwidth
  dsimp only at h
  split at h
  · cases h
    exact ⟨hle, rfl⟩
  · obtain ⟨⟨lexemes, indentation⟩, -, h⟩ := Option.bind_eq_some_iff.1 h
    cases h
    exact ⟨hle, rfl⟩

theorem operator_smaller {op : String} {rest : List Char} (h : s.operator op rest = some s') :
    s'.rest = rest ∧ s'.atLineStart = s.atLineStart := by
  unfold operator at h
  dsimp only at h
  split at h
  · split at h
    · cases h
      exact ⟨rfl, rfl⟩
    · cases h
  · split at h
    · split at h
      · split at h
        · cases h
          exact ⟨rfl, rfl⟩
        · cases h
      · cases h
    · cases h
      exact ⟨rfl, rfl⟩

theorem token_smaller (h : s.token = some s') :
    s'.rest.length < s.rest.length ∧ s'.atLineStart = s.atLineStart := by
  unfold token at h
  dsimp only at h
  split at h
  · obtain ⟨⟨marks, body, rest⟩, hquoted, h⟩ := Option.map_eq_some_iff.1 h
    cases h
    exact ⟨quotedText?_length_lt hquoted, rfl⟩
  · split at h
    · next hname =>
      obtain ⟨i, -, h⟩ := Option.map_eq_some_iff.1 h
      cases h
      refine ⟨?_, rfl⟩
      rw [Bool.and_eq_true] at hname
      have hpos : 0 < (s.rest.takeWhile isNamePart).length := by
        obtain ⟨c, r, hrest, hc⟩ := exists_cons_of_headIs hname.1
        rw [hrest, List.takeWhile_cons_of_pos hc]
        exact Nat.succ_pos _
      show (s.rest.drop (s.rest.takeWhile isNamePart).length).length < s.rest.length
      have hle := (List.takeWhile_prefix (l := s.rest) isNamePart).length_le
      rw [List.length_drop]
      omega
    · split at h
      · next hnumber =>
        obtain ⟨⟨k, rest⟩, hk, h⟩ := Option.map_eq_some_iff.1 h
        cases h
        rw [Bool.or_eq_true, Bool.and_eq_true] at hnumber
        exact ⟨number?_length_lt hnumber hk, rfl⟩
      · obtain ⟨⟨op, rest⟩, hop, h⟩ := Option.bind_eq_some_iff.1 h
        obtain ⟨hrest, hstart⟩ := operator_smaller h
        exact ⟨hrest ▸ operator?_length_lt hop, hstart⟩

theorem endLine_rest (r : List Char) : (s.endLine r).rest = r := by
  have hrest : ∀ keep : Bool,
      (if keep then { s with rest := r } else s.push .newline r).rest = r := by
    intro keep
    cases keep <;> rfl
  exact hrest _

theorem size_lt_of_length_lt (h : s'.rest.length < s.rest.length) : s'.size < s.size := by
  unfold size
  split <;> omega

/-- Each step makes the scanner smaller. -/
theorem step?_size_lt (h : s.step? = some s') : s'.size < s.size := by
  unfold step? at h
  split at h
  · next hstart =>
    obtain ⟨hle, hstart'⟩ := startLine_smaller h
    rw [size, size, hstart, hstart', if_pos rfl, if_neg Bool.false_ne_true]
    omega
  · refine size_lt_of_length_lt ?_
    split at h
    · cases h
    · next r hrest =>
      cases h
      rw [endLine_rest, hrest]
      exact Nat.lt_succ_self _
    · next r hrest =>
      cases h
      rw [hrest]
      exact Nat.lt_succ_of_le (List.dropWhile_suffix _).length_le
    · next hrest =>
      split at h
      · cases h
        rw [hrest]
        exact Nat.lt_succ_of_le (Nat.le_succ _)
      · cases h
    · next c r _ _ _ hrest =>
      split at h
      · cases h
        rw [hrest]
        exact Nat.lt_succ_self _
      · exact (token_smaller h).1

/-- Induction on the number of steps. -/
theorem run_eq (h : s.size < fuel) (h' : s.size < fuel') : run fuel s = run fuel' s := by
  induction fuel generalizing s fuel' with
  | zero => omega
  | succ fuel ih =>
    cases fuel' with
    | zero => omega
    | succ fuel' =>
      rw [run_succ, run_succ]
      split
      · rfl
      · cases hstep : s.step? with
        | none => rfl
        | some s' =>
          have hlt := step?_size_lt hstep
          exact ih (by omega) (by omega)

/-! ## A comment in the first line -/

/-- The scanner before a line of the module, with nothing read so far. -/
def before (cs : List Char) (line : Nat) : Scanner := ⟨cs, line, [], .none, true, []⟩

theorem size_before (cs : List Char) (line : Nat) : (before cs line).size = 2 * cs.length + 1 := rfl

variable {body : List Char} (hbody : '\n' ∉ body) (below : List Char) (line : Nat)
include hbody

/-- The scanner starts the line, passes the comment over, and ends the line. -/
theorem run_comment (fuel : Nat) :
    run (fuel + 3) (before ('#' :: (body ++ '\n' :: below)) line) = run fuel (before below (line + 1)) := by
  let started : Scanner := ⟨'#' :: (body ++ '\n' :: below), line, [], .none, false, []⟩
  let passed : Scanner := ⟨'\n' :: below, line, [], .none, false, []⟩
  have hstart : (before started.rest line).step? = some started := by
    simp [step?, before, startLine, lineWidth?, headIs, started]
  have hpass : started.step? = some passed := by
    have hdrop : (body ++ '\n' :: below).dropWhile (· != '\n') = '\n' :: below := by
      rw [List.dropWhile_append_of_pos, List.dropWhile_cons_of_neg (by simp)]
      intro c hc
      rw [bne_iff_ne]
      rintro rfl
      exact hbody hc
    simp [step?, started, passed, hdrop]
  have hend : passed.step? = some (before below (line + 1)) := rfl
  calc run (fuel + 3) (before started.rest line)
      = run (fuel + 2) started := run_of_step (List.cons_ne_nil _ _) hstart
    _ = run (fuel + 1) passed := run_of_step (List.cons_ne_nil _ _) hpass
    _ = run fuel (before below (line + 1)) := run_of_step (List.cons_ne_nil _ _) hend

theorem run_before_comment :
    run (2 * ('#' :: (body ++ '\n' :: below)).length + 2)
        (before ('#' :: (body ++ '\n' :: below)) line) =
      run (2 * below.length + 2) (before below (line + 1)) := by
  have hfuel : 2 * ('#' :: (body ++ '\n' :: below)).length + 2 =
      2 * body.length + 2 * below.length + 3 + 3 := by
    simp only [List.length_cons, List.length_append]
    omega
  have hsize := size_before below (line + 1)
  rw [hfuel, run_comment hbody]
  exact run_eq (by omega) (by omega)

end Scanner

/-! ## Tokens -/

theorem withLastLineEnd_append (front back : List Char) :
    withLastLineEnd (front ++ '\n' :: back) = front ++ '\n' :: withLastLineEnd back := by
  unfold withLastLineEnd
  rcases List.eq_nil_or_concat back with rfl | ⟨inner, c, rfl⟩
  · simp
  · have hlast : ('\n' :: (inner ++ [c])).getLast? = some c := by
      rw [← List.cons_append, List.getLast?_concat]
    by_cases hc : c = '\n'
    · subst hc
      simp [hlast]
    · simp [hlast, hc]

theorem withLastLineEnd_of_not_mem (hne : cs ≠ []) (h : '\n' ∉ cs) :
    withLastLineEnd cs = cs ++ ['\n'] := by
  have hlast : cs.getLast? ≠ some '\n' := fun hlast => h (List.mem_of_getLast? hlast)
  simp [withLastLineEnd, hne, hlast]

section

variable {body : List Char} (hbody : ∀ c ∈ body, ¬ isLineEnd c = true) (line : Nat)
include hbody

/-- A comment line has no tokens. -/
theorem Token.ofChars?_comment (below : List Char) :
    Token.ofChars? line ('#' :: (body ++ '\n' :: below)) = Token.ofChars? (line + 1) below := by
  have hcomment : ∀ c ∈ '#' :: body, ¬ isLineEnd c = true := by
    rw [List.forall_mem_cons]
    exact ⟨by decide, hbody⟩
  have hfeed : '\n' ∉ body := fun hmem => hbody _ hmem rfl
  have hchars : withLastLineEnd (unifyLineEnds ('#' :: (body ++ '\n' :: below))) =
      '#' :: (body ++ '\n' :: withLastLineEnd (unifyLineEnds below)) := by
    rw [← List.cons_append, unifyLineEnds_append hcomment, unifyLineEnds_lineFeed,
      withLastLineEnd_append, List.cons_append]
  unfold ofChars?
  rw [hchars]
  exact Scanner.run_before_comment hfeed _ line

/-- The comment may be the last line. -/
theorem Token.ofChars?_comment_alone :
    Token.ofChars? line ('#' :: body) = Token.ofChars? (line + 1) [] := by
  have hcomment : ∀ c ∈ '#' :: body, ¬ isLineEnd c = true := by
    rw [List.forall_mem_cons]
    exact ⟨by decide, hbody⟩
  have hfeed : '\n' ∉ '#' :: body := fun hmem => hcomment _ hmem rfl
  have halone : unifyLineEnds ('#' :: body) = '#' :: body := by
    have h := unifyLineEnds_append hcomment []
    rw [List.append_nil] at h
    exact h.trans (List.append_nil _)
  have hended : unifyLineEnds ('#' :: (body ++ ['\n'])) = '#' :: body ++ ['\n'] :=
    unifyLineEnds_append hcomment ['\n']
  have hchars : withLastLineEnd (unifyLineEnds ('#' :: body)) =
      withLastLineEnd (unifyLineEnds ('#' :: (body ++ ['\n']))) := by
    rw [halone, hended, withLastLineEnd_of_not_mem (List.cons_ne_nil _ _) hfeed,
      withLastLineEnd_append, withLastLineEnd, if_pos (by rfl)]
  rw [← ofChars?_comment hbody line []]
  unfold ofChars?
  rw [hchars]

end

end Conformance.Offside
