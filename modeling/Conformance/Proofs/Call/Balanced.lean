import Conformance.Proofs.Call.Place

/-! # Balanced argument lists

The parenthesis that closes a call is found by counting. Here it is described by a grammar instead:
what stands before it is a row of plain characters, quoted literals and lists in parentheses. A text
that starts with such a row and a closing parenthesis does so in one way only, and counting finds it;
in a text that does not, it runs to the end.

* `IsArguments`: the grammar, with `IsLiteralBody` for what stands between two quotes.
* `argumentTextFrom_arguments`: counting passes over any row, at every depth.
* `Leads`: what stands between some place in a call and the parenthesis that closes it.
* `stops_argumentTextFrom`: counting stops behind such a text or not at all.
* `isArguments_iff`: the grammar is decided by counting.
* `argumentEnd_of_opening`: where the parenthesis of a call is closed.
-/

namespace Conformance.Call
set_option autoImplicit false

/-! ## The grammar -/

/-- Neither a parenthesis nor a quote. -/
def IsPlain (c : Char) : Prop := c ≠ '(' ∧ c ≠ ')' ∧ isQuote c = false

/-- What a literal with the quote `q` holds. A backslash takes the next character with it. -/
inductive IsLiteralBody (q : Char) : List Char → Prop
  | nil : IsLiteralBody q []
  | char {c : Char} {body : List Char} (hquote : c ≠ q) (hescape : c ≠ '\\')
      (hbody : IsLiteralBody q body) : IsLiteralBody q (c :: body)
  | escape {c : Char} {body : List Char} (hbody : IsLiteralBody q body) :
      IsLiteralBody q ('\\' :: c :: body)

/-- A row of plain characters, quoted literals and rows in parentheses. -/
inductive IsArguments : List Char → Prop
  | nil : IsArguments []
  | plain {c : Char} {a : List Char} (hc : IsPlain c) (ha : IsArguments a) : IsArguments (c :: a)
  | literal {q : Char} {body a : List Char} (hq : isQuote q = true) (hbody : IsLiteralBody q body)
      (ha : IsArguments a) : IsArguments (q :: (body ++ q :: a))
  | nested {inner a : List Char} (hinner : IsArguments inner) (ha : IsArguments a) :
      IsArguments ('(' :: (inner ++ ')' :: a))

variable {a b body rest : List Char} {q c : Char} {depth : Nat}

theorem IsArguments.append (ha : IsArguments a) (hb : IsArguments b) : IsArguments (a ++ b) := by
  induction ha with
  | nil => exact hb
  | plain hc _ ih => exact .plain hc ih
  | @literal q body a hq hbody _ ih =>
    have h : IsArguments (q :: (body ++ q :: (a ++ b))) := .literal hq hbody ih
    simpa using h
  | @nested inner a hinner _ _ ih =>
    have h : IsArguments ('(' :: (inner ++ ')' :: (a ++ b))) := .nested hinner ih
    simpa using h

/-! ## Counting passes over rows -/

theorem ne_backslash_of_isQuote (hq : isQuote q = true) : q ≠ '\\' := by
  rintro rfl
  exact absurd hq (by decide)

/-- One character of a literal: the quote ends it. -/
theorem argumentTextFrom_quoted (hc : c ≠ '\\') :
    argumentTextFrom depth (some q) (c :: rest) =
      c :: argumentTextFrom depth (if c = q then none else some q) rest := by
  rw [argumentTextFrom]
  · exact fun h => absurd h hc
  · exact fun _ _ h => absurd h hc

theorem argumentTextFrom_plain (hc : IsPlain c) :
    argumentTextFrom depth none (c :: rest) = c :: argumentTextFrom depth none rest := by
  obtain ⟨hopening, hclosing, hquote⟩ := hc
  cases depth <;> simp [argumentTextFrom, hopening, hclosing, hquote]

theorem argumentTextFrom_quote (hq : isQuote q = true) :
    argumentTextFrom depth none (q :: rest) = q :: argumentTextFrom depth (some q) rest := by
  cases depth <;> simp [argumentTextFrom, hq]

theorem argumentTextFrom_opening :
    argumentTextFrom depth none ('(' :: rest) = '(' :: argumentTextFrom (depth + 1) none rest := by
  cases depth <;> simp [argumentTextFrom, isQuote]

theorem argumentTextFrom_closing :
    argumentTextFrom (depth + 1) none (')' :: rest) = ')' :: argumentTextFrom depth none rest := by
  rw [argumentTextFrom, if_neg (by decide), if_neg (by decide), if_pos rfl]

theorem argumentText_closing : argumentText (')' :: rest) = [] := by
  rw [argumentText, argumentTextFrom, if_neg (by decide), if_neg (by decide), if_pos rfl]

theorem argumentTextFrom_literal (hq : q ≠ '\\') (h : IsLiteralBody q body) :
    argumentTextFrom depth (some q) (body ++ q :: rest) =
      body ++ q :: argumentTextFrom depth none rest := by
  induction h with
  | nil =>
    rw [List.nil_append, argumentTextFrom_quoted hq, if_pos rfl]
    rfl
  | char hquote hescape _ ih =>
    rw [List.cons_append, argumentTextFrom_quoted hescape, if_neg hquote, ih]
    rfl
  | escape _ ih =>
    rw [List.cons_append, List.cons_append, argumentTextFrom, ih]
    rfl

/-- Induction on the row. The row in parentheses is passed one level deeper, so the depth and what
follows are general. -/
theorem argumentTextFrom_arguments (h : IsArguments a) (depth : Nat) (rest : List Char) :
    argumentTextFrom depth none (a ++ rest) = a ++ argumentTextFrom depth none rest := by
  induction h generalizing depth rest with
  | nil => rfl
  | plain hc _ ih =>
    rw [List.cons_append, argumentTextFrom_plain hc, ih]
    rfl
  | literal hq hbody _ ih =>
    rw [List.cons_append, List.append_assoc, List.cons_append, argumentTextFrom_quote hq,
      argumentTextFrom_literal (ne_backslash_of_isQuote hq) hbody, ih]
    simp
  | nested _ _ ihinner ih =>
    rw [List.cons_append, List.append_assoc, List.cons_append, argumentTextFrom_opening, ihinner,
      argumentTextFrom_closing, ih]
    simp

theorem argumentText_arguments (h : IsArguments a) (rest : List Char) :
    argumentText (a ++ ')' :: rest) = a := by
  have hpassed := argumentTextFrom_arguments h 0 (')' :: rest)
  rw [← argumentText, ← argumentText, argumentText_closing, List.append_nil] at hpassed
  exact hpassed

/-! ## Counting stops behind rows only -/

/-- What stands between a place and the parenthesis that closes a call, where `depth` lists and perhaps
a literal are open at the place: the rest of the literal, and a row for each list. -/
inductive Leads : Nat → Option Char → List Char → Prop
  | here {a : List Char} (ha : IsArguments a) : Leads 0 none a
  | out {depth : Nat} {a b : List Char} (ha : IsArguments a) (hb : Leads depth none b) :
      Leads (depth + 1) none (a ++ ')' :: b)
  | literal {depth : Nat} {q : Char} {body b : List Char} (hbody : IsLiteralBody q body)
      (hb : Leads depth none b) : Leads depth (some q) (body ++ q :: b)

theorem Leads.prepend (ha : IsArguments a) (hb : Leads depth none b) : Leads depth none (a ++ b) := by
  cases hb with
  | here hb => exact .here (ha.append hb)
  | @out depth b₁ b₂ hb₁ hb₂ =>
    have h : Leads (depth + 1) none (a ++ b₁ ++ ')' :: b₂) := .out (ha.append hb₁) hb₂
    rwa [List.append_assoc] at h

theorem Leads.plain (hc : IsPlain c) (ha : Leads depth none a) : Leads depth none (c :: a) :=
  ha.prepend (.plain hc .nil)

theorem Leads.opening (ha : Leads (depth + 1) none a) : Leads depth none ('(' :: a) := by
  cases ha with
  | @out _ a b ha hb =>
    have h : Leads depth none ('(' :: (a ++ ')' :: []) ++ b) := hb.prepend (.nested ha .nil)
    simpa using h

theorem Leads.closing (ha : Leads depth none a) : Leads (depth + 1) none (')' :: a) := .out .nil ha

theorem Leads.quote (hq : isQuote q = true) (ha : Leads depth (some q) a) :
    Leads depth none (q :: a) := by
  cases ha with
  | @literal _ _ body b hbody hb =>
    have h : Leads depth none (q :: (body ++ q :: []) ++ b) := hb.prepend (.literal hq hbody .nil)
    simpa using h

theorem Leads.escape (ha : Leads depth (some q) a) : Leads depth (some q) ('\\' :: c :: a) := by
  cases ha with
  | literal hbody hb => exact .literal hbody.escape hb

theorem Leads.quoted (hc : c ≠ '\\') (ha : Leads depth (if c = q then none else some q) a) :
    Leads depth (some q) (c :: a) := by
  by_cases hquote : c = q
  · rw [if_pos hquote] at ha
    rw [hquote]
    exact .literal .nil ha
  · rw [if_neg hquote] at ha
    cases ha with
    | literal hbody hb => exact .literal (.char hquote hc hbody) hb

/-- Counting takes everything, or it stops before a parenthesis it was led to. -/
def Stops (depth : Nat) (quote : Option Char) (rest taken : List Char) : Prop :=
  taken = rest ∨ ∃ back, rest = taken ++ ')' :: back ∧ Leads depth quote taken

theorem Stops.cons {depth' : Nat} {quote quote' : Option Char} {taken : List Char}
    (hlead : Leads depth quote taken → Leads depth' quote' (c :: taken))
    (h : Stops depth quote rest taken) : Stops depth' quote' (c :: rest) (c :: taken) := by
  rcases h with rfl | ⟨back, rfl, htaken⟩
  · exact .inl rfl
  · exact .inr ⟨back, rfl, hlead htaken⟩

/-- One case for each step of the count. -/
theorem stops_argumentTextFrom (depth : Nat) (quote : Option Char) (rest : List Char) :
    Stops depth quote rest (argumentTextFrom depth quote rest) := by
  fun_induction argumentTextFrom depth quote rest with
  | case1 => exact .inl rfl
  | case2 => exact .inl rfl
  | case3 depth q c r ih =>
    rcases ih with hall | ⟨back, hback, hlead⟩
    · exact .inl (by rw [hall])
    · exact .inr ⟨back, by rw [List.cons_append, List.cons_append, ← hback], hlead.escape⟩
  | case4 depth q c r hlast hmore ih =>
    have hc : c ≠ '\\' := by
      rintro rfl
      cases r with
      | nil => exact hlast rfl rfl
      | cons d r => exact hmore d r rfl rfl
    exact ih.cons (Leads.quoted hc)
  | case5 depth q r hq ih => exact ih.cons (Leads.quote hq)
  | case6 depth r _ ih => exact ih.cons Leads.opening
  | case7 r => exact .inr ⟨r, rfl, Leads.here .nil⟩
  | case8 r depth _ _ ih => exact ih.cons Leads.closing
  | case9 depth c r hquote hopening hclosing ih =>
    have hc : IsPlain c := ⟨hopening, hclosing, Bool.not_eq_true _ ▸ hquote⟩
    exact ih.cons (Leads.plain hc)

theorem argumentText_eq_self_or (rest : List Char) :
    argumentText rest = rest ∨
      ∃ back, rest = argumentText rest ++ ')' :: back ∧ IsArguments (argumentText rest) := by
  rcases stops_argumentTextFrom 0 none rest with hall | ⟨back, hback, hlead⟩
  · exact .inl hall
  · cases hlead with
    | here ha => exact .inr ⟨back, hback, ha⟩

/-! ## Where a call is closed -/

/-- A row is one just if a parenthesis behind it is the first that closes more than was opened. -/
theorem isArguments_iff : IsArguments a ↔ argumentText (a ++ [')']) = a := by
  constructor
  · intro ha
    exact argumentText_arguments ha []
  · intro h
    rcases argumentText_eq_self_or (a ++ [')']) with hall | ⟨-, -, ha⟩
    · rw [h] at hall
      simp at hall
    · rwa [h] at ha

instance : DecidablePred IsArguments := fun _ => decidable_of_iff _ isArguments_iff.symm

/-- Behind position `p` stands the row, and a closing parenthesis behind it. -/
def ClosesAfter (text : List Char) (p : Nat) (a : List Char) : Prop :=
  IsArguments a ∧ a ++ [')'] <+: text.drop (p + 1)

instance (text : List Char) (p : Nat) : DecidablePred (ClosesAfter text p) := fun a =>
  inferInstanceAs (Decidable (IsArguments a ∧ a ++ [')'] <+: text.drop (p + 1)))

theorem ClosesAfter.eq_argumentText {text : List Char} {p : Nat} (h : ClosesAfter text p a) :
    a = argumentText (text.drop (p + 1)) := by
  obtain ⟨ha, back, hback⟩ := h
  rw [List.append_assoc] at hback
  rw [← hback]
  exact (argumentText_arguments ha back).symm

theorem exists_closesAfter_or (text : List Char) (p : Nat) :
    (∃ a, ClosesAfter text p a) ∨ argumentText (text.drop (p + 1)) = text.drop (p + 1) := by
  rcases argumentText_eq_self_or (text.drop (p + 1)) with hall | ⟨back, hback, ha⟩
  · exact .inr hall
  · refine .inl ⟨_, ha, back, ?_⟩
    rw [List.append_assoc]
    exact hback.symm

/-- **The closing parenthesis.** A list that opens at a position ends after it, and with the text at
the latest. Where a row and a closing parenthesis follow the opening one, there is one such row, and
the list ends at that parenthesis; otherwise the list ends with the text. -/
theorem argumentEnd_of_opening {text : List Char} {p : Nat} (hopening : text[p]? = some '(') :
    p < argumentEnd text p ∧ argumentEnd text p ≤ text.length ∧
      (∀ a, ClosesAfter text p a →
        (∀ b, ClosesAfter text p b → b = a) ∧ argumentEnd text p = p + 1 + a.length ∧
          text[argumentEnd text p]? = some ')') ∧
      ((¬ ∃ a, ClosesAfter text p a) → argumentEnd text p = text.length) := by
  have hlt : p < text.length := (List.getElem?_eq_some_iff.1 hopening).1
  have hfront : argumentText (text.drop (p + 1)) <+: text.drop (p + 1) :=
    argumentTextFrom_prefix 0 none _
  have hle : (argumentText (text.drop (p + 1))).length ≤ text.length - (p + 1) := by
    rw [← List.length_drop]
    exact hfront.length_le
  refine ⟨?_, ?_, ?_, ?_⟩
  · unfold argumentEnd
    omega
  · unfold argumentEnd
    omega
  · intro a ha
    have hend : argumentEnd text p = p + 1 + a.length := by
      rw [argumentEnd, ← ha.eq_argumentText]
    refine ⟨fun b hb => hb.eq_argumentText.trans ha.eq_argumentText.symm, hend, ?_⟩
    obtain ⟨-, back, hback⟩ := ha
    rw [hend, ← List.getElem?_drop, ← hback]
    simp
  · intro hnone
    have hall := (exists_closesAfter_or text p).resolve_left hnone
    rw [argumentEnd, hall, List.length_drop]
    omega

/-- Quoted parentheses do not count, nor do quotes between other quotes. The second call is left open,
in a literal that a backslash ends. -/
theorem argumentEnd_of_quoted_parentheses :
    let text := "log(f(\"(\\\")\"), '\x60)', [x]) + g(h(), 'y)\\".toList
    text[3]? = some '(' ∧ argumentEnd text 3 = 24 ∧ text[29]? = some '(' ∧
      argumentEnd text 29 = text.length := by
  intro text
  have hfirst : text[3]? = some '(' := by decide
  have hsecond : text[29]? = some '(' := by decide
  obtain ⟨-, -, hcloses, -⟩ := argumentEnd_of_opening hfirst
  obtain ⟨-, -, -, hopen⟩ := argumentEnd_of_opening hsecond
  refine ⟨hfirst, (hcloses "f(\"(\\\")\"), '\x60)', [x]".toList (by decide)).2.1, hsecond, hopen ?_⟩
  rintro ⟨a, ha⟩
  have htext := ha.eq_argumentText
  subst htext
  revert ha
  decide

end Conformance.Call
