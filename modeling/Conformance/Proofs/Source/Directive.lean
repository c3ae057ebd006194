import Conformance.Outline.Reading
import Conformance.Proofs.Offside.Scanner
import Conformance.Proofs.Script.Gap
import Conformance.Proofs.Text.Lines

/-! # What becomes of a directive

The comment that replaces a directive takes everything up to the first line feed. That is the first
line, unless the line ends with a carriage return alone: then lines below are lost with it.

* `HasDirective`, `EndsInReturn`: the sources that are changed, and those that lose lines.
* `tail_lines_fromLineEnd_iff`, `length_lines_fromLineEnd_iff`: when the lines below the first are left.
* `Outliner.ReadsBelow`: an outliner finds nothing in the first line of a text, and all of the rest.
* `withoutDirective_keeps_lines_iff`: when exactly the lines below are kept.
-/

namespace Conformance.Source
open Text
set_option autoImplicit false

def HasDirective (source : String) : Prop := ['#', '!'] <+: source.toList

/-- The first line ends with a carriage return alone. -/
def EndsInReturn (cs : List Char) : Prop := (lines cs).head?.bind List.getLast? = some '\r'

/-- What stands below the first line. -/
def below (cs : List Char) : List Char := (lines cs).tail.flatten

instance (source : String) : Decidable (HasDirective source) :=
  inferInstanceAs (Decidable (['#', '!'] <+: source.toList))

instance : DecidablePred EndsInReturn := fun cs =>
  inferInstanceAs (Decidable ((lines cs).head?.bind List.getLast? = some '\r'))

variable {c : Char} {cs rest : List Char} {source mark : String}

/-! ## The first line -/

theorem endsInReturn_cons (hc : ¬ isLineEnd c = true) (cs : List Char) :
    EndsInReturn (c :: cs) ↔ EndsInReturn cs := by
  obtain ⟨line, more, hlines⟩ := List.exists_cons_of_ne_nil (lines_ne_nil cs)
  unfold EndsInReturn
  rw [lines_of_not_isLineEnd hc, hlines]
  cases line with
  | nil => simpa using (ne_of_not_isLineEnd hc).2
  | cons d r => simp

theorem not_endsInReturn_lineFeed (cs : List Char) : ¬ EndsInReturn ('\n' :: cs) := by
  simp [EndsInReturn, lines_lineFeed]

theorem not_endsInReturn_pair (cs : List Char) : ¬ EndsInReturn ('\r' :: '\n' :: cs) := by
  simp [EndsInReturn, lines]

theorem endsInReturn_return (h : ∀ r, cs = '\n' :: r → False) : EndsInReturn ('\r' :: cs) := by
  rw [EndsInReturn, lines]
  · rfl
  · exact fun r _ hcs => h r hcs

theorem fromLineEnd_cons (hc : c ≠ '\n') (cs : List Char) :
    fromLineEnd (c :: cs) = fromLineEnd cs := List.dropWhile_cons_of_pos (by simpa using hc)

theorem fromLineEnd_lineFeed (cs : List Char) : fromLineEnd ('\n' :: cs) = '\n' :: cs := rfl

/-- Before the first line feed there is one line, and behind it are the others. -/
theorem fromLineEnd_of_not_endsInReturn (h : ¬ EndsInReturn cs) :
    (fromLineEnd cs = [] ∧ (lines cs).tail = []) ∨
      ∃ back, fromLineEnd cs = '\n' :: back ∧ (lines cs).tail = lines back := by
  fun_induction lines cs with
  | case1 => exact .inl ⟨rfl, rfl⟩
  | case2 r => exact .inr ⟨r, rfl, rfl⟩
  | case3 c r hpair hend =>
    rcases eq_of_isLineEnd hend with rfl | rfl
    · exact .inr ⟨r, rfl, rfl⟩
    · exact absurd (endsInReturn_return fun r hcs => hpair r rfl hcs) h
  | case4 c r _ hend ih =>
    rw [fromLineEnd_cons (ne_of_not_isLineEnd hend).1, List.tail_modifyHead]
    exact ih (mt (endsInReturn_cons hend r).2 h)

theorem length_lines_fromLineEnd_le (cs : List Char) :
    (lines (fromLineEnd cs)).length ≤ (lines cs).length := by
  fun_induction lines cs with
  | case1 => exact Nat.le_refl _
  | case2 r =>
    rw [fromLineEnd_cons (by decide), fromLineEnd_lineFeed, lines_lineFeed]
    exact Nat.le_refl _
  | case3 c r _ hend ih =>
    by_cases hc : c = '\n'
    · rw [hc, fromLineEnd_lineFeed]
      exact Nat.le_of_eq (congrArg List.length (lines_lineFeed r))
    · rw [fromLineEnd_cons hc]
      exact Nat.le_succ_of_le ih
  | case4 c r _ hend ih =>
    rw [fromLineEnd_cons (ne_of_not_isLineEnd hend).1, List.length_modifyHead]
    exact ih

/-- A carriage return alone is passed over in the search for a line feed. -/
theorem length_lines_fromLineEnd_lt (h : EndsInReturn cs) :
    (lines (fromLineEnd cs)).length < (lines cs).length := by
  fun_induction lines cs with
  | case1 => cases h
  | case2 r => exact absurd h (not_endsInReturn_pair r)
  | case3 c r _ hend =>
    rcases eq_of_isLineEnd hend with rfl | rfl
    · exact absurd h (not_endsInReturn_lineFeed r)
    · rw [fromLineEnd_cons (by decide)]
      exact Nat.lt_succ_of_le (length_lines_fromLineEnd_le r)
  | case4 c r _ hend ih =>
    rw [fromLineEnd_cons (ne_of_not_isLineEnd hend).1, List.length_modifyHead]
    exact ih ((endsInReturn_cons hend r).1 h)

theorem tail_lines_fromLineEnd (h : ¬ EndsInReturn cs) :
    (lines (fromLineEnd cs)).tail = (lines cs).tail := by
  rcases fromLineEnd_of_not_endsInReturn h with ⟨hnone, htail⟩ | ⟨back, hback, htail⟩
  · rw [hnone, htail]
    rfl
  · rw [hback, htail, lines_lineFeed, List.tail_cons]

theorem length_lines_fromLineEnd_iff :
    (lines (fromLineEnd cs)).length = (lines cs).length ↔ ¬ EndsInReturn cs := by
  constructor
  · intro hlength h
    exact absurd hlength (Nat.ne_of_lt (length_lines_fromLineEnd_lt h))
  · intro h
    rw [length_lines, length_lines cs, tail_lines_fromLineEnd h]

theorem tail_lines_fromLineEnd_iff :
    (lines (fromLineEnd cs)).tail = (lines cs).tail ↔ ¬ EndsInReturn cs := by
  constructor
  · intro htail
    rw [← length_lines_fromLineEnd_iff, length_lines, length_lines cs, htail]
  · exact tail_lines_fromLineEnd

/-! ## The replaced line -/

/-- What the comment says behind its mark. -/
def note : List Char := " (shebang removed)".toList

theorem not_isLineEnd_of_mem_note : ∀ c ∈ note, ¬ isLineEnd c = true :=
  not_isLineEnd_of_all (by decide)

theorem HasDirective.exists_toList (h : HasDirective source) :
    ∃ rest, source.toList = '#' :: '!' :: rest := by
  obtain ⟨rest, hrest⟩ := h
  exact ⟨rest, hrest.symm⟩

theorem toList_withoutDirective (h : source.toList = '#' :: '!' :: rest) :
    (withoutDirective mark source).toList = mark.toList ++ (note ++ fromLineEnd rest) := by
  have hafter : after? ['#', '!'] source.toList = some rest := after?_eq_some_iff.2 h
  rw [withoutDirective, hafter]
  show (mark ++ " (shebang removed)" ++ String.ofList (fromLineEnd rest)).toList = _
  rw [String.toList_append, String.toList_append, String.toList_ofList (l := fromLineEnd rest),
    List.append_assoc]
  rfl

theorem withoutDirective_of_not (h : ¬ HasDirective source) : withoutDirective mark source = source := by
  have hafter : after? ['#', '!'] source.toList = none := by
    rw [Option.eq_none_iff_forall_ne_some]
    intro rest hrest
    exact h ⟨rest, (after?_eq_some_iff.1 hrest).symm⟩
  rw [withoutDirective, hafter]

end Conformance.Source

namespace Conformance
open Source Text

variable {source : String} {cs rest : List Char}

namespace Outliner

theorem not_isLineEnd_of_mem_commentMark (o : Outliner) :
    ∀ c ∈ o.commentMark.toList, ¬ isLineEnd c = true := by
  cases o with
  | script | module => exact not_isLineEnd_of_all (by decide)

/-- The outliner looks for the first token of a text where it looks for that of the lines below. -/
def ReadsBelow (text : String) (below : List Char) : Outliner → Prop
  | .script => below ≠ [] →
    (⟨text.toList, 0⟩ : Script.Cursor).gap.2 = (⟨below, 1⟩ : Script.Cursor).gap.2
  | .module => Offside.Token.ofText? text = Offside.Token.ofChars? 2 below

theorem not_hasDirective_withoutDirective (o : Outliner) (source : String) :
    ¬ HasDirective (withoutDirective o.commentMark source) := by
  by_cases h : HasDirective source
  · obtain ⟨rest, hrest⟩ := h.exists_toList
    have hnote : ∃ more, note = ' ' :: more := ⟨_, rfl⟩
    obtain ⟨more, hmore⟩ := hnote
    rw [HasDirective, toList_withoutDirective hrest, hmore]
    cases o <;> simp [commentMark]
  · rwa [withoutDirective_of_not h]

/-- Behind the comment stands nothing, or a line feed and the lines below. -/
theorem readsBelow_of_not_endsInReturn (o : Outliner) {text : String}
    (htext : text.toList = o.commentMark.toList ++ (note ++ fromLineEnd cs)) (h : ¬ EndsInReturn cs) :
    o.ReadsBelow text (below cs) := by
  rcases fromLineEnd_of_not_endsInReturn h with ⟨hnone, htail⟩ | ⟨back, hback, htail⟩
  · have hbelow : below cs = [] := by rw [below, htail, List.flatten_nil]
    rw [hnone, List.append_nil] at htext
    cases o with
    | script => exact fun hne => absurd hbelow hne
    | module =>
      show Offside.Token.ofChars? 1 text.toList = _
      rw [htext, hbelow]
      exact Offside.Token.ofChars?_comment_alone not_isLineEnd_of_mem_note 1
  · have hbelow : below cs = back := by rw [below, htail, flatten_lines]
    rw [hback] at htext
    cases o with
    | script =>
      intro _
      rw [htext, hbelow]
      exact Script.Cursor.gap_snd_comment not_isLineEnd_of_mem_note back 0
    | module =>
      show Offside.Token.ofChars? 1 text.toList = _
      rw [htext, hbelow]
      exact Offside.Token.ofChars?_comment not_isLineEnd_of_mem_note 1 back

end Outliner

namespace Source

/-- The replaced line and the one in its place have no effect on the other lines. -/
theorem lines_withoutDirective (o : Outliner) (h : source.toList = '#' :: '!' :: rest) :
    (lines (withoutDirective o.commentMark source).toList).length =
        (lines (fromLineEnd rest)).length ∧
      (lines (withoutDirective o.commentMark source).toList).tail = (lines (fromLineEnd rest)).tail := by
  have hcomment : ∀ c ∈ o.commentMark.toList ++ note, ¬ isLineEnd c = true := by
    rw [List.forall_mem_append]
    exact ⟨o.not_isLineEnd_of_mem_commentMark, not_isLineEnd_of_mem_note⟩
  rw [toList_withoutDirective h, ← List.append_assoc]
  exact ⟨length_lines_append hcomment _, tail_lines_append hcomment _⟩

theorem lines_directive (rest : List Char) :
    (lines ('#' :: '!' :: rest)).length = (lines rest).length ∧
      (lines ('#' :: '!' :: rest)).tail = (lines rest).tail ∧
      (EndsInReturn ('#' :: '!' :: rest) ↔ EndsInReturn rest) := by
  have hdirective : ∀ c ∈ ['#', '!'], ¬ isLineEnd c = true := not_isLineEnd_of_all (by decide)
  refine ⟨length_lines_append hdirective rest, tail_lines_append hdirective rest, ?_⟩
  rw [endsInReturn_cons (by decide), endsInReturn_cons (by decide)]

/-- **Lines below a directive.** A source without a directive stays as it is. A source that has one
gets a text without one, so replacing it again changes nothing, and that text is what is read. Its
lines are as many, and are the same below the first, just if the first line does not end with a
carriage return alone; then the tokens are those of the lines below. -/
theorem withoutDirective_keeps_lines_iff (o : Outliner) (source : String) :
    let text := withoutDirective o.commentMark source
    (¬ HasDirective source → text = source) ∧
      ¬ HasDirective text ∧ withoutDirective o.commentMark text = text ∧
      (∀ settings path, o.read settings path text = o.read settings path source) ∧
      (HasDirective source →
        ((lines text.toList).length = (lines source.toList).length ↔ ¬ EndsInReturn source.toList) ∧
          ((lines text.toList).tail = (lines source.toList).tail ↔ ¬ EndsInReturn source.toList) ∧
          (¬ EndsInReturn source.toList → o.ReadsBelow text (below source.toList))) := by
  intro text
  have hnone : ¬ HasDirective text := o.not_hasDirective_withoutDirective source
  have hagain : withoutDirective o.commentMark text = text := withoutDirective_of_not hnone
  refine ⟨withoutDirective_of_not, hnone, hagain, fun settings path => ?_, fun hdirective => ?_⟩
  · unfold Outliner.read
    rw [hagain]
  · obtain ⟨rest, hrest⟩ := hdirective.exists_toList
    obtain ⟨hlength, htail⟩ := lines_withoutDirective o hrest
    obtain ⟨hlength', htail', hends⟩ := lines_directive rest
    have hbelow : below source.toList = below rest := by rw [below, hrest, htail', below]
    rw [hlength, htail, hbelow, hrest, hlength', htail', hends]
    exact ⟨length_lines_fromLineEnd_iff, tail_lines_fromLineEnd_iff,
      o.readsBelow_of_not_endsInReturn (toList_withoutDirective hrest)⟩

/-- The first line ends with the pair, and the second with a carriage return alone. All are kept. -/
theorem withoutDirective_keeps_lines_below_pair :
    let source := "#!/usr/bin/env node\r\nf();\rg();"
    let text := withoutDirective Outliner.script.commentMark source
    HasDirective source ∧ ¬ EndsInReturn source.toList ∧
      (lines text.toList).tail = ["f();\r".toList, "g();".toList] ∧
      (⟨text.toList, 0⟩ : Script.Cursor).gap.2 = (⟨"f();\rg();".toList, 1⟩ : Script.Cursor).gap.2 := by
  intro source text
  have hdirective : HasDirective source := by decide
  have hends : ¬ EndsInReturn source.toList := by decide
  have htail : (lines source.toList).tail = ["f();\r".toList, "g();".toList] := by decide
  have hbelow : below source.toList = "f();\rg();".toList := by rw [below, htail]; rfl
  obtain ⟨-, -, -, -, hlines⟩ := withoutDirective_keeps_lines_iff .script source
  obtain ⟨-, hkept, hreads⟩ := hlines hdirective
  refine ⟨hdirective, hends, (hkept.2 hends).trans htail, ?_⟩
  rw [← hbelow]
  exact hreads hends (by rw [hbelow]; exact List.cons_ne_nil _ _)

/-- The lines of this source end with carriage returns. A call is lost, and nothing is read. -/
theorem withoutDirective_loses_call :
    let source := "#!/usr/bin/env python\rprint(user.secret)\r"
    let text := withoutDirective Outliner.module.commentMark source
    HasDirective source ∧ text = "# (shebang removed)" ∧
      (lines source.toList).length = 3 ∧ (lines text.toList).length = 1 ∧
      Offside.Token.ofText? text = some [⟨.stop, 2⟩] := by
  have htext : withoutDirective Outliner.module.commentMark
      "#!/usr/bin/env python\rprint(user.secret)\r" = "# (shebang removed)" := by decide
  refine ⟨by decide, htext, by decide, by decide, ?_⟩
  rw [htext]
  exact Offside.Token.ofChars?_comment_alone not_isLineEnd_of_mem_note 1

end Source

end Conformance
