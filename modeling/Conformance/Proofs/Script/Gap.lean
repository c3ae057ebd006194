import Conformance.Proofs.Text.Lines
import Conformance.Script.Parser

/-! # Gaps between tokens

* `Cursor.behindGap`: where a gap ends, without what it holds.
* `Cursor.behindGap_eq`: the number of steps does not matter if there is one for each character.
* `Cursor.gap_snd_comment`: a comment in the first line is passed over, and nothing below it.
-/

namespace Conformance.Script
open Text
set_option autoImplicit false

theorem comment?_ne_nil {cs text : List Char} (h : comment? cs = some text) : text ≠ [] := by
  unfold comment? at h
  split at h
  · cases h
    exact List.cons_ne_nil _ _
  · obtain ⟨body, -, rfl⟩ := Option.map_eq_some_iff.1 h
    exact List.cons_ne_nil _ _
  · cases h

namespace Cursor

variable {cur : Cursor} {fuel fuel' n : Nat}

theorem length_forward (cur : Cursor) (n : Nat) :
    (cur.forward n).rest.length = cur.rest.length - n := List.length_drop

/-- The length of the blanks or the comment ahead. -/
def gapPart? (cur : Cursor) : Option Nat :=
  let blanks := cur.rest.takeWhile isBlank
  if blanks.isEmpty then (comment? cur.rest).map List.length else some blanks.length

def behindGap : Nat → Cursor → Cursor
  | 0, cur => cur
  | fuel + 1, cur =>
    match cur.gapPart? with
    | some n => behindGap fuel (cur.forward n)
    | none => cur

theorem gapFrom_snd (fuel : Nat) (done : List Trivia) (cur : Cursor) :
    (cur.gapFrom fuel done).2 = cur.behindGap fuel := by
  induction fuel generalizing done cur with
  | zero => rfl
  | succ fuel ih =>
    rw [gapFrom, behindGap, gapPart?]
    dsimp only
    split
    · cases comment? cur.rest with
      | none => rfl
      | some text => exact ih _ _
    · exact ih _ _

theorem gapPart?_pos (h : cur.gapPart? = some n) : 0 < n := by
  unfold gapPart? at h
  dsimp only at h
  split at h
  · obtain ⟨text, htext, rfl⟩ := Option.map_eq_some_iff.1 h
    exact List.length_pos_iff.2 (comment?_ne_nil htext)
  · next hblanks =>
    cases h
    exact List.length_pos_iff.2 (by simpa using hblanks)

/-- At the end of the text there is no gap. -/
theorem behindGap_of_nil (h : cur.rest = []) (fuel : Nat) : cur.behindGap fuel = cur := by
  have hnone : cur.gapPart? = none := by
    rw [gapPart?, h]
    rfl
  cases fuel with
  | zero => rfl
  | succ fuel => rw [behindGap, hnone]

/-- Induction on the number of steps; each of them takes characters off the text ahead. -/
theorem behindGap_eq (h : cur.rest.length ≤ fuel) (h' : cur.rest.length ≤ fuel') :
    cur.behindGap fuel = cur.behindGap fuel' := by
  induction fuel generalizing cur fuel' with
  | zero =>
    have hrest : cur.rest = [] := List.eq_nil_of_length_eq_zero (Nat.le_zero.1 h)
    rw [behindGap_of_nil hrest, behindGap_of_nil hrest]
  | succ fuel ih =>
    cases fuel' with
    | zero =>
      have hrest : cur.rest = [] := List.eq_nil_of_length_eq_zero (Nat.le_zero.1 h')
      rw [behindGap_of_nil hrest, behindGap_of_nil hrest]
    | succ fuel' =>
      rw [behindGap, behindGap]
      split
      · next n hpart =>
        have hpos := gapPart?_pos hpart
        have hlength := length_forward cur n
        exact ih (by omega) (by omega)
      · rfl

theorem gap_snd (h : cur.rest.length ≤ fuel) : cur.gap.2 = cur.behindGap fuel := by
  rw [gap, gapFrom_snd]
  exact behindGap_eq (Nat.le_refl _) h

theorem gap_snd_of_part (h : cur.gapPart? = some n) : cur.gap.2 = (cur.forward n).gap.2 := by
  have hlength := length_forward cur n
  have hforward : (cur.forward n).rest.length ≤ cur.rest.length := by omega
  rw [gap_snd (Nat.le_succ cur.rest.length), gap_snd hforward, behindGap, h]

/-! ## A comment in the first line -/

theorem forward_zero (cur : Cursor) : cur.forward 0 = cur := rfl

theorem forward_lineFeed (cs : List Char) (row n : Nat) :
    (⟨'\n' :: cs, row⟩ : Cursor).forward (n + 1) = (⟨cs, row + 1⟩ : Cursor).forward n := by
  have hcount : (('\n' :: cs).take (n + 1)).countP isLineFeed = (cs.take n).countP isLineFeed + 1 := by
    rw [List.take_succ_cons, List.countP_cons_of_pos rfl]
  rw [forward, forward, hcount, List.drop_succ_cons, Nat.add_assoc, Nat.add_comm 1]

/-- A line feed is passed over together with the blanks behind it. -/
theorem gap_snd_lineFeed (cs : List Char) (row : Nat) :
    (⟨'\n' :: cs, row⟩ : Cursor).gap.2 = (⟨cs, row + 1⟩ : Cursor).gap.2 := by
  have hfeed : (⟨'\n' :: cs, row⟩ : Cursor).gapPart? = some ((cs.takeWhile isBlank).length + 1) := rfl
  rw [gap_snd_of_part hfeed, forward_lineFeed]
  cases hblanks : cs.takeWhile isBlank with
  | nil => rw [List.length_nil, forward_zero]
  | cons c r =>
    have hpart : (⟨cs, row + 1⟩ : Cursor).gapPart? = some (c :: r).length := by
      simp [gapPart?, hblanks]
    exact (gap_snd_of_part hpart).symm

/-- A comment is passed over up to its line end, and the next token is looked for below. -/
theorem gap_snd_comment {body : List Char} (hbody : ∀ c ∈ body, ¬ isLineEnd c = true)
    (below : List Char) (row : Nat) :
    (⟨'/' :: '/' :: (body ++ '\n' :: below), row⟩ : Cursor).gap.2 =
      (⟨below, row + 1⟩ : Cursor).gap.2 := by
  have htext : (body ++ '\n' :: below).takeWhile (fun c => c != '\n' && c != '\r') = body := by
    rw [List.takeWhile_append_of_pos, List.takeWhile_cons_of_neg (by decide), List.append_nil]
    intro c hc
    simpa using ne_of_not_isLineEnd (hbody c hc)
  have hcomment : comment? ('/' :: '/' :: (body ++ '\n' :: below)) = some ('/' :: '/' :: body) := by
    rw [comment?, htext]
  have hpart : (⟨'/' :: '/' :: (body ++ '\n' :: below), row⟩ : Cursor).gapPart? =
      some (body.length + 2) := by
    rw [gapPart?, hcomment]
    rfl
  have hcount : ('/' :: '/' :: body).countP isLineFeed = 0 := by
    rw [List.countP_eq_zero, List.forall_mem_cons, List.forall_mem_cons]
    refine ⟨by decide, by decide, fun c hc => ?_⟩
    simpa [isLineFeed] using (ne_of_not_isLineEnd (hbody c hc)).1
  have hforward : (⟨'/' :: '/' :: (body ++ '\n' :: below), row⟩ : Cursor).forward (body.length + 2) =
      ⟨'\n' :: below, row⟩ := by
    rw [forward, List.take_succ_cons, List.take_succ_cons, List.take_left, hcount,
      List.drop_succ_cons, List.drop_succ_cons, List.drop_left, Nat.add_zero]
  rw [gap_snd_of_part hpart, hforward, gap_snd_lineFeed]

end Cursor

end Conformance.Script
