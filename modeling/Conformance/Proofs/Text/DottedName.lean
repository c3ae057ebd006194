import Conformance.Text.DottedName
import Conformance.Proofs.Text.DottedPath
import Conformance.Proofs.Text.WholeWord

/-! # Where dotted names stand

A dotted name starts with a letter, an underscore or a dollar sign, and so does each part behind a
dot. A search for dotted names takes the longest one at each place, and so never ends inside a word;
but it may begin inside one, behind characters that belong to a word and start no name.

* `IsDottedName`: a dotted name; `dottedName?_eq_some_iff` says which one stands at the head of a text.
* `dottedNames_append_cons`: other characters part a text into texts with names of their own.
* `StandsFree`: no name begins in the run of name characters before a place.
* `exists_of_mem_dottedNames`: where a name stands that the search meets.
-/

namespace Conformance.Text
set_option autoImplicit false

/-- What may follow the first character of a dotted name. -/
inductive IsNameTail : List Char → Prop
  | nil : IsNameTail []
  | char {c : Char} {cs : List Char} (hc : isNameChar c = true) (h : IsNameTail cs) :
      IsNameTail (c :: cs)
  | dot {c : Char} {cs : List Char} (hc : isNameStart c = true) (h : IsNameTail cs) :
      IsNameTail ('.' :: c :: cs)

def IsDottedName : List Char → Prop
  | [] => False
  | c :: cs => isNameStart c = true ∧ IsNameTail cs

/-- No dotted name goes on here. -/
def EndsName (rest : List Char) : Prop :=
  headIs isNameChar rest = false ∧ ∀ cs, rest = '.' :: cs → headIs isNameStart cs = false

/-- Neither part of a name nor a dot between names. -/
def Separates (c : Char) : Prop := isNameChar c = false ∧ c ≠ '.'

variable {c : Char} {cs name text front back rest : List Char}

theorem isNameStart_eq_false (h : isNameChar c = false) : isNameStart c = false := by
  cases hstart : isNameStart c with
  | false => rfl
  | true =>
    rw [isNameChar_of_isNameStart hstart] at h
    cases h

theorem ne_dot_of_isNameStart (h : isNameStart c = true) : c ≠ '.' := by
  rintro rfl
  rw [isNameStart_eq_false isNameChar_dot] at h
  cases h

theorem IsNameTail.of_cons (h : IsNameTail (c :: cs)) (hc : c ≠ '.') : IsNameTail cs := by
  cases h with
  | char _ h => exact h
  | dot _ _ => exact absurd rfl hc

theorem isNameTail_of_forall (h : ∀ c ∈ cs, isNameChar c = true) : IsNameTail cs := by
  induction cs with
  | nil => exact .nil
  | cons d r ih =>
    rw [List.forall_mem_cons] at h
    exact .char h.1 (ih h.2)

theorem isNameTail_of_append (h : IsNameTail (cs ++ name)) (hcs : '.' ∉ cs) : IsNameTail name := by
  induction cs with
  | nil => exact h
  | cons d r ih =>
    rw [List.mem_cons, not_or] at hcs
    exact ih (h.of_cons (Ne.symm hcs.1)) hcs.2

/-- A dot and a dotted name may follow, and behind a dot nothing else. -/
theorem isNameTail_cons_dot : IsNameTail ('.' :: name) ↔ IsDottedName name := by
  constructor
  · intro h
    cases h with
    | char hc _ =>
      rw [isNameChar_dot] at hc
      cases hc
    | dot hc h => exact ⟨hc, h⟩
  · intro h
    cases name with
    | nil => exact h.elim
    | cons d r => exact .dot h.1 h.2

theorem IsDottedName.ne_nil (h : IsDottedName name) : name ≠ [] := by
  rintro rfl
  exact h

/-! ## The longest name -/

theorem takeDotted_append (h : IsNameTail name) (hrest : EndsName rest) :
    takeDotted (name ++ rest) = name := by
  induction h with
  | nil =>
    cases rest with
    | nil => rfl
    | cons d r =>
      have hd : isNameChar d = false := hrest.1
      rw [List.nil_append, takeDotted, hd, if_neg Bool.false_ne_true]
      refine if_neg fun hdot => ?_
      rw [Bool.and_eq_true, beq_iff_eq] at hdot
      obtain ⟨rfl, hr⟩ := hdot
      rw [hrest.2 r rfl] at hr
      cases hr
  | char hc _ ih => rw [List.cons_append, takeDotted, if_pos hc, ih]
  | @dot d cs hd _ ih =>
    have hchar : isNameChar d = true := isNameChar_of_isNameStart hd
    have hhead : headIs isNameStart (d :: cs ++ rest) = true := hd
    rw [List.cons_append, takeDotted, isNameChar_dot, hhead, if_neg Bool.false_ne_true, beq_self_eq_true,
      Bool.and_self, if_pos rfl, List.cons_append, takeDotted, if_pos hchar, ih]

theorem exists_append_takeDotted (text : List Char) :
    ∃ rest, text = takeDotted text ++ rest ∧ IsNameTail (takeDotted text) ∧ EndsName rest := by
  induction text with
  | nil => exact ⟨[], rfl, .nil, rfl, fun cs h => by cases h⟩
  | cons d r ih =>
    obtain ⟨rest, htext, htail, hrest⟩ := ih
    rw [takeDotted]
    by_cases hchar : isNameChar d = true
    · rw [if_pos hchar]
      exact ⟨rest, by rw [List.cons_append, ← htext], .char hchar htail, hrest⟩
    · rw [if_neg hchar]
      by_cases hdot : (d == '.' && headIs isNameStart r) = true
      · rw [if_pos hdot]
        rw [Bool.and_eq_true, beq_iff_eq] at hdot
        obtain ⟨rfl, hhead⟩ := hdot
        refine ⟨rest, by rw [List.cons_append, ← htext], ?_, hrest⟩
        cases r with
        | nil => cases hhead
        | cons e r =>
          have hstart : isNameStart e = true := hhead
          rw [takeDotted, if_pos (isNameChar_of_isNameStart hstart)] at htail ⊢
          exact .dot hstart (htail.of_cons (ne_dot_of_isNameStart hstart))
      · rw [if_neg hdot]
        refine ⟨d :: r, rfl, .nil, Bool.eq_false_iff.2 hchar, fun cs hcs => ?_⟩
        obtain ⟨rfl, rfl⟩ := List.cons.inj hcs
        simpa using hdot

/-- The dotted name at the head of a text goes on as long as it can. -/
theorem dottedName?_eq_some_iff :
    dottedName? text = some name ↔
      IsDottedName name ∧ ∃ rest, text = name ++ rest ∧ EndsName rest := by
  unfold dottedName?
  constructor
  · intro h
    obtain ⟨hhead, hname⟩ := Option.ite_none_right_eq_some.1 h
    obtain rfl := Option.some.inj hname
    obtain ⟨rest, htext, htail, hrest⟩ := exists_append_takeDotted text
    refine ⟨?_, rest, htext, hrest⟩
    cases text with
    | nil => cases hhead
    | cons d r =>
      have hstart : isNameStart d = true := hhead
      rw [takeDotted, if_pos (isNameChar_of_isNameStart hstart)] at htail ⊢
      exact ⟨hstart, htail.of_cons (ne_dot_of_isNameStart hstart)⟩
  · rintro ⟨hname, rest, rfl, hrest⟩
    cases name with
    | nil => cases hname
    | cons d r =>
      obtain ⟨hstart, htail⟩ := hname
      have hhead : headIs isNameStart (d :: r ++ rest) = true := hstart
      rw [if_pos hhead, takeDotted_append (.char (isNameChar_of_isNameStart hstart) htail) hrest]

theorem dottedName?_eq_self (h : IsDottedName name) : dottedName? name = some name :=
  dottedName?_eq_some_iff.2 ⟨h, [], (List.append_nil name).symm, rfl, fun cs h => by cases h⟩

/-! ## Separators -/

theorem takeDotted_append_cons (hc : Separates c) :
    takeDotted (front ++ c :: back) = takeDotted front := by
  have hstart : isNameStart c = false := isNameStart_eq_false hc.1
  induction front with
  | nil => simp [takeDotted, hc.1, hc.2]
  | cons d r ih =>
    have hhead : headIs isNameStart (r ++ c :: back) = headIs isNameStart r := by
      cases r with
      | nil => exact hstart
      | cons e r => rfl
    rw [List.cons_append, takeDotted, takeDotted, hhead, ih]

theorem dottedName?_append_cons (hc : Separates c) (front back : List Char) :
    dottedName? (front ++ c :: back) = dottedName? front := by
  unfold dottedName?
  rw [takeDotted_append_cons hc]
  cases front with
  | nil =>
    have hhead : headIs isNameStart (c :: back) = false := isNameStart_eq_false hc.1
    rw [List.nil_append, hhead]
    rfl
  | cons d r => rfl

theorem dottedNames_of_none (h : dottedName? (c :: cs) = none) :
    dottedNames (c :: cs) = dottedNames cs := by
  rw [dottedNames, dottedNamesFrom, h]
  rfl

theorem length_of_dottedName? (h : dottedName? (c :: cs) = some name) :
    name.length - 1 ≤ cs.length := by
  obtain ⟨-, rest, htext, -⟩ := dottedName?_eq_some_iff.1 h
  have hlength := congrArg List.length htext
  rw [List.length_cons, List.length_append] at hlength
  omega

theorem dottedNamesFrom_append_cons {skip : Nat} (hc : Separates c) (hskip : skip ≤ front.length) :
    dottedNamesFrom skip (front ++ c :: back) = dottedNamesFrom skip front ++ dottedNames back := by
  induction front generalizing skip with
  | nil =>
    obtain rfl : skip = 0 := Nat.le_zero.1 hskip
    have hnone : dottedName? (c :: back) = none := dottedName?_append_cons hc [] back
    exact dottedNames_of_none hnone
  | cons d r ih =>
    cases skip with
    | succ skip =>
      rw [List.cons_append, dottedNamesFrom, dottedNamesFrom]
      exact ih (Nat.le_of_succ_le_succ hskip)
    | zero =>
      have hname : dottedName? (d :: (r ++ c :: back)) = dottedName? (d :: r) :=
        dottedName?_append_cons hc (d :: r) back
      rw [List.cons_append, dottedNamesFrom, dottedNamesFrom, hname]
      cases hfound : dottedName? (d :: r) with
      | none => exact ih (Nat.zero_le _)
      | some name => exact congrArg (name :: ·) (ih (length_of_dottedName? hfound))

theorem dottedNames_append_cons (hc : Separates c) (front back : List Char) :
    dottedNames (front ++ c :: back) = dottedNames front ++ dottedNames back :=
  dottedNamesFrom_append_cons hc (Nat.zero_le _)

theorem dottedNames_concat (hc : Separates c) (front : List Char) :
    dottedNames (front ++ [c]) = dottedNames front := by
  rw [dottedNames_append_cons hc]
  exact List.append_nil _

theorem dottedNamesFrom_length (cs : List Char) : dottedNamesFrom cs.length cs = [] := by
  induction cs with
  | nil => rfl
  | cons d r ih => exact ih

theorem dottedNames_eq_self (h : IsDottedName name) : dottedNames name = [name] := by
  cases name with
  | nil => exact h.elim
  | cons d r =>
    rw [dottedNames, dottedNamesFrom, dottedName?_eq_self h]
    exact congrArg ((d :: r) :: ·) (dottedNamesFrom_length r)

/-- A name between separators is met. -/
theorem mem_dottedNames_of_apart (hname : IsDottedName name)
    (hfront : ∀ c ∈ front.getLast?, Separates c) (hback : ∀ c ∈ back.head?, Separates c) :
    name ∈ dottedNames (front ++ (name ++ back)) := by
  have hhead : name ∈ dottedNames (name ++ back) := by
    cases back with
    | nil => simp [dottedNames_eq_self hname]
    | cons d r =>
      rw [dottedNames_append_cons (hback d rfl), dottedNames_eq_self hname]
      exact List.mem_cons_self
  rcases List.eq_nil_or_concat front with rfl | ⟨init, d, rfl⟩
  · exact hhead
  · rw [List.concat_eq_append] at hfront ⊢
    rw [List.append_assoc, List.singleton_append,
      dottedNames_append_cons (hfront d (by simp))]
    exact List.mem_append_right _ hhead

/-! ## The search -/

/-- No name begins in the run of name characters that ends here. -/
def StandsFree (front : List Char) : Prop :=
  ∀ before run, front = before ++ run → (∀ c ∈ run, isNameChar c = true) →
    ∀ c ∈ run, isNameStart c = false

/-- A name character directly before such a place begins no name. -/
theorem StandsFree.getLast?_of_joins (h : StandsFree front)
    (hjoins : joinsAfter isNameChar false front = true) :
    ∃ c ∈ front.getLast?, isNameChar c = true ∧ isNameStart c = false := by
  rcases List.eq_nil_or_concat front with rfl | ⟨init, c, rfl⟩
  · cases hjoins
  · rw [List.concat_eq_append] at h hjoins ⊢
    have hc : isNameChar c = true := by simpa [joinsAfter] using hjoins
    refine ⟨c, by simp, hc, ?_⟩
    exact h init [c] rfl (by simpa using hc) c List.mem_cons_self

theorem standsFree_nil : StandsFree [] := by
  intro before run hrun _ c hc
  obtain ⟨-, rfl⟩ := List.append_eq_nil_iff.1 hrun.symm
  cases hc

theorem StandsFree.concat (h : StandsFree front ∨ isNameChar c = false)
    (hstart : isNameStart c = false) : StandsFree (front ++ [c]) := by
  intro before run hrun hchars d hd
  rcases List.eq_nil_or_concat run with rfl | ⟨init, last, rfl⟩
  · cases hd
  · rw [List.concat_eq_append] at hrun hchars hd
    rw [← List.append_assoc] at hrun
    obtain ⟨hfront, hlast⟩ := List.append_inj' hrun rfl
    obtain rfl := (List.cons.inj hlast).1
    have hc : isNameChar c = true := hchars c (by simp)
    have hfree : StandsFree front := h.resolve_right (by rw [hc]; decide)
    rcases List.mem_append.1 hd with hd | hd
    · exact hfree before init hfront (fun e he => hchars e (List.mem_append_left _ he)) d hd
    · rw [List.mem_singleton.1 hd]
      exact hstart

/-- The induction is on the text that is left; `before` is what the search has passed. Behind a name no
name character follows, and elsewhere it has passed no beginning of a name. -/
theorem exists_of_mem_dottedNamesFrom {skip : Nat} {before : List Char}
    (hplace : StandsFree (before ++ text.take skip) ∨ headIs isNameChar (text.drop skip) = false)
    (h : name ∈ dottedNamesFrom skip text) :
    ∃ front back, text = front ++ (name ++ back) ∧ IsDottedName name ∧ EndsName back ∧
      StandsFree (before ++ front) := by
  induction text generalizing skip before with
  | nil => cases skip <;> cases h
  | cons d r ih =>
    -- What stands in the rest stands in the text, one place further on.
    have hstep {skip' : Nat} (hr : name ∈ dottedNamesFrom skip' r)
        (hr' : StandsFree (before ++ [d] ++ r.take skip') ∨
          headIs isNameChar (r.drop skip') = false) :
        ∃ front back, d :: r = front ++ (name ++ back) ∧ IsDottedName name ∧ EndsName back ∧
          StandsFree (before ++ front) := by
      obtain ⟨front, back, rfl, hname, hback, hfront⟩ := ih hr' hr
      rw [List.append_assoc] at hfront
      exact ⟨d :: front, back, rfl, hname, hback, hfront⟩
    cases skip with
    | succ skip =>
      refine hstep h ?_
      rwa [List.append_assoc]
    | zero =>
      rw [List.take_zero, List.append_nil, List.drop_zero] at hplace
      rw [dottedNamesFrom] at h
      cases hfound : dottedName? (d :: r) with
      | none =>
        rw [hfound] at h
        have hstart : isNameStart d = false := by
          rw [dottedName?, ite_eq_right_iff] at hfound
          exact Bool.eq_false_iff.2 fun hd => Option.some_ne_none _ (hfound hd)
        refine hstep h (.inl ?_)
        rw [List.take_zero, List.append_nil]
        exact StandsFree.concat hplace hstart
      | some found =>
        rw [hfound, List.mem_cons] at h
        obtain ⟨hname, rest, htext, hrest⟩ := dottedName?_eq_some_iff.1 hfound
        cases found with
        | nil => exact hname.elim
        | cons e t =>
          rw [List.cons_append, List.cons.injEq] at htext
          obtain ⟨rfl, rfl⟩ := htext
          rcases h with rfl | h
          · have hchar : isNameChar d = true := isNameChar_of_isNameStart hname.1
            have hfree : StandsFree before := hplace.resolve_right (by rw [headIs, hchar]; decide)
            exact ⟨[], rest, rfl, hname, hrest, by rwa [List.append_nil]⟩
          · refine hstep h (.inr ?_)
            rw [List.length_cons, Nat.add_sub_cancel, List.drop_left]
            exact hrest.1

/-- The search begins no name inside a name, and ends none inside a word. -/
theorem exists_of_mem_dottedNames (h : name ∈ dottedNames text) :
    ∃ front back, text = front ++ (name ++ back) ∧ IsDottedName name ∧ EndsName back ∧
      StandsFree front := by
  have hplace : StandsFree ([] ++ text.take 0) ∨ headIs isNameChar (text.drop 0) = false :=
    .inl standsFree_nil
  exact exists_of_mem_dottedNamesFrom hplace h

end Conformance.Text
