import Conformance.Proofs.Call.Place
import Conformance.Proofs.Call.Sink

/-! # Calls that log a word

A text logs a word just if some call of a sink has the word in its argument list. Which calls there
are is said by their places: calls may nest, follow each other, go over lines or be left open.

* `IsSegments`: what may follow a sink in a callee.
* `IsSinkHead`: a text from the first character of a sink call to its parenthesis.
* `accepts_sinkCall?`: the search at one place accepts these heads.
* `logsWord_iff_callAt`: the search finds every logging call and nothing else.
-/

namespace Conformance.Call
open Text
set_option autoImplicit false

/-! ## Heads of sink calls -/

/-- Zero or more segments, a dot and a name each. -/
inductive IsSegments : List Char → Prop
  | nil : IsSegments []
  | cons {name rest : List Char} (hne : name ≠ []) (hname : ∀ c ∈ name, isNameChar c = true)
      (hrest : IsSegments rest) : IsSegments ('.' :: (name ++ rest))

/-- The callee starts with a sink, behind a receiver or not, and goes on by segments; a mark and
blanks may stand before the parenthesis. -/
def IsSinkHead (sinks : List (List Char)) (head : List Char) : Prop :=
  ∃ receiver ∈ [] :: receivers, ∃ sink ∈ sinks, ∃ segments, IsSegments segments ∧
    ∃ mark ∈ [[], ['!']], ∃ blanks, (∀ c ∈ blanks, isSpace c = true) ∧
      head = receiver ++ (sink ++ (segments ++ (mark ++ blanks)))

section

variable {sinks : List (List Char)} {text rest segments mark blanks : List Char}

/-- Between the segments and the parenthesis no name goes on. -/
theorem joinsSink_between (hmark : mark ∈ [[], ['!']]) (hblanks : ∀ c ∈ blanks, isSpace c = true) :
    headIs joinsSink (mark ++ (blanks ++ '(' :: rest)) = false := by
  simp only [List.mem_cons, List.not_mem_nil, or_false] at hmark
  rcases hmark with rfl | rfl
  · cases blanks with
    | nil => exact (by decide : joinsSink '(' = false)
    | cons c blanks =>
      have hc : isSpace c = true := hblanks c List.mem_cons_self
      have hdot : c ≠ '.' := by
        rintro rfl
        exact absurd hc (by decide)
      show joinsSink c = false
      simp [joinsSink, isNameChar_eq_false_of_isSpace hc, hdot]
  · exact (by decide : joinsSink '!' = false)

theorem dropRun_eq_self (h : headIs joinsSink text = false) : dropRun text = text := by
  cases text with
  | nil => rfl
  | cons c r =>
    have hc : isNameChar c = false ∧ (c == '.') = false := by
      simpa [headIs, joinsSink] using h
    rw [dropRun, hc.1, hc.2]
    simp

theorem dropRun_name {name : List Char} (hname : ∀ c ∈ name, isNameChar c = true) :
    dropRun (name ++ rest) = dropRun rest := by
  induction name with
  | nil => rfl
  | cons c r ih =>
    rw [List.forall_mem_cons] at hname
    rw [List.cons_append, dropRun, if_pos hname.1]
    exact ih hname.2

theorem dropRun_segments (h : IsSegments segments) : dropRun (segments ++ rest) = dropRun rest := by
  induction h with
  | nil => rfl
  | @cons name more hne hname hmore ih =>
    have hhead : headIs isNameChar (name ++ (more ++ rest)) = true := by
      obtain ⟨c, r, rfl⟩ := List.exists_cons_of_ne_nil hne
      exact hname c List.mem_cons_self
    rw [List.cons_append, List.append_assoc, dropRun, isNameChar_dot]
    simp only [Bool.false_eq_true, ↓reduceIte, beq_self_eq_true, hhead, Bool.and_self]
    rw [dropRun_name hname, ih]

/-- What `dropRun` drops is the rest of a name and segments. -/
theorem exists_segments (text : List Char) :
    ∃ segments, IsSegments segments ∧
      text = text.takeWhile isNameChar ++ (segments ++ dropRun text) := by
  induction text with
  | nil => exact ⟨[], .nil, rfl⟩
  | cons c r ih =>
    obtain ⟨segments, hsegments, hr⟩ := ih
    by_cases hc : isNameChar c = true
    · refine ⟨segments, hsegments, ?_⟩
      rw [List.takeWhile_cons_of_pos hc, dropRun, if_pos hc, List.cons_append, ← hr]
    · rw [List.takeWhile_cons_of_neg hc, dropRun, if_neg hc]
      split
      · next hdot =>
        rw [Bool.and_eq_true, beq_iff_eq] at hdot
        obtain ⟨rfl, hhead⟩ := hdot
        have hne : r.takeWhile isNameChar ≠ [] := by
          cases r with
          | nil => cases hhead
          | cons d r => simp [List.takeWhile_cons_of_pos (show isNameChar d = true from hhead)]
        refine ⟨_, .cons hne (fun d hd => List.mem_takeWhile_imp hd) hsegments, ?_⟩
        rw [List.nil_append, List.cons_append, List.append_assoc, ← hr]
      · exact ⟨[], .nil, rfl⟩

theorem IsSegments.headIs_eq_false (h : IsSegments segments)
    (hrest : headIs isNameChar rest = false) : headIs isNameChar (segments ++ rest) = false := by
  cases h with
  | nil => exact hrest
  | cons => exact isNameChar_dot

theorem headIs_isNameChar_of_joinsSink (h : headIs joinsSink text = false) :
    headIs isNameChar text = false := by
  cases text with
  | nil => rfl
  | cons c r =>
    have hc : isNameChar c = false ∧ c ≠ '.' := by simpa [headIs, joinsSink] using h
    exact hc.1

theorem accepts_sinkCall? (hsinks : ∀ sink ∈ sinks, IsDottedPath sink) :
    Accepts (sinkCall? sinks) (IsSinkHead sinks) where
  eq_some_iff := by
    intro text rest
    rw [sinkCall?_eq_some_iff hsinks, afterCallee?_eq_some_iff]
    constructor
    · rintro ⟨⟨receiver, hreceiver, sink, hsink, back, rfl, hback⟩, mark, hmark, blanks, hblanks,
        hrun⟩
      rw [dropRun_receiver hreceiver (hsinks sink hsink)] at hrun
      obtain ⟨segments, hsegments, htext⟩ := exists_segments back
      have hname : back.takeWhile isNameChar = [] := by
        cases back with
        | nil => rfl
        | cons c r =>
          have hc : ¬ isNameChar c = true := Bool.not_eq_true _ ▸ hback
          exact List.takeWhile_cons_of_neg hc
      rw [hname, hrun, List.nil_append] at htext
      refine ⟨_, ?_, receiver, hreceiver, sink, hsink, segments, hsegments, mark, hmark, blanks,
        hblanks, rfl⟩
      rw [htext]
      simp only [List.append_assoc]
    · rintro ⟨_, rfl, receiver, hreceiver, sink, hsink, segments, hsegments, mark, hmark, blanks,
        hblanks, rfl⟩
      have hbetween : headIs joinsSink (mark ++ (blanks ++ '(' :: rest)) = false :=
        joinsSink_between hmark hblanks
      have htext : receiver ++ (sink ++ (segments ++ (mark ++ blanks))) ++ '(' :: rest =
          receiver ++ (sink ++ (segments ++ (mark ++ (blanks ++ '(' :: rest)))) := by
        simp only [List.append_assoc]
      rw [htext]
      refine ⟨⟨receiver, hreceiver, sink, hsink, _, rfl, ?_⟩, mark, hmark, blanks, hblanks, ?_⟩
      · exact hsegments.headIs_eq_false (headIs_isNameChar_of_joinsSink hbetween)
      · rw [dropRun_receiver hreceiver (hsinks sink hsink), dropRun_segments hsegments,
          dropRun_eq_self hbetween]
  ne_nil := by
    rintro _ ⟨receiver, -, sink, hsink, segments, -, mark, -, blanks, -, rfl⟩ hnil
    obtain ⟨c, r, rfl, -⟩ := (hsinks sink hsink).exists_cons
    simp at hnil

end

/-! ## Logging calls of a text -/

section

variable {sinks : List String}

theorem isSinkHead_longestFirst :
    IsSinkHead (longestFirst sinks) = IsSinkHead (sinks.map String.toList) := by
  funext head
  unfold IsSinkHead
  simp only [mem_longestFirst]

theorem hasWord_iff_occurs {word : String} {cs : List Char} :
    (word.isEmpty = false ∧ hasWord word.toList false cs = true) ↔ Occurs word (.ofList cs) := by
  rw [← containsWord_iff_occurs]
  unfold containsWord
  rw [String.toList_ofList, Bool.and_eq_true, Bool.not_eq_true']

/-- **Every logging call, and nothing else.** Where the sinks are dotted paths, a text logs a word just
if a call of a sink stands somewhere in it, with no name and no dot running into it, and the word
occurs in the text from its parenthesis to where that is closed. -/
theorem logsWord_iff_callAt (hsinks : ∀ sink ∈ sinks, IsDottedPath sink.toList)
    (text word : String) :
    logsWord text word sinks = true ↔
      ∃ i j, CallAt joinsSink (IsSinkHead (sinks.map String.toList)) text.toList i j ∧
        Occurs word (.ofList (text.toList.extract (j + 1) (argumentEnd text.toList j))) := by
  have hpaths : ∀ sink ∈ longestFirst sinks, IsDottedPath sink := forall_longestFirst hsinks
  have hcalls := mem_argumentLists_iff_callAt (apart_sinkCall? hpaths) (accepts_sinkCall? hpaths)
    text.toList
  rw [isSinkHead_longestFirst] at hcalls
  unfold logsWord
  simp only [Bool.and_eq_true, Bool.not_eq_true', List.any_eq_true, hcalls]
  constructor
  · rintro ⟨⟨-, hword⟩, _, ⟨i, j, hcall, rfl⟩, hlogs⟩
    exact ⟨i, j, hcall, hasWord_iff_occurs.1 ⟨hword, hlogs⟩⟩
  · rintro ⟨i, j, hcall, hoccurs⟩
    have hne : sinks ≠ [] := by
      obtain ⟨-, -, sink, hsink, -⟩ := hcall.isHead
      rintro rfl
      cases hsink
    obtain ⟨hword, hlogs⟩ := hasWord_iff_occurs.2 hoccurs
    exact ⟨⟨by simpa using hne, hword⟩, _, ⟨i, j, hcall, rfl⟩, hlogs⟩

/-- The call stands in the arguments of another one, over two lines, and is left open. -/
theorem logsWord_nested_unclosed :
    let sinks := ["log", "console"]
    let text := "console.error(f(x),\n  this.log.info! (user.key"
    (∀ sink ∈ sinks, IsDottedPath sink.toList) ∧
      ∃ i j, CallAt joinsSink (IsSinkHead (sinks.map String.toList)) text.toList i j ∧
        Occurs "key" (.ofList (text.toList.extract (j + 1) (argumentEnd text.toList j))) := by
  intro sinks text
  have hsinks : ∀ sink ∈ sinks, IsDottedPath sink.toList := by decide
  have hsorted : longestFirst sinks = ["console".toList, "log".toList] := by
    simp [longestFirst, sinks, List.mergeSort]
  have hlogs : logsWord text "key" sinks = true := by
    unfold logsWord
    rw [hsorted]
    decide +kernel
  exact ⟨hsinks, (logsWord_iff_callAt hsinks text "key").1 hlogs⟩

end

end Conformance.Call
