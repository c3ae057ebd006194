import Conformance.Call.Sink
import Conformance.Proofs.Call.Argument
import Conformance.Proofs.Text.DottedPath

/-! # What calls a sink

Where the sinks are dotted paths, a place of the text has at most one way to be a call of a sink: the
callee goes on for as long as there are segments, whichever sink it starts with and whether or not a
receiver stands before it. So the parenthesis does not depend on the sinks, and a sink more hides no
call.

* `StartsSink`: the text starts with a sink, behind a receiver or not.
* `sinkCall?_eq_some_iff`: the calls of sinks, with what follows their parenthesis.
* `apart_sinkCall?`: no call of a sink begins in the head of another one.
* `logsWord_iff`: the argument lists that are searched are those of all calls of sinks.
* `logsWord_mono`, `isSinkCallee_mono`: more sinks, more calls.
-/

namespace Conformance.Call
open Text
set_option autoImplicit false

/-! ## Paths in source text -/

section

variable {cs rest : List Char}

/-- Induction on the path; behind a dot a new name begins, so the dot is dropped too. -/
theorem dropRun_append_of_tail (h : IsPathTail cs) : dropRun (cs ++ rest) = dropRun rest := by
  induction cs with
  | nil => rfl
  | cons c r ih =>
    by_cases hc : c = '.'
    · subst hc
      rw [isPathTail_cons_dot] at h
      rw [List.cons_append, dropRun, isNameChar_dot]
      simp only [Bool.false_eq_true, ↓reduceIte, beq_self_eq_true, headIs_append h, Bool.and_self]
      exact ih h.tail
    · rw [isPathTail_cons hc] at h
      rw [List.cons_append, dropRun, if_pos h.1]
      exact ih h.2

theorem dropRun_append (h : IsDottedPath cs) : dropRun (cs ++ rest) = dropRun rest :=
  dropRun_append_of_tail h.tail

/-- Where no name character follows, the segments that are dropped are the whole run. -/
theorem dropSegments_eq_dropRun (h : headIs isNameChar rest = false) :
    dropSegments rest = dropRun rest := by
  cases rest with
  | nil => rfl
  | cons c r =>
    have hc : isNameChar c = false := h
    by_cases hdot : c = '.'
    · subst hdot
      rw [dropSegments, dropRun, hc]
      simp
    · rw [dropRun, hc]
      simp [dropSegments, hdot]

theorem dropSegments_of_name (h : headIs isNameChar rest = true) : dropSegments rest = rest := by
  unfold dropSegments
  split
  · exact absurd h (by simp [headIs, isNameChar_dot])
  · rfl

theorem exists_append_dropRun (text : List Char) :
    ∃ path, text = path ++ dropRun text ∧ ∀ c ∈ path, joinsSink c = true := by
  induction text with
  | nil => exact ⟨[], rfl, by simp⟩
  | cons c r ih =>
    obtain ⟨path, hr, hpath⟩ := ih
    have hkeep (hc : joinsSink c = true) :
        c :: r = (c :: path) ++ dropRun r ∧ ∀ d ∈ c :: path, joinsSink d = true :=
      ⟨by rw [List.cons_append, ← hr], List.forall_mem_cons.2 ⟨hc, hpath⟩⟩
    rw [dropRun]
    split
    · next hc => exact ⟨_, hkeep (by simp [joinsSink, hc])⟩
    · split
      · next hdot =>
        rw [Bool.and_eq_true] at hdot
        exact ⟨_, hkeep (by simp [joinsSink, hdot.1])⟩
      · exact ⟨[], rfl, by simp⟩

end

/-! ## Behind the callee -/

/-- What follows the opening parenthesis of a call, given what follows its callee. -/
def afterCallee? : List Char → Option (List Char)
  | '!' :: r => afterOpening? r
  | r => afterOpening? r

section

variable {text rest : List Char}

/-- A mark may follow the callee, then blanks. -/
theorem afterCallee?_eq_some_iff :
    afterCallee? text = some rest ↔
      ∃ mark ∈ [[], ['!']], ∃ blanks, (∀ c ∈ blanks, isSpace c = true) ∧
        text = mark ++ (blanks ++ '(' :: rest) := by
  simp only [List.mem_cons, List.not_mem_nil, or_false, exists_eq_or_imp, exists_eq_left,
    List.nil_append]
  unfold afterCallee?
  split
  · next r =>
    rw [afterOpening?_eq_some_iff]
    constructor
    · rintro ⟨blanks, hblanks, rfl⟩
      exact .inr ⟨blanks, hblanks, rfl⟩
    · rintro (⟨blanks, hblanks, htext⟩ | ⟨blanks, hblanks, htext⟩)
      · -- Neither a blank nor the parenthesis is the mark.
        cases blanks with
        | nil => exact absurd (List.cons.inj htext).1 (by decide)
        | cons c blanks =>
          obtain ⟨rfl, -⟩ := List.cons.inj htext
          exact absurd (hblanks _ List.mem_cons_self) (by decide)
      · exact ⟨blanks, hblanks, (List.cons.inj htext).2⟩
  · next hmark =>
    rw [afterOpening?_eq_some_iff, or_iff_left]
    rintro ⟨blanks, -, htext⟩
    exact hmark _ htext

/-- Between a callee and its arguments stands no name character. -/
theorem exists_of_afterCallee? (h : afterCallee? text = some rest) :
    ∃ between, text = between ++ '(' :: rest ∧ ∀ c ∈ between, isNameChar c = false := by
  obtain ⟨mark, hmark, blanks, hblanks, rfl⟩ := afterCallee?_eq_some_iff.1 h
  refine ⟨mark ++ blanks, (List.append_assoc ..).symm, fun c hc => ?_⟩
  rcases List.mem_append.1 hc with hc | hc
  · have hc : c = '!' := by
      simp only [List.mem_cons, List.not_mem_nil, or_false] at hmark
      rcases hmark with rfl | rfl
      · cases hc
      · exact List.mem_singleton.1 hc
    rw [hc]
    decide
  · exact isNameChar_eq_false_of_isSpace (hblanks c hc)

theorem headIs_between {between : List Char} (h : ∀ c ∈ between, isNameChar c = false) :
    headIs isNameChar (between ++ '(' :: rest) = false := by
  cases between with
  | nil =>
    have hopening : isNameChar '(' = false := by decide
    exact hopening
  | cons c r => exact h c List.mem_cons_self

theorem afterCallee?_eq_none (h : headIs isNameChar text = true) : afterCallee? text = none := by
  cases hcallee : afterCallee? text with
  | none => rfl
  | some rest =>
    obtain ⟨between, rfl, hbetween⟩ := exists_of_afterCallee? hcallee
    rw [headIs_between hbetween] at h
    cases h

end

/-! ## Calls of sinks -/

/-- The text starts with a sink, which a receiver may stand before and which is not cut off from a
longer name. -/
def StartsSink (sinks : List (List Char)) (text : List Char) : Prop :=
  ∃ receiver ∈ [] :: receivers, ∃ sink ∈ sinks, ∃ back,
    text = receiver ++ (sink ++ back) ∧ headIs isNameChar back = false

section

variable {sinks sinks' : List (List Char)} {text rest receiver sink back : List Char}

theorem StartsSink.mono (h : StartsSink sinks text) (hsinks : sinks ⊆ sinks') :
    StartsSink sinks' text := by
  obtain ⟨receiver, hreceiver, sink, hsink, back, htext, hback⟩ := h
  exact ⟨receiver, hreceiver, sink, hsinks hsink, back, htext, hback⟩

/-- A receiver with a path behind it is a path itself. -/
theorem isDottedPath_receiver (hreceiver : receiver ∈ [] :: receivers) (hsink : IsDottedPath sink) :
    IsDottedPath (receiver ++ sink) := by
  simp only [receivers, List.mem_cons, List.not_mem_nil, or_false] at hreceiver
  rcases hreceiver with rfl | rfl | rfl | rfl
  · exact hsink
  · exact hsink.behind_dot ['s', 'e', 'l', 'f'] (by simp) (List.all_eq_true.1 rfl)
  · exact hsink.behind_dot ['t', 'h', 'i', 's'] (by simp) (List.all_eq_true.1 rfl)
  · exact hsink.behind_dot ['c', 'l', 's'] (by simp) (List.all_eq_true.1 rfl)

theorem dropRun_receiver (hreceiver : receiver ∈ [] :: receivers) (hsink : IsDottedPath sink) :
    dropRun (receiver ++ (sink ++ back)) = dropRun back := by
  rw [← List.append_assoc, dropRun_append (isDottedPath_receiver hreceiver hsink)]

/-- The receivers begin with different letters, so at most one stands at the head of a text. -/
theorem afterReceiver?_eq_some_iff :
    afterReceiver? text = some rest ↔ ∃ receiver ∈ receivers, text = receiver ++ rest := by
  unfold afterReceiver?
  constructor
  · intro h
    obtain ⟨receiver, hreceiver, hafter⟩ := List.exists_of_findSome?_eq_some h
    exact ⟨receiver, hreceiver, after?_eq_some_iff.1 hafter⟩
  · rintro ⟨receiver, hreceiver, rfl⟩
    simp only [receivers, List.mem_cons, List.not_mem_nil, or_false] at hreceiver
    rcases hreceiver with rfl | rfl | rfl <;> rfl

/-- What one sink finds does not depend on the sink, but for whether the text starts with it. -/
theorem afterSink?_eq_some_iff (hsink : IsDottedPath sink) :
    ((after? sink text).bind fun rest =>
      match dropSegments rest with
      | '!' :: r => afterOpening? r
      | r => afterOpening? r) = some rest ↔
    (∃ back, text = sink ++ back ∧ headIs isNameChar back = false) ∧
      afterCallee? (dropRun text) = some rest := by
  constructor
  · intro h
    obtain ⟨back, hafter, hcallee⟩ := Option.bind_eq_some_iff.1 h
    rw [after?_eq_some_iff] at hafter
    subst hafter
    have hcallee : afterCallee? (dropSegments back) = some rest := hcallee
    have hback : headIs isNameChar back = false := by
      by_contra hname
      rw [Bool.not_eq_false] at hname
      rw [dropSegments_of_name hname, afterCallee?_eq_none hname] at hcallee
      cases hcallee
    rw [dropSegments_eq_dropRun hback] at hcallee
    exact ⟨⟨back, rfl, hback⟩, by rw [dropRun_append hsink, hcallee]⟩
  · rintro ⟨⟨back, rfl, hback⟩, hcallee⟩
    rw [dropRun_append hsink, ← dropSegments_eq_dropRun hback] at hcallee
    rw [after?_eq_some_iff.2 rfl]
    exact hcallee

theorem afterSinkHead?_eq_some_iff (hsinks : ∀ sink ∈ sinks, IsDottedPath sink) :
    afterSinkHead? sinks text = some rest ↔
      (∃ sink ∈ sinks, ∃ back, text = sink ++ back ∧ headIs isNameChar back = false) ∧
        afterCallee? (dropRun text) = some rest := by
  unfold afterSinkHead?
  rw [findSome?_eq_some_iff_of_unique]
  · constructor
    · rintro ⟨sink, hsink, hfound⟩
      obtain ⟨hback, hcallee⟩ := (afterSink?_eq_some_iff (hsinks sink hsink)).1 hfound
      exact ⟨⟨sink, hsink, hback⟩, hcallee⟩
    · rintro ⟨⟨sink, hsink, hback⟩, hcallee⟩
      exact ⟨sink, hsink, (afterSink?_eq_some_iff (hsinks sink hsink)).2 ⟨hback, hcallee⟩⟩
  · intro sink hsink sink' hsink' r r' hr hr'
    have hcallee := ((afterSink?_eq_some_iff (hsinks sink hsink)).1 hr).2
    have hcallee' := ((afterSink?_eq_some_iff (hsinks sink' hsink')).1 hr').2
    exact Option.some.inj (hcallee.symm.trans hcallee')

theorem afterReceiver?_bind_eq_some_iff (hsinks : ∀ sink ∈ sinks, IsDottedPath sink) :
    (afterReceiver? text).bind (afterSinkHead? sinks) = some rest ↔
      (∃ receiver ∈ receivers, ∃ sink ∈ sinks, ∃ back,
        text = receiver ++ (sink ++ back) ∧ headIs isNameChar back = false) ∧
        afterCallee? (dropRun text) = some rest := by
  constructor
  · intro h
    obtain ⟨r, hreceived, hhead⟩ := Option.bind_eq_some_iff.1 h
    obtain ⟨receiver, hreceiver, rfl⟩ := afterReceiver?_eq_some_iff.1 hreceived
    obtain ⟨⟨sink, hsink, back, rfl, hback⟩, hcallee⟩ := (afterSinkHead?_eq_some_iff hsinks).1 hhead
    refine ⟨⟨receiver, hreceiver, sink, hsink, back, rfl, hback⟩, ?_⟩
    rw [dropRun_receiver (List.mem_cons_of_mem _ hreceiver) (hsinks sink hsink),
      ← dropRun_append (hsinks sink hsink), hcallee]
  · rintro ⟨⟨receiver, hreceiver, sink, hsink, back, rfl, hback⟩, hcallee⟩
    rw [dropRun_receiver (List.mem_cons_of_mem _ hreceiver) (hsinks sink hsink),
      ← dropRun_append (hsinks sink hsink)] at hcallee
    rw [afterReceiver?_eq_some_iff.2 ⟨receiver, hreceiver, rfl⟩]
    exact (afterSinkHead?_eq_some_iff hsinks).2 ⟨⟨sink, hsink, back, rfl, hback⟩, hcallee⟩

/-- Where a call of a sink stands is a matter of the sinks; what follows its parenthesis is not. -/
theorem sinkCall?_eq_some_iff (hsinks : ∀ sink ∈ sinks, IsDottedPath sink) :
    sinkCall? sinks text = some rest ↔
      StartsSink sinks text ∧ afterCallee? (dropRun text) = some rest := by
  unfold sinkCall? StartsSink
  simp only [Option.or_eq_some_iff, List.mem_cons, exists_eq_or_imp, List.nil_append]
  constructor
  · rintro (h | ⟨-, h⟩)
    · obtain ⟨hstarts, hcallee⟩ := (afterReceiver?_bind_eq_some_iff hsinks).1 h
      exact ⟨.inr hstarts, hcallee⟩
    · obtain ⟨hstarts, hcallee⟩ := (afterSinkHead?_eq_some_iff hsinks).1 h
      exact ⟨.inl hstarts, hcallee⟩
  · rintro ⟨hbare | hreceived, hcallee⟩
    · have hhead := (afterSinkHead?_eq_some_iff hsinks).2 ⟨hbare, hcallee⟩
      -- With a receiver in front the same parenthesis is found, if any is.
      cases hreceived : (afterReceiver? text).bind (afterSinkHead? sinks) with
      | none => exact .inr ⟨rfl, hhead⟩
      | some rest' =>
        have hcallee' := ((afterReceiver?_bind_eq_some_iff hsinks).1 hreceived).2
        exact .inl (hcallee'.symm.trans hcallee)
    · exact .inl ((afterReceiver?_bind_eq_some_iff hsinks).2 ⟨hreceived, hcallee⟩)

/-! ## The calls of a text -/

theorem StartsSink.headIs_isNameChar (hsinks : ∀ sink ∈ sinks, IsDottedPath sink)
    (h : StartsSink sinks text) : headIs isNameChar text = true := by
  obtain ⟨receiver, hreceiver, sink, hsink, back, rfl, -⟩ := h
  rw [← List.append_assoc]
  exact headIs_append (isDottedPath_receiver hreceiver (hsinks sink hsink))

/-- Inside the callee every place has a name character or a dot before it, and between the callee and
the parenthesis no name begins. -/
theorem apart_sinkCall? (hsinks : ∀ sink ∈ sinks, IsDottedPath sink) :
    Apart joinsSink (sinkCall? sinks) where
  nil := by
    rw [Option.eq_none_iff_forall_ne_some]
    intro rest h
    have hname := ((sinkCall?_eq_some_iff hsinks).1 h).1.headIs_isNameChar hsinks
    exact absurd hname (by simp [headIs])
  inside := by
    intro c front back rest rest' hhead hfront hrest'
    refine .inl ?_
    have hname := ((sinkCall?_eq_some_iff hsinks).1 hrest').1.headIs_isNameChar hsinks
    have hcallee := ((sinkCall?_eq_some_iff hsinks).1 hhead).2
    obtain ⟨path, hpath, hjoins⟩ := exists_append_dropRun (c :: (front ++ back))
    obtain ⟨between, hbetween, hnames⟩ := exists_of_afterCallee? hcallee
    rw [← List.cons_append] at hpath
    rcases List.append_eq_append_iff.1 hpath with ⟨inner, rfl, -⟩ | ⟨outer, -, houter⟩
    · -- The other call would begin inside the path, where a name character or a dot precedes it.
      have hjoined := joinsAfter_of_mem fun d hd => hjoins d (List.mem_append_left _ hd)
      rw [hfront] at hjoined
      cases hjoined
    · rw [List.cons_append, hbetween] at houter
      rcases List.append_eq_append_iff.1 houter with ⟨passed, -, hback'⟩ | ⟨outer', rfl, rfl⟩
      · -- It begins at the parenthesis or behind it.
        cases passed with
        | nil =>
          rw [List.nil_append] at hback'
          have hopening : headIs isNameChar ([] ++ '(' :: rest) = false :=
            headIs_between (List.forall_mem_nil _)
          rw [List.nil_append, hback', hname] at hopening
          cases hopening
        | cons d passed =>
          rw [List.cons_append] at hback'
          rw [(List.cons.inj hback').2, List.length_append]
          exact Nat.le_add_left _ _
      · -- It would begin between the path and the parenthesis.
        rw [headIs_between fun d hd => hnames d (List.mem_append_right _ hd)] at hname
        cases hname

end

/-! ## Callees and texts -/

section

variable {sinks sinks' : List String}

theorem isSinkCallee_mono (h : sinks ⊆ sinks') {callee : String}
    (hcallee : isSinkCallee callee sinks = true) : isSinkCallee callee sinks' = true := by
  unfold isSinkCallee at hcallee ⊢
  obtain ⟨sink, hsink, hextends⟩ := List.any_eq_true.1 hcallee
  exact List.any_eq_true.2 ⟨sink, h hsink, hextends⟩

theorem startsSink_longestFirst {text : List Char} :
    StartsSink (longestFirst sinks) text ↔ StartsSink (sinks.map String.toList) text :=
  ⟨fun h => h.mono fun _ hsink => mem_longestFirst.1 hsink,
    fun h => h.mono fun _ hsink => mem_longestFirst.2 hsink⟩

/-- A text logs a word if it has a call of a sink, wherever it stands and whatever stands around it,
with the word in its argument list. -/
theorem logsWord_iff (hsinks : ∀ sink ∈ sinks, IsDottedPath sink.toList) {text word : String} :
    logsWord text word sinks = true ↔
      word ≠ "" ∧ ∃ front back rest, text.toList = front ++ back ∧
        joinsAfter joinsSink false front = false ∧ StartsSink (sinks.map String.toList) back ∧
        afterCallee? (dropRun back) = some rest ∧
        hasWord word.toList false (argumentText rest) = true := by
  have hpaths : ∀ sink ∈ longestFirst sinks, IsDottedPath sink := forall_longestFirst hsinks
  unfold logsWord
  simp only [Bool.and_eq_true, List.any_eq_true, mem_argumentLists_iff (apart_sinkCall? hpaths),
    sinkCall?_eq_some_iff hpaths, startsSink_longestFirst]
  constructor
  · rintro ⟨⟨-, hword⟩, _, ⟨front, back, rest, htext, hfront, ⟨hstarts, hcallee⟩, rfl⟩, hlogs⟩
    exact ⟨by simpa using hword, front, back, rest, htext, hfront, hstarts, hcallee, hlogs⟩
  · rintro ⟨hword, front, back, rest, htext, hfront, hstarts, hcallee, hlogs⟩
    have hne : sinks ≠ [] := by
      obtain ⟨-, -, sink, hsink, -⟩ := hstarts
      rintro rfl
      cases hsink
    exact ⟨⟨by simpa using hne, by simpa using hword⟩, _,
      ⟨front, back, rest, htext, hfront, ⟨hstarts, hcallee⟩, rfl⟩, hlogs⟩

/-- A sink more may come first in the search at some place, but it finds the same parenthesis. -/
theorem logsWord_mono (hsinks : ∀ sink ∈ sinks', IsDottedPath sink.toList) (h : sinks ⊆ sinks')
    {text word : String} (hlogs : logsWord text word sinks = true) :
    logsWord text word sinks' = true := by
  rw [logsWord_iff fun sink hsink => hsinks sink (h hsink)] at hlogs
  obtain ⟨hword, front, back, rest, htext, hfront, hstarts, hcallee, hlogs⟩ := hlogs
  exact (logsWord_iff hsinks).2 ⟨hword, front, back, rest, htext, hfront,
    hstarts.mono (List.map_subset _ h), hcallee, hlogs⟩

end

end Conformance.Call
