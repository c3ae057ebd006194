import Conformance.Proofs.Call.Sink

/-! # Callees of sinks

Whether a callee belongs to a sink is decided twice: for the callee alone, and for a call that stands
in a text. A text is searched for the callee with and without a receiver in front. The callee alone is
looked at behind its receiver only, so that a sink which is itself named with a receiver is overlooked.

* `NamesSink`: the callee is a sink or goes on from one by further segments.
* `isSinkCallee_iff`: what is accepted of the callee alone.
* `logsWord_call_iff`: what is accepted of a call of it.
* `isSinkCallee_eq_logsWord_iff`: when the two decisions agree.
-/

namespace Conformance.Call
open Text
set_option autoImplicit false

/-- The callee is a sink or extends one by further segments. -/
def NamesSink (sinks : List String) (callee : List Char) : Prop :=
  ∃ sink ∈ sinks, ∃ back, callee = sink.toList ++ back ∧ (back = [] ∨ back.head? = some '.')

variable {sinks : List String} {callee word : String} {cs rest : List Char}

/-! ## The callee alone -/

theorem extendsSink_iff {callee sink : List Char} :
    extendsSink callee sink = true ↔
      ∃ back, callee = sink ++ back ∧ (back = [] ∨ back.head? = some '.') := by
  unfold extendsSink
  constructor
  · intro h
    split at h
    · next hafter => exact ⟨[], after?_eq_some_iff.1 hafter, .inl rfl⟩
    · next c r hafter =>
      have hc : c = '.' := by simpa using h
      exact ⟨c :: r, after?_eq_some_iff.1 hafter, .inr (by rw [hc]; rfl)⟩
    · cases h
  · rintro ⟨back, rfl, hback⟩
    rw [after?_eq_some_iff.2 rfl]
    cases back with
    | nil => rfl
    | cons c r => simpa using hback

theorem isSinkCallee_iff :
    isSinkCallee callee sinks = true ↔
      NamesSink sinks ((afterReceiver? callee.toList).getD callee.toList) := by
  unfold isSinkCallee NamesSink
  simp only [List.any_eq_true, extendsSink_iff]

/-- A receiver is split off in one way only. -/
theorem exists_behind_receiver_iff {p : List Char → Prop} :
    (∃ receiver ∈ receivers, ∃ rest, cs = receiver ++ rest ∧ p rest) ↔
      ∃ rest, afterReceiver? cs = some rest ∧ p rest := by
  constructor
  · rintro ⟨receiver, hreceiver, rest, hsplit, hp⟩
    exact ⟨rest, afterReceiver?_eq_some_iff.2 ⟨receiver, hreceiver, hsplit⟩, hp⟩
  · rintro ⟨rest, hreceived, hp⟩
    obtain ⟨receiver, hreceiver, hsplit⟩ := afterReceiver?_eq_some_iff.1 hreceived
    exact ⟨receiver, hreceiver, rest, hsplit, hp⟩

theorem forall_behind_receiver_iff {p : List Char → Prop} :
    (∀ receiver ∈ receivers, ∀ rest, cs = receiver ++ rest → p rest) ↔
      ∀ rest, afterReceiver? cs = some rest → p rest := by
  constructor
  · intro h rest hreceived
    obtain ⟨receiver, hreceiver, hsplit⟩ := afterReceiver?_eq_some_iff.1 hreceived
    exact h receiver hreceiver rest hsplit
  · intro h receiver hreceiver rest hsplit
    exact h rest (afterReceiver?_eq_some_iff.2 ⟨receiver, hreceiver, hsplit⟩)

/-! ## A call of the callee -/

theorem joinsSink_of_mem (h : IsDottedPath cs) : ∀ c ∈ cs, joinsSink c = true := by
  intro c hc
  simpa [joinsSink] using h.tail.isNameChar_or_dot c hc

/-- Without a parenthesis there is no call. -/
theorem opening_mem_of_afterCallee? (h : afterCallee? (dropRun cs) = some rest) : '(' ∈ cs := by
  obtain ⟨path, hpath, -⟩ := exists_append_dropRun cs
  obtain ⟨between, hbetween, -⟩ := exists_of_afterCallee? h
  rw [hpath, hbetween]
  simp

theorem ne_of_isNameChar {c d : Char} (hc : isNameChar c = true) (hd : isNameChar d = false) :
    c ≠ d := by
  rintro rfl
  rw [hc] at hd
  cases hd

theorem opening_not_mem_argument {name : List Char} (hname : ∀ c ∈ name, isNameChar c = true) :
    '(' ∉ name ++ [')'] := by
  intro hmem
  rcases List.mem_append.1 hmem with hmem | hmem
  · exact ne_of_isNameChar (hname _ hmem) (by decide) rfl
  · exact absurd (List.mem_singleton.1 hmem) (by decide)

theorem isQuote_of_isNameChar {c : Char} (hc : isNameChar c = true) : isQuote c = false := by
  have hdouble : c ≠ '"' := ne_of_isNameChar hc (by decide)
  have hsingle : c ≠ '\'' := ne_of_isNameChar hc (by decide)
  have hback : c ≠ '\x60' := ne_of_isNameChar hc (by decide)
  simp [isQuote, hdouble, hsingle, hback]

/-- A name is a whole argument list. -/
theorem argumentText_name {name : List Char} (hname : ∀ c ∈ name, isNameChar c = true) :
    argumentText (name ++ [')']) = name := by
  unfold argumentText
  induction name with
  | nil => rfl
  | cons c r ih =>
    rw [List.forall_mem_cons] at hname
    have hopening : c ≠ '(' := ne_of_isNameChar hname.1 (by decide)
    have hclosing : c ≠ ')' := ne_of_isNameChar hname.1 (by decide)
    rw [List.cons_append, argumentTextFrom, isQuote_of_isNameChar hname.1, if_neg Bool.false_ne_true,
      if_neg hopening, if_neg hclosing, ih hname.2]

theorem hasWord_self {name : List Char} (hname : name ≠ []) : hasWord name false name = true := by
  rw [hasWord_iff hname]
  exact ⟨[], [], by simp, rfl, rfl⟩

theorem toList_call (callee word : String) :
    (callee ++ "(" ++ word ++ ")").toList = callee.toList ++ '(' :: (word.toList ++ [')']) := by
  simp

/-- A call of a sink can only begin where the callee does: inside the callee a name goes on, and
behind it there is no further parenthesis. -/
theorem eq_nil_of_sinkCall {front back tail : List Char} (hcallee : IsDottedPath cs)
    (htail : '(' ∉ tail) (htext : cs ++ '(' :: tail = front ++ back)
    (hfront : joinsAfter joinsSink false front = false)
    (hback : headIs isNameChar back = true) (hopening : '(' ∈ back) : front = [] := by
  rcases List.append_eq_append_iff.1 htext with ⟨inner, rfl, hinner⟩ | ⟨outer, rfl, -⟩
  · -- The call would begin at the parenthesis or behind it.
    cases inner with
    | nil =>
      rw [List.nil_append] at hinner
      rw [← hinner] at hback
      have hname : isNameChar '(' = true := hback
      exact absurd hname (by decide)
    | cons c r =>
      rw [List.cons_append] at hinner
      rw [(List.cons.inj hinner).2] at htail
      exact absurd (List.mem_append_right r hopening) htail
  · cases front with
    | nil => rfl
    | cons c r =>
      have hjoins : ∀ d ∈ c :: r, joinsSink d = true := fun d hd =>
        joinsSink_of_mem hcallee d (List.mem_append_left _ hd)
      rw [joinsAfter_cons, joinsAfter_of_mem hjoins] at hfront
      cases hfront

/-- What stands in front of the parenthesis is the callee. -/
theorem startsSink_call_iff {tail : List Char} (hsinks : ∀ sink ∈ sinks, IsDottedPath sink.toList)
    (hcallee : IsDottedPath cs) :
    StartsSink (sinks.map String.toList) (cs ++ '(' :: tail) ↔
      ∃ receiver ∈ [] :: receivers, ∃ rest, cs = receiver ++ rest ∧ NamesSink sinks rest := by
  constructor
  · rintro ⟨receiver, hreceiver, _, hmem, back, htext, hback⟩
    obtain ⟨sink, hsink, rfl⟩ := List.mem_map.1 hmem
    have hpath : IsDottedPath (receiver ++ sink.toList) :=
      isDottedPath_receiver hreceiver (hsinks sink hsink)
    rw [← List.append_assoc] at htext
    rcases List.append_eq_append_iff.1 htext with ⟨reach, hreach, htail⟩ | ⟨more, hmore, rfl⟩
    · cases reach with
      | nil =>
        rw [List.append_nil] at hreach
        exact ⟨receiver, hreceiver, sink.toList, hreach.symm, sink, hsink, [], by simp, .inl rfl⟩
      | cons c r =>
        -- The sink would reach over the parenthesis.
        obtain ⟨rfl, -⟩ := List.cons.inj htail
        rw [hreach] at hpath
        exact absurd (List.mem_append_right _ List.mem_cons_self) hpath.opening_not_mem
    · refine ⟨receiver, hreceiver, sink.toList ++ more, ?_, sink, hsink, more, rfl, ?_⟩
      · rw [hmore, List.append_assoc]
      · cases more with
        | nil => exact .inl rfl
        | cons c r =>
          have hc : c = '.' := hcallee.eq_dot (by rw [hmore]; simp) hback
          exact .inr (by rw [hc]; rfl)
  · rintro ⟨receiver, hreceiver, rest, rfl, sink, hsink, more, rfl, hmore⟩
    refine ⟨receiver, hreceiver, sink.toList, List.mem_map_of_mem hsink, more ++ '(' :: tail, ?_, ?_⟩
    · simp
    · rcases hmore with rfl | hmore
      · have hopening : headIs isNameChar ([] ++ '(' :: tail) = false :=
          headIs_between (List.forall_mem_nil _)
        exact hopening
      · cases more with
        | nil => cases hmore
        | cons c r =>
          have hc : c = '.' := by simpa using hmore
          rw [hc]
          exact isNameChar_dot

section

variable (hsinks : ∀ sink ∈ sinks, IsDottedPath sink.toList) (hcallee : IsDottedPath callee.toList)
  (hword : word ≠ "") (hname : ∀ c ∈ word.toList, isNameChar c = true)
include hsinks hcallee hword hname

/-- A call in a text is searched for with and without a receiver in front of the sink. -/
theorem logsWord_call_iff :
    logsWord (callee ++ "(" ++ word ++ ")") word sinks = true ↔
      ∃ receiver ∈ [] :: receivers, ∃ rest,
        callee.toList = receiver ++ rest ∧ NamesSink sinks rest := by
  have htail : '(' ∉ word.toList ++ [')'] := opening_not_mem_argument hname
  rw [logsWord_iff hsinks, toList_call, ← startsSink_call_iff hsinks hcallee]
  constructor
  · rintro ⟨-, front, back, rest, htext, hfront, hstarts, hrest, -⟩
    have hpaths : ∀ sink ∈ sinks.map String.toList, IsDottedPath sink := by
      simpa using hsinks
    have hback : headIs isNameChar back = true := hstarts.headIs_isNameChar hpaths
    obtain rfl := eq_nil_of_sinkCall hcallee htail htext hfront hback
      (opening_mem_of_afterCallee? hrest)
    rw [List.nil_append] at htext
    rw [htext]
    exact hstarts
  · intro hstarts
    refine ⟨hword, [], callee.toList ++ '(' :: (word.toList ++ [')']), word.toList ++ [')'], rfl, rfl,
      hstarts, ?_, ?_⟩
    · rw [dropRun_append hcallee]
      rfl
    · rw [argumentText_name hname]
      exact hasWord_self (by simpa using hword)

/-- **One notion of a sink's callee.** A call of a callee logs its argument exactly if the callee, with
or without one leading receiver, is a sink or extends one. The callee alone is judged alike, unless it
names a sink with its receiver and none without it. -/
theorem isSinkCallee_eq_logsWord_iff :
    (logsWord (callee ++ "(" ++ word ++ ")") word sinks = true ↔
      NamesSink sinks callee.toList ∨
        ∃ receiver ∈ receivers, ∃ rest, callee.toList = receiver ++ rest ∧ NamesSink sinks rest) ∧
    (isSinkCallee callee sinks = logsWord (callee ++ "(" ++ word ++ ")") word sinks ↔
      ∀ receiver ∈ receivers, ∀ rest, callee.toList = receiver ++ rest →
        NamesSink sinks callee.toList → NamesSink sinks rest) := by
  have hlogs := logsWord_call_iff hsinks hcallee hword hname
  simp only [List.mem_cons, exists_eq_or_imp, List.nil_append, exists_eq_left'] at hlogs
  refine ⟨hlogs, ?_⟩
  rw [Bool.eq_iff_iff, isSinkCallee_iff, hlogs, exists_behind_receiver_iff,
    forall_behind_receiver_iff]
  cases afterReceiver? callee.toList with
  | none => simp
  | some rest =>
    simp only [Option.getD_some, Option.some.injEq, exists_eq_left', forall_eq']
    constructor
    · intro hagree hcalled
      exact hagree.2 (.inl hcalled)
    · intro hbehind
      exact ⟨.inr, fun hcalled => hcalled.elim hbehind id⟩

end

/-- A receiver in front of one sink, and a sink that extends another one. -/
theorem isSinkCallee_behind_receiver :
    let sinks := ["console", "this.audit"]
    let callee := "this.console.log"
    (∀ sink ∈ sinks, IsDottedPath sink.toList) ∧ IsDottedPath callee.toList ∧
      isSinkCallee callee sinks = logsWord (callee ++ "(" ++ "key" ++ ")") "key" sinks := by
  intro sinks callee
  have hsinks : ∀ sink ∈ sinks, IsDottedPath sink.toList := by decide
  have hcallee : IsDottedPath callee.toList := by decide
  have hword : "key" ≠ "" := by decide
  have hname : ∀ c ∈ "key".toList, isNameChar c = true := List.all_eq_true.1 (by decide)
  have hagree := (isSinkCallee_eq_logsWord_iff hsinks hcallee hword hname).2
  refine ⟨hsinks, hcallee, hagree.2 ?_⟩
  intro receiver hreceiver rest hsplit hcalled
  have hrest : rest = "console.log".toList := by
    have hreceived := afterReceiver?_eq_some_iff.2 ⟨receiver, hreceiver, hsplit⟩
    have hbehind : afterReceiver? callee.toList = some "console.log".toList := by decide
    rw [hbehind] at hreceived
    exact (Option.some.inj hreceived).symm
  exact ⟨"console", List.mem_cons_self, ".log".toList, hrest, .inr rfl⟩

/-- The sink is named with its receiver, and behind the receiver there is none of its name. -/
theorem isSinkCallee_overlooks_receiver :
    NamesSink ["self.logger"] "self.logger".toList ∧
      isSinkCallee "self.logger" ["self.logger"] = false ∧
      logsWord ("self.logger" ++ "(" ++ "key" ++ ")") "key" ["self.logger"] = true := by
  have hnamed : NamesSink ["self.logger"] "self.logger".toList :=
    ⟨"self.logger", List.mem_singleton_self _, [], by simp, .inl rfl⟩
  exact ⟨hnamed, by decide +kernel, by decide +kernel⟩

end Conformance.Call
