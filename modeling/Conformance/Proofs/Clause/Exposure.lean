import Conformance.Clause.Exposure
import Conformance.Proofs.Text.DottedName
import Conformance.Proofs.Text.Keyword

/-! # What an exposure clause protects

A clause speaks of exposure where a negation stands, and behind it a verb with nothing but words, blanks
and commas between them. The first such place counts, with the first verb behind its negation. The
clause protects the first dotted name up to the verb that is no filler.

* `Scans`: a search for the first place of a text where something stands.
* `Mention`: the parts of a clause at a mention of exposure; `IsFirst` singles out one of them.
* `afterExposure?_eq_some_iff`: this is the mention that the search finds.
* `exposureSubject?_stands`: where the protected name stands.
-/

namespace Conformance.Clause
open Text
set_option autoImplicit false

/-! ## First places -/

/-- Behind `front`, which characters of `p` make up and no word character ends, `head?` leaves `rest`. -/
def Reaches (p : Char → Bool) (head? : List Char → Option (List Char)) (joined : Bool)
    (text front rest : List Char) : Prop :=
  ∃ back, text = front ++ back ∧ (∀ c ∈ front, p c = true) ∧
    joinsAfter isWordChar joined front = false ∧ head? back = some rest

def ReachesFirst (p : Char → Bool) (head? : List Char → Option (List Char)) (joined : Bool)
    (text front rest : List Char) : Prop :=
  Reaches p head? joined text front rest ∧
    ∀ front' rest', Reaches p head? joined text front' rest' → front.length ≤ front'.length

/-- The function tries `head?` at one place after the other, as long as characters of `p` stand
between them; `joined` tells that a word character stands before the text. -/
structure Scans (p : Char → Bool) (head? : List Char → Option (List Char))
    (scan : Bool → List Char → Option (List Char)) : Prop where
  head_nil : head? [] = none
  nil : ∀ joined, scan joined [] = none
  cons : ∀ joined c r, scan joined (c :: r) =
    match (if joined then none else head? (c :: r)) with
    | some rest => some rest
    | none => if p c then scan (isWordChar c) r else none

section

variable {p : Char → Bool} {head? : List Char → Option (List Char)}
  {scan : Bool → List Char → Option (List Char)}
variable {joined : Bool} {c : Char} {r text front rest : List Char}

theorem reaches_nil_iff :
    Reaches p head? joined text [] rest ↔ joined = false ∧ head? text = some rest := by
  constructor
  · rintro ⟨back, rfl, -, hjoined, hhead⟩
    exact ⟨hjoined, hhead⟩
  · rintro ⟨hjoined, hhead⟩
    exact ⟨text, rfl, List.forall_mem_nil _, hjoined, hhead⟩

theorem reaches_cons_iff :
    Reaches p head? joined (c :: r) (c :: front) rest ↔
      p c = true ∧ Reaches p head? (isWordChar c) r front rest := by
  constructor
  · rintro ⟨back, htext, hfront, hjoined, hhead⟩
    rw [joinsAfter_cons] at hjoined
    rw [List.forall_mem_cons] at hfront
    exact ⟨hfront.1, back, (List.cons.inj htext).2, hfront.2, hjoined, hhead⟩
  · rintro ⟨hc, back, rfl, hfront, hjoined, hhead⟩
    refine ⟨back, rfl, List.forall_mem_cons.2 ⟨hc, hfront⟩, ?_, hhead⟩
    rwa [joinsAfter_cons]

/-- A place behind the first character, if there is none at it. -/
theorem Reaches.of_cons (h : Reaches p head? joined (c :: r) front rest)
    (hnone : (if joined then none else head? (c :: r)) = none) :
    ∃ front', front = c :: front' ∧ p c = true ∧ Reaches p head? (isWordChar c) r front' rest := by
  cases front with
  | nil =>
    obtain ⟨rfl, hhead⟩ := reaches_nil_iff.1 h
    rw [if_neg Bool.false_ne_true, hhead] at hnone
    cases hnone
  | cons d front =>
    obtain ⟨back, htext, -⟩ := id h
    obtain rfl := (List.cons.inj htext).1
    exact ⟨front, rfl, reaches_cons_iff.1 h⟩

/-- The search finds the first place, and fails only where there is none. -/
theorem Scans.reaches (h : Scans p head? scan) (joined : Bool) (text : List Char) :
    match scan joined text with
    | some rest => ∃ front, ReachesFirst p head? joined text front rest
    | none => ∀ front rest, ¬ Reaches p head? joined text front rest := by
  induction text generalizing joined with
  | nil =>
    rw [h.nil]
    rintro front rest ⟨back, htext, -, -, hhead⟩
    obtain ⟨-, rfl⟩ := List.append_eq_nil_iff.1 htext.symm
    rw [h.head_nil] at hhead
    cases hhead
  | cons c r ih =>
    rw [h.cons]
    cases hhere : (if joined then none else head? (c :: r)) with
    | some rest =>
      obtain ⟨hjoined, hhead⟩ : joined = false ∧ head? (c :: r) = some rest := by
        cases joined with
        | false => exact ⟨rfl, hhere⟩
        | true => cases hhere
      exact ⟨[], reaches_nil_iff.2 ⟨hjoined, hhead⟩, fun _ _ _ => Nat.zero_le _⟩
    | none =>
      dsimp only
      by_cases hc : p c = true
      · rw [if_pos hc]
        specialize ih (isWordChar c)
        cases hscan : scan (isWordChar c) r with
        | some rest =>
          rw [hscan] at ih
          obtain ⟨front, hfront, hfirst⟩ := ih
          refine ⟨c :: front, reaches_cons_iff.2 ⟨hc, hfront⟩, fun front' rest' h' => ?_⟩
          obtain ⟨front', rfl, -, h'⟩ := h'.of_cons hhere
          exact Nat.succ_le_succ (hfirst front' rest' h')
        | none =>
          rw [hscan] at ih
          intro front rest hreaches
          obtain ⟨front', -, -, h'⟩ := hreaches.of_cons hhere
          exact ih front' rest h'
      · rw [if_neg hc]
        intro front rest hreaches
        obtain ⟨-, -, hc', -⟩ := hreaches.of_cons hhere
        exact hc hc'

theorem ReachesFirst.unique {front' rest' : List Char}
    (h : ReachesFirst p head? joined text front rest)
    (h' : ReachesFirst p head? joined text front' rest') : front = front' ∧ rest = rest' := by
  have hlength : front.length = front'.length :=
    Nat.le_antisymm (h.2 _ _ h'.1) (h'.2 _ _ h.1)
  obtain ⟨⟨back, rfl, -, -, hhead⟩, -⟩ := h
  obtain ⟨⟨back', htext, -, -, hhead'⟩, -⟩ := h'
  obtain ⟨rfl, rfl⟩ := List.append_inj htext hlength
  exact ⟨rfl, Option.some.inj (hhead.symm.trans hhead')⟩

theorem Scans.eq_some_iff (h : Scans p head? scan) :
    scan joined text = some rest ↔ ∃ front, ReachesFirst p head? joined text front rest := by
  have hreaches := h.reaches joined text
  cases hscan : scan joined text with
  | none =>
    rw [hscan] at hreaches
    constructor
    · intro hsome
      cases hsome
    · rintro ⟨front, hfirst⟩
      exact absurd hfirst.1 (hreaches front rest)
  | some found =>
    rw [hscan] at hreaches
    obtain ⟨front, hfirst⟩ := hreaches
    constructor
    · intro hsome
      obtain rfl := Option.some.inj hsome
      exact ⟨front, hfirst⟩
    · rintro ⟨front', hfirst'⟩
      rw [(hfirst.unique hfirst').2]

theorem Scans.exists_of_reaches (h : Scans p head? scan)
    (hreaches : Reaches p head? joined text front rest) :
    ∃ found, scan joined text = some found := by
  have hscan := h.reaches joined text
  cases hfound : scan joined text with
  | none =>
    rw [hfound] at hscan
    exact absurd hreaches (hscan front rest)
  | some found => exact ⟨found, rfl⟩

end

theorem areLower_negations : AreLower negations := by decide

theorem areLower_exposureVerbs : AreLower exposureVerbs := by decide

theorem scans_afterVerb? : Scans isGap (keyword? exposureVerbs) afterVerb? where
  head_nil := by decide
  nil _ := rfl
  cons _ _ _ := rfl

/-- What follows the negation at the head of a text with its verb. -/
def afterNegation? (back : List Char) : Option (List Char) :=
  (keyword? negations back).bind (afterVerb? true)

theorem scans_afterExposureFrom? :
    Scans (fun _ => true) afterNegation? afterExposureFrom? where
  head_nil := by decide
  nil _ := rfl
  cons _ _ _ := rfl

/-! ## Mentions of exposure -/

/-- The parts of a clause at a place where it speaks of exposure. -/
structure Mention where
  before : List Char
  negation : List Char
  gap : List Char
  verb : List Char
  after : List Char

namespace Mention

/-- What stands before the verb. -/
def lead (m : Mention) : List Char := m.before ++ (m.negation ++ m.gap)

/-- The clause has these parts. The negation and the verb are whole words with a gap between them. -/
structure Stands (m : Mention) (clause : List Char) : Prop where
  text_eq : clause = m.before ++ (m.negation ++ (m.gap ++ (m.verb ++ m.after)))
  negation : IsKeyword negations m.negation
  verb : IsKeyword exposureVerbs m.verb
  gap : ∀ c ∈ m.gap, isGap c = true
  before_apart : joinsAfter isWordChar false m.before = false
  gap_apart : headIs isWordChar m.gap = false ∧ joinsAfter isWordChar true m.gap = false
  after_apart : headIs isWordChar m.after = false

/-- No mention begins further to the left, and none that begins here has a shorter gap. -/
structure IsFirst (m : Mention) (clause : List Char) : Prop where
  stands : m.Stands clause
  leftmost : ∀ m' : Mention, m'.Stands clause → m.before.length ≤ m'.before.length
  shortest : ∀ m' : Mention, m'.Stands clause → m'.before = m.before →
    m.gap.length ≤ m'.gap.length

variable {m m' : Mention} {clause : List Char}

theorem Stands.exists_gap_eq (h : m.Stands clause) :
    ∃ init c, m.gap = init ++ [c] ∧ Separates c := by
  rcases List.eq_nil_or_concat m.gap with hnil | ⟨init, c, hgap⟩
  · have hapart := h.gap_apart.2
    rw [hnil] at hapart
    cases hapart
  · rw [List.concat_eq_append] at hgap
    refine ⟨init, c, hgap, ?_⟩
    have hword : isWordChar c = false := by
      have hapart := h.gap_apart.2
      simpa [hgap, joinsAfter] using hapart
    have hc : isGap c = true := h.gap c (by simp [hgap])
    have hcases : isSpace c = true ∨ c = ',' := by
      simpa [isGap, hword] using hc
    rcases hcases with hspace | rfl
    · refine ⟨isNameChar_eq_false_of_isSpace hspace, ?_⟩
      rintro rfl
      exact absurd hspace (by decide)
    · exact ⟨by decide, by decide⟩

/-- Behind the negation the verb is reached through the gap. -/
theorem Stands.reaches_verb (h : m.Stands clause) :
    Reaches isGap (keyword? exposureVerbs) true (m.gap ++ (m.verb ++ m.after)) m.gap m.after :=
  ⟨_, rfl, h.gap, h.gap_apart.2,
    (keyword?_eq_some_iff areLower_exposureVerbs).2 ⟨m.verb, h.verb, rfl, h.after_apart⟩⟩

theorem Stands.headIs_behind_negation (h : m.Stands clause) :
    headIs isWordChar (m.gap ++ (m.verb ++ m.after)) = false := by
  have hapart := h.gap_apart
  cases hgap : m.gap with
  | nil =>
    rw [hgap] at hapart
    cases hapart.2
  | cons c r =>
    rw [hgap] at hapart
    exact hapart.1

/-- Every mention begins at a place that the search would stop at. -/
theorem Stands.exists_reaches (h : m.Stands clause) :
    ∃ rest, Reaches (fun _ => true) afterNegation? false clause m.before rest := by
  obtain ⟨rest, hrest⟩ := scans_afterVerb?.exists_of_reaches h.reaches_verb
  have hnegation : keyword? negations (m.negation ++ (m.gap ++ (m.verb ++ m.after))) =
      some (m.gap ++ (m.verb ++ m.after)) :=
    (keyword?_eq_some_iff areLower_negations).2
      ⟨m.negation, h.negation, rfl, h.headIs_behind_negation⟩
  refine ⟨rest, _, h.text_eq, fun _ _ => rfl, h.before_apart, ?_⟩
  rw [afterNegation?, hnegation]
  exact hrest

/-- Where two mentions begin at one place, they have one negation. -/
theorem Stands.behind_negation_eq (h : m.Stands clause) {negation behind : List Char}
    (hclause : clause = m.before ++ (negation ++ behind)) (hnegation : IsKeyword negations negation)
    (hbehind : headIs isWordChar behind = false) :
    m.negation = negation ∧ m.gap ++ (m.verb ++ m.after) = behind := by
  have heq := List.append_cancel_left (h.text_eq.symm.trans hclause)
  exact run_unique (h.negation.isWordChar areLower_negations)
    (hnegation.isWordChar areLower_negations) h.headIs_behind_negation hbehind heq

theorem IsFirst.unique (h : m.IsFirst clause) (h' : m'.IsFirst clause) : m = m' := by
  obtain ⟨before, negation, gap, verb, after⟩ := m
  obtain ⟨before', negation', gap', verb', after'⟩ := m'
  have hlength : before.length = before'.length :=
    Nat.le_antisymm (h.leftmost _ h'.stands) (h'.leftmost _ h.stands)
  obtain ⟨rfl, -⟩ := List.append_inj (h.stands.text_eq.symm.trans h'.stands.text_eq) hlength
  obtain ⟨rfl, hbehind⟩ := h.stands.behind_negation_eq h'.stands.text_eq h'.stands.negation
    h'.stands.headIs_behind_negation
  have hgap : gap.length = gap'.length :=
    Nat.le_antisymm (h.shortest _ h'.stands rfl) (h'.shortest _ h.stands rfl)
  obtain ⟨rfl, hverb⟩ := List.append_inj hbehind hgap
  obtain ⟨rfl, rfl⟩ := run_unique (h.stands.verb.isWordChar areLower_exposureVerbs)
    (h'.stands.verb.isWordChar areLower_exposureVerbs) h.stands.after_apart h'.stands.after_apart hverb
  rfl

/-- The search stops at a mention that is first. -/
theorem exists_isFirst_of_reachesFirst {before rest : List Char}
    (h : ReachesFirst (fun _ => true) afterNegation? false clause before rest) :
    ∃ m : Mention, m.IsFirst clause ∧ m.after = rest := by
  obtain ⟨⟨back, rfl, -, hbefore, hback⟩, hleftmost⟩ := h
  obtain ⟨behind, hbehind, hscan⟩ := Option.bind_eq_some_iff.1 hback
  obtain ⟨negation, hnegation, rfl, hapart⟩ := (keyword?_eq_some_iff areLower_negations).1 hbehind
  obtain ⟨gap, ⟨tail, rfl, hgap, hgapApart, htail⟩, hshortest⟩ := scans_afterVerb?.eq_some_iff.1 hscan
  obtain ⟨verb, hverb, rfl, hafter⟩ := (keyword?_eq_some_iff areLower_exposureVerbs).1 htail
  have hgapHead : headIs isWordChar gap = false := by
    cases gap with
    | nil => rfl
    | cons c r => exact hapart
  have hstands : Stands ⟨before, negation, gap, verb, rest⟩
      (before ++ (negation ++ (gap ++ (verb ++ rest)))) :=
    ⟨rfl, hnegation, hverb, hgap, hbefore, ⟨hgapHead, hgapApart⟩, hafter⟩
  refine ⟨⟨before, negation, gap, verb, rest⟩, ⟨hstands, ?_, ?_⟩, rfl⟩
  · intro m' h'
    obtain ⟨rest', hreaches⟩ := h'.exists_reaches
    exact hleftmost _ _ hreaches
  · intro m' h' hsame
    obtain ⟨-, hbehind'⟩ := h'.behind_negation_eq (hsame ▸ rfl) hnegation hapart
    exact hshortest _ _ (hbehind' ▸ h'.reaches_verb)

end Mention

open Mention in
theorem afterExposure?_eq_some_iff {clause rest : List Char} :
    afterExposure? clause = some rest ↔ ∃ m : Mention, m.IsFirst clause ∧ m.after = rest := by
  constructor
  · intro h
    obtain ⟨before, hfirst⟩ := scans_afterExposureFrom?.eq_some_iff.1 h
    exact exists_isFirst_of_reachesFirst hfirst
  · rintro ⟨m, hm, rfl⟩
    obtain ⟨rest, hreaches⟩ := hm.stands.exists_reaches
    obtain ⟨found, hfound⟩ := scans_afterExposureFrom?.exists_of_reaches hreaches
    obtain ⟨before, hfirst⟩ := scans_afterExposureFrom?.eq_some_iff.1 hfound
    obtain ⟨m', hm', rfl⟩ := exists_isFirst_of_reachesFirst hfirst
    rw [hm.unique hm']
    exact hfound

/-! ## The protected name -/

theorem isDottedName_of_verb {verb : List Char} (h : IsKeyword exposureVerbs verb) :
    IsDottedName verb := by
  have hchars := h.isWordChar areLower_exposureVerbs
  obtain ⟨word, hword, hspells⟩ := h
  have hfirst : ∀ word ∈ exposureVerbs, headIs (['s', 'k', 'i'].contains ·) word.toList = false := by
    decide
  cases hspells' : word.toList with
  | nil =>
    have hne : ∀ word ∈ exposureVerbs, word.toList ≠ [] := by decide
    exact absurd hspells' (hne word hword)
  | cons p r =>
    have hp : p ∉ ['s', 'k', 'i'] := by
      have hhead := hfirst word hword
      rw [hspells', headIs] at hhead
      simpa using hhead
    have hlower : p ∈ lowerLetters :=
      areLower_exposureVerbs word hword (by rw [hspells']; exact List.mem_cons_self)
    rw [hspells'] at hspells
    cases hspells with
    | cons hform _ =>
      rw [List.forall_mem_cons] at hchars
      refine ⟨isNameStart_of_isFormOf hlower hp hform, isNameTail_of_forall fun c hc => ?_⟩
      rw [isNameChar, hchars.2 c hc, Bool.true_or]

/-- Lower case takes every negation to a filler. -/
theorem isFiller_of_negation {negation : List Char} (h : IsKeyword negations negation) :
    isFiller negation = true := by
  rcases h.map_lowerAscii_mem areLower_negations with ⟨c, hc, hstray⟩ | hmem
  · obtain ⟨word, hword, hspells⟩ := h
    obtain ⟨p, hp, hform⟩ := hspells.exists_letter hc
    have hnone : ∀ word ∈ negations, 's' ∉ word.toList ∧ 'i' ∉ word.toList := by decide
    rcases eq_of_isFormOf_strayForm (areLower_negations word hword hp) hstray hform with rfl | rfl
    · exact absurd hp (hnone word hword).1
    · exact absurd hp (hnone word hword).2
  · have hfillers : ∀ word ∈ negations, fillers.contains word = true := by decide
    exact hfillers _ hmem

/-- Lower case takes a verb to a filler, unless the verb holds a form that lower case keeps. -/
theorem isFiller_of_verb {verb : List Char} (h : IsKeyword exposureVerbs verb) :
    (∃ c ∈ verb, c ∈ strayForms) ∨ isFiller verb = true := by
  refine (h.map_lowerAscii_mem areLower_exposureVerbs).imp_right fun hmem => ?_
  have hfillers : ∀ word ∈ exposureVerbs, fillers.contains word = true := by decide
  exact hfillers _ hmem

namespace Mention

variable {m : Mention} {clause name : List Char}

theorem Stands.exists_lead_eq (h : m.Stands clause) :
    ∃ front c, m.lead = front ++ [c] ∧ Separates c := by
  obtain ⟨init, c, hgap, hc⟩ := h.exists_gap_eq
  refine ⟨m.before ++ (m.negation ++ init), c, ?_, hc⟩
  rw [lead, hgap, List.append_assoc, List.append_assoc]

theorem Stands.clause_eq (h : m.Stands clause) : clause = m.lead ++ (m.verb ++ m.after) := by
  rw [h.text_eq, lead, List.append_assoc, List.append_assoc]

/-- The verb is the last name up to itself. -/
theorem Stands.dottedNames_eq (h : m.Stands clause) :
    dottedNames (m.lead ++ m.verb) = dottedNames m.lead ++ [m.verb] := by
  obtain ⟨front, c, hlead, hc⟩ := h.exists_lead_eq
  rw [hlead, dottedNames_concat hc, List.append_assoc, List.singleton_append,
    dottedNames_append_cons hc, dottedNames_eq_self (isDottedName_of_verb h.verb)]

theorem Stands.exists_of_mem_lead (h : m.Stands clause) (hname : name ∈ dottedNames m.lead) :
    ∃ front back, m.lead = front ++ (name ++ back) ∧ IsDottedName name ∧ StandsFree front ∧
      headIs isNameChar (back ++ (m.verb ++ m.after)) = false := by
  obtain ⟨before, c, hlead, hc⟩ := h.exists_lead_eq
  rw [hlead, dottedNames_concat hc] at hname
  obtain ⟨front, back, rfl, hdotted, hback, hfront⟩ := exists_of_mem_dottedNames hname
  refine ⟨front, back ++ [c], ?_, hdotted, hfront, ?_⟩
  · rw [hlead, List.append_assoc, List.append_assoc]
  · cases back with
    | nil => exact hc.1
    | cons d r => exact hback.1

end Mention

theorem exposureSubject?_eq {clause : String} {m : Mention} (hm : m.IsFirst clause.toList) :
    exposureSubject? clause =
      ((dottedNames m.lead ++ [m.verb]).find? fun name => !isFiller name).map String.ofList := by
  have hafter : afterExposure? clause.toList = some m.after :=
    afterExposure?_eq_some_iff.2 ⟨m, hm, rfl⟩
  have hupTo : clause.toList.take (clause.toList.length - m.after.length) = m.lead ++ m.verb := by
    rw [hm.stands.clause_eq, ← List.append_assoc, List.length_append, Nat.add_sub_cancel,
      List.take_left]
  rw [exposureSubject?, hafter, Option.bind_some]
  dsimp only
  rw [hupTo, hm.stands.dottedNames_eq]

example : exposureSubject? "secret never lea\u212aed" = some "secret" := by decide +kernel

example : exposureSubject? "lea\u212aed never logged" = none := by decide +kernel

theorem isExposure_iff {clause : String} :
    isExposure clause = true ↔ ∃ m : Mention, m.Stands clause.toList := by
  rw [isExposure, Option.isSome_iff_exists]
  constructor
  · rintro ⟨rest, hrest⟩
    obtain ⟨m, hm, -⟩ := afterExposure?_eq_some_iff.1 hrest
    exact ⟨m, hm.stands⟩
  · rintro ⟨m, hm⟩
    obtain ⟨rest, hreaches⟩ := hm.exists_reaches
    exact scans_afterExposureFrom?.exists_of_reaches hreaches

theorem isExposure_of_subject {clause subject : String} (h : exposureSubject? clause = some subject) :
    isExposure clause = true := by
  unfold exposureSubject? at h
  unfold isExposure
  cases hr : afterExposure? clause.toList with
  | none => rw [hr] at h; cases h
  | some rest => rfl

/-- A name of the clause that no name character stands before is found in it as a whole word. -/
theorem containsWord_of_place {clause s : String} {front back : List Char}
    (hclause : clause.toList = front ++ (s.toList ++ back)) (hs : s.toList ≠ [])
    (hfront : joinsAfter isNameChar false front = false) (hback : headIs isNameChar back = false) :
    containsWord clause s = true := by
  have hne : s.isEmpty = false := by
    rw [← Bool.not_eq_true, String.isEmpty_iff]
    rintro rfl
    exact hs rfl
  rw [containsWord, hne, Bool.not_false, Bool.true_and, hasWord_iff hs]
  exact ⟨front, back, by rw [hclause, List.append_assoc], hfront, hback⟩

/-- A name before the verb is a whole word of the clause, unless a character that starts no name
stands directly before it. -/
theorem Mention.Stands.place_of_mem_lead {clause : String} {m : Mention} {name : List Char}
    (h : m.Stands clause.toList) (hname : name ∈ dottedNames m.lead) :
    ∃ front back, m.lead = front ++ (name ++ back) ∧ IsDottedName name ∧
      (containsWord clause (String.ofList name) = true ∨
        ∃ c ∈ front.getLast?, isNameChar c = true ∧ isNameStart c = false) := by
  obtain ⟨front, back, hlead, hdotted, hfree, hback⟩ := h.exists_of_mem_lead hname
  refine ⟨front, back, hlead, hdotted, ?_⟩
  cases hjoins : joinsAfter isNameChar false front with
  | true => exact .inr (hfree.getLast?_of_joins hjoins)
  | false =>
    have hclause : clause.toList =
        front ++ ((String.ofList name).toList ++ (back ++ (m.verb ++ m.after))) := by
      rw [String.toList_ofList, h.clause_eq, hlead]
      simp only [List.append_assoc]
    have hne : (String.ofList name).toList ≠ [] := by
      rw [String.toList_ofList]
      exact hdotted.ne_nil
    exact .inl (containsWord_of_place hclause hne hjoins hback)

/-- **Where the protected name stands.** -/
theorem exposureSubject?_stands (clause : String) :
    (isExposure clause = true ↔ ∃ m : Mention, m.Stands clause.toList) ∧
    (isExposure clause = false → exposureSubject? clause = none) ∧
    ∀ m : Mention, m.IsFirst clause.toList →
      (∀ front name back, m.lead = front ++ (name ++ back) → IsDottedName name →
        (∀ c ∈ front.getLast?, Separates c) → (∀ c ∈ back.head?, Separates c) →
        isFiller name = false → exposureSubject? clause ≠ none) ∧
      ∀ s, exposureSubject? clause = some s →
        isFiller s.toList = false ∧ s.toList ≠ m.negation ∧
        ((s.toList = m.verb ∧ ∃ c ∈ m.verb, c ∈ strayForms) ∨
          ∃ front back, m.lead = front ++ (s.toList ++ back) ∧ IsDottedName s.toList ∧
            (containsWord clause s = true ∨
              ∃ c ∈ front.getLast?, isNameChar c = true ∧ isNameStart c = false)) := by
  refine ⟨isExposure_iff, ?_, fun m hm => ⟨?_, ?_⟩⟩
  · intro hnone
    cases hsubject : exposureSubject? clause with
    | none => rfl
    | some s =>
      rw [isExposure_of_subject hsubject] at hnone
      cases hnone
  · intro front name back hlead hname hfront hback hfiller hnone
    rw [exposureSubject?_eq hm, Option.map_eq_none_iff, List.find?_eq_none] at hnone
    have hmem : name ∈ dottedNames m.lead := hlead ▸ mem_dottedNames_of_apart hname hfront hback
    have hnot := hnone name (List.mem_append_left _ hmem)
    rw [hfiller] at hnot
    exact hnot rfl
  · intro s hs
    rw [exposureSubject?_eq hm] at hs
    obtain ⟨name, hfind, rfl⟩ := Option.map_eq_some_iff.1 hs
    rw [String.toList_ofList]
    have hfiller : isFiller name = false := by simpa using List.find?_some hfind
    refine ⟨hfiller, ?_, ?_⟩
    · rintro rfl
      rw [isFiller_of_negation hm.stands.negation] at hfiller
      cases hfiller
    · rcases List.mem_append.1 (List.mem_of_find?_eq_some hfind) with hmem | hmem
      · exact .inr (hm.stands.place_of_mem_lead hmem)
      · obtain rfl := List.mem_singleton.1 hmem
        refine .inl ⟨rfl, (isFiller_of_verb hm.stands.verb).resolve_right ?_⟩
        rw [hfiller]
        exact Bool.false_ne_true

/-- Fillers and a number stand around the name, and the keywords are capital. -/
theorem exposureSubject?_among_fillers :
    let clause := "a user.key of 2 must NOT, ever, be Printed to a log"
    exposureSubject? clause = some "user.key" ∧ containsWord clause "user.key" = true ∧
      ∃ m : Mention, m.IsFirst clause.toList ∧ "user.key".toList ≠ m.negation ∧
        ∃ front back, m.lead = front ++ ("user.key".toList ++ back) := by
  intro clause
  have hsubject : exposureSubject? clause = some "user.key" := by decide +kernel
  have hafter : afterExposure? clause.toList = some " to a log".toList := by decide +kernel
  obtain ⟨m, hm, -⟩ := afterExposure?_eq_some_iff.1 hafter
  obtain ⟨-, -, hstands⟩ := exposureSubject?_stands clause
  obtain ⟨-, hnegation, hplace⟩ := (hstands m hm).2 "user.key" hsubject
  refine ⟨hsubject, by decide +kernel, m, hm, hnegation, ?_⟩
  rcases hplace with ⟨hverb, c, hc, hstray⟩ | ⟨front, back, hlead, -, -⟩
  · have hplain : ∀ c ∈ "user.key".toList, c ∉ strayForms := forall_of_all (by decide)
    exact absurd hstray (hplain c (hverb ▸ hc))
  · exact ⟨front, back, hlead⟩

/-- The name is taken from the middle of a word, and where the verb is written with a long s the verb
is taken for a name. -/
theorem exposureSubject?_within_word :
    exposureSubject? "the 2nd key is never logged" = some "nd" ∧
      containsWord "the 2nd key is never logged" "nd" = false ∧
      ∃ m : Mention, m.IsFirst "never expoſed".toList ∧
        exposureSubject? "never expoſed" = some (String.ofList m.verb) := by
  refine ⟨by decide +kernel, by decide +kernel,
    ⟨[], "never".toList, [' '], "expoſed".toList, []⟩, ⟨?_, ?_, ?_⟩, by decide +kernel⟩
  · exact ⟨by decide, by decide, by decide, forall_of_all (by decide), by decide, by decide, by decide⟩
  · exact fun _ _ => Nat.zero_le _
  · intro m' h' _
    obtain ⟨init, c, hgap, -⟩ := h'.exists_gap_eq
    rw [hgap, List.length_append]
    exact Nat.le_add_left _ _

end Conformance.Clause
