import Conformance.Proofs.Keyed
import Conformance.Proofs.Verification
import Conformance.Proofs.Workspace.History
import Conformance.Proofs.Workspace.Sources

/-! # What a batch answers

A batch is answered unless the settings cannot be used or a source is refused before it is read.
Then every unit, readable or not, has its result under its id: the standard rules leave no clause
without an assertion.

* `Project.Lists`: entries that stand for units, one each.
* `Project.get?_of_verifyAll`: what an answered batch holds under an id.
* `Workspace.verifyAll_answered_iff`: when a batch is answered, whatever happened before.
-/

namespace Conformance
set_option autoImplicit false

/-- The unit is in the list, and no unit behind it has its id. -/
def Implementation.IsLastIn (units : List Implementation) (u : Implementation) : Prop :=
  ∃ before after, units = before ++ u :: after ∧ ∀ v ∈ after, v.id ≠ u.id

namespace Project

variable {p : Project} {u : Implementation} {settings : Settings}

/-! ## Answers one by one -/

/-- The entries stand for the units, one each and in their order. -/
def Lists {α : Type} (R : Implementation → α → Prop) (units : List Implementation)
    (l : List (String × α)) : Prop :=
  List.Forall₂ (fun u e => e.1 = u.id ∧ R u e.2) units l

section

variable {α : Type} {R : Implementation → α → Prop} {units : List Implementation}
  {l : List (String × α)}

theorem Lists.keys_eq (h : Lists R units l) : l.map Prod.fst = units.map Implementation.id := by
  induction h with
  | nil => rfl
  | cons he _ ih => rw [List.map_cons, List.map_cons, he.1, ih]

theorem Lists.exists_of_mem (h : Lists R units l) (hu : u ∈ units) : ∃ a, R u a := by
  induction h with
  | nil => cases hu
  | cons he _ ih =>
    rcases List.mem_cons.1 hu with rfl | hu
    · exact ⟨_, he.2⟩
    · exact ih hu

theorem Lists.exists_unit_of_mem (h : Lists R units l) {e : String × α} (he : e ∈ l) :
    ∃ u ∈ units, e.1 = u.id ∧ R u e.2 := by
  induction h with
  | nil => cases he
  | @cons v d _ _ hd _ ih =>
    rcases List.mem_cons.1 he with rfl | he
    · exact ⟨v, List.mem_cons_self, hd⟩
    · obtain ⟨u, hu, h⟩ := ih he
      exact ⟨u, List.mem_cons_of_mem _ hu, h⟩

theorem Lists.append_inv {before after : List Implementation}
    (h : Lists R (before ++ u :: after) l) :
    ∃ l₁ a l₂, l = l₁ ++ (u.id, a) :: l₂ ∧ R u a ∧ Lists R after l₂ := by
  induction before generalizing l with
  | nil =>
    obtain ⟨⟨key, a⟩, l₂, ⟨rfl, ha⟩, hl₂, rfl⟩ := List.forall₂_cons_left_iff.1 h
    exact ⟨[], a, l₂, rfl, ha, hl₂⟩
  | cons v before ih =>
    obtain ⟨e, rest, -, hrest, rfl⟩ := List.forall₂_cons_left_iff.1 h
    obtain ⟨l₁, a, l₂, rfl, ha, hl₂⟩ := ih hrest
    exact ⟨e :: l₁, a, l₂, rfl, ha, hl₂⟩

/-- Under an id stands what the last unit with that id has. -/
theorem Lists.get?_ofList (h : Lists R units l) (hu : u.IsLastIn units) :
    ∃ a, Keyed.get? (Keyed.ofList l) u.id = some a ∧ R u a := by
  obtain ⟨before, after, rfl, hafter⟩ := hu
  obtain ⟨l₁, a, l₂, rfl, ha, hl₂⟩ := h.append_inv
  refine ⟨a, Keyed.get?_ofList l₁ l₂ fun e he => ?_, ha⟩
  have hkey : e.1 ∈ after.map Implementation.id := hl₂.keys_eq ▸ List.mem_map_of_mem he
  obtain ⟨v, hv, heq⟩ := List.mem_map.1 hkey
  exact heq ▸ hafter v hv

variable {f : Implementation → Answer α}

theorem lists_of_each (h : each f units = .ok l) : Lists (fun u a => f u = .ok a) units l := by
  induction units generalizing l with
  | nil =>
    cases h
    exact .nil
  | cons u rest ih =>
    obtain ⟨a, ha, h⟩ := Answer.exists_of_bind h
    obtain ⟨l', hl', h⟩ := Answer.exists_of_bind h
    cases h
    exact .cons ⟨rfl, ha⟩ (ih hl')

theorem exists_each (h : ∀ u ∈ units, ∃ a, f u = .ok a) : ∃ l, each f units = .ok l := by
  induction units with
  | nil => exact ⟨[], rfl⟩
  | cons u rest ih =>
    obtain ⟨hu, hrest⟩ := List.forall_mem_cons.1 h
    obtain ⟨a, ha⟩ := hu
    obtain ⟨l, hl⟩ := ih hrest
    rw [each, ha, hl]
    exact ⟨_, rfl⟩

theorem each_eq_error {before after : List Implementation} {e : WorkspaceError}
    (hbefore : ∀ v ∈ before, ∃ a, f v = .ok a) (hu : f u = .error e) :
    each f (before ++ u :: after) = .error e := by
  induction before with
  | nil =>
    rw [List.nil_append, each, hu]
    rfl
  | cons v before ih =>
    obtain ⟨⟨a, ha⟩, hrest⟩ := List.forall_mem_cons.1 hbefore
    rw [List.cons_append, each, ha, ih hrest]
    rfl

end

/-! ## Batches -/

theorem verify_eq_ok_iff {o : Option Outline} {r : Result} :
    verify settings u o = .ok r ↔ ({ settings : Verifier }).verify u o = .ok r := by
  unfold verify
  cases ({ settings : Verifier }).verify u o with
  | error e => simp [Except.mapError]
  | ok r' => simp [Except.mapError]

theorem exists_verify (settings : Settings) (u : Implementation) (o : Option Outline) :
    ∃ r, verify settings u o = .ok r := by
  obtain ⟨r, hr, -⟩ := Verifier.verify_standard settings u o
  exact ⟨r, verify_eq_ok_iff.2 hr⟩

theorem verifyOne_eq {o : Option Outline} (hs : p.settings = .ok settings)
    (ho : p.outline u = .ok o) : p.verifyOne u = verify settings u o := by
  rw [verifyOne, ho, hs]
  rfl

variable {units : List Implementation} {batch : Batch}

/-- The steps of an answered batch. -/
theorem verifyAll_ok_inv (h : p.verifyAll units = .ok batch) :
    ∃ settings outlines results, p.settings = .ok settings ∧
      each p.outline units = .ok outlines ∧
      each (verifyListed settings (Keyed.ofList outlines)) units = .ok results ∧
      batch = Batch.ofList results := by
  obtain ⟨settings, hs, h⟩ := Answer.exists_of_bind h
  obtain ⟨outlines, ho, h⟩ := Answer.exists_of_bind h
  obtain ⟨results, hr, h⟩ := Answer.exists_of_bind h
  cases h
  exact ⟨settings, outlines, results, hs, ho, hr, rfl⟩

theorem exists_verifyAll (hs : p.settings = .ok settings)
    (h : ∀ u ∈ units, u.refusal? = none) : ∃ batch, p.verifyAll units = .ok batch := by
  obtain ⟨outlines, ho⟩ := exists_each fun u hu => exists_outline hs (h u hu)
  have hresults : ∀ u ∈ units, ∃ r, verifyListed settings (Keyed.ofList outlines) u = .ok r :=
    fun u _ => exists_verify settings u _
  obtain ⟨results, hr⟩ := exists_each hresults
  refine ⟨Batch.ofList results, ?_⟩
  rw [verifyAll, hs, Answer.ok_bind, ho, Answer.ok_bind, hr, Answer.ok_bind]
  rfl

theorem verifyAll_eq_error {before after : List Implementation} {reason : SourceRefusal}
    (hs : p.settings = .ok settings) (hbefore : ∀ v ∈ before, v.refusal? = none)
    (hu : u.refusal? = some reason) :
    p.verifyAll (before ++ u :: after) = .error (.source reason) := by
  have hbefore := fun v hv => exists_outline (p := p) hs (hbefore v hv)
  rw [verifyAll, hs, Answer.ok_bind, each_eq_error hbefore (outline_refused hs hu),
    Answer.error_bind]

theorem refusal?_eq_none_of_verifyAll (h : p.verifyAll units = .ok batch) (hu : u ∈ units) :
    u.refusal? = none := by
  obtain ⟨settings, outlines, _, hs, ho, _⟩ := verifyAll_ok_inv h
  obtain ⟨o, hou⟩ := (lists_of_each ho).exists_of_mem hu
  cases hr : u.refusal? with
  | none => rfl
  | some reason =>
    rw [outline_refused hs hr] at hou
    cases hou

theorem keys_of_verifyAll (h : p.verifyAll units = .ok batch) :
    batch.entries.map Prod.fst = (units.map Implementation.id).eraseDups := by
  obtain ⟨_, _, results, _, _, hr, rfl⟩ := verifyAll_ok_inv h
  rw [← (lists_of_each hr).keys_eq]
  exact Keyed.keys_ofList results

/-- The outline that stands under an id and the result under it are of one unit, the last one with
that id. -/
theorem get?_of_verifyAll (h : p.verifyAll units = .ok batch) (hu : u.IsLastIn units) :
    ∃ settings o r, p.settings = .ok settings ∧ p.outline u = .ok o ∧
      Keyed.get? batch.entries u.id = some r ∧
      ({ settings : Verifier }).verify u o = .ok r := by
  obtain ⟨settings, outlines, results, hs, ho, hr, rfl⟩ := verifyAll_ok_inv h
  obtain ⟨o, hget, hou⟩ := (lists_of_each ho).get?_ofList hu
  obtain ⟨r, hgetr, hru⟩ := (lists_of_each hr).get?_ofList hu
  -- The table of outlines has the unit's own outline: no unit behind it has its id.
  rw [verifyListed, hget, Option.getD_some] at hru
  exact ⟨settings, o, r, hs, hou, hgetr, verify_eq_ok_iff.1 hru⟩

end Project

namespace Workspace

/-- **A batch is stopped by refused sources alone.** Whatever happened before, a batch is answered
just if the settings of its project can be used and no source is refused; the first refused source
is the reason otherwise. An answered batch has one result for each id, for the last unit with that
id: against the unit's outline, or by its text alone if no outliner reads it. -/
theorem verifyAll_answered_iff (files : FileTree) (start : Option Path) (pinned : Option Settings)
    (capacity : Int) (history : List Command) (units : List Implementation) (root : Path) :
    let w := (new start pinned capacity).after files history
    let p : Project := ⟨files, w.rootFor files root, pinned⟩
    let answer := (Operation.verifyAll units root files w).answer
    ((∃ batch, answer = .ok batch) ↔
      (∃ settings, p.settings = .ok settings) ∧ ∀ u ∈ units, u.refusal? = none) ∧
    (∀ settings before u after reason, p.settings = .ok settings →
      units = before ++ u :: after → (∀ v ∈ before, v.refusal? = none) →
      u.refusal? = some reason → answer = .error (.source reason)) ∧
    ∀ batch, answer = .ok batch →
      batch.entries.map Prod.fst = (units.map Implementation.id).eraseDups ∧
      ∀ u, u.IsLastIn units → ∃ settings o r, p.settings = .ok settings ∧ p.outline u = .ok o ∧
        (u.IsUnread settings → o = none) ∧ Keyed.get? batch.entries u.id = some r ∧
        ({ settings : Verifier }).verify u o = .ok r := by
  intro w p answer
  have hanswer : answer = p.verifyAll units :=
    ((keeps_new files start pinned capacity).after history).verifyAll_answer units root
  rw [hanswer]
  refine ⟨⟨?_, ?_⟩, ?_, ?_⟩
  · rintro ⟨batch, h⟩
    obtain ⟨settings, _, _, hs, _⟩ := Project.verifyAll_ok_inv h
    exact ⟨⟨settings, hs⟩, fun u hu => Project.refusal?_eq_none_of_verifyAll h hu⟩
  · rintro ⟨⟨settings, hs⟩, h⟩
    exact Project.exists_verifyAll hs h
  · rintro settings before u after reason hs rfl hbefore hu
    exact Project.verifyAll_eq_error hs hbefore hu
  · intro batch h
    refine ⟨Project.keys_of_verifyAll h, fun u hu => ?_⟩
    obtain ⟨settings, o, r, hs, ho, hget, hr⟩ := Project.get?_of_verifyAll h hu
    refine ⟨settings, o, r, hs, ho, fun hunread => ?_, hget, hr⟩
    rw [Project.outline_unread hs hunread] at ho
    exact (Except.ok.inj ho).symm

/-- A null character in one source leaves the other unit without its result. -/
theorem verifyAll_null_in_text :
    let files : FileTree := ⟨[], ⟨.root, []⟩⟩
    let root : Path := ⟨.root, []⟩
    let nulled : Implementation := ⟨"a.b", "", .empty, "x = 1\x00", some "a.py", .python⟩
    let other : Implementation := ⟨"a.c", "", .empty, "", none, .rust⟩
    (Settings.load files root).1 = .ok {} ∧
      (Operation.verifyAll [other] root files (new (some root) none)).answer =
        .ok (.ofList [("a.c", ⟨"a.c", .proven, [], []⟩)]) ∧
      (Operation.verifyAll [nulled, other] root files (new (some root) none)).answer =
        .error (.source .nullInText) := by
  intro files root nulled other
  have hload : (Settings.load files root).1 = .ok {} := rfl
  have hs : Project.settings ⟨files, root, none⟩ = .ok {} := by rw [Project.settings, hload]; rfl
  have hpath : Outliner.hasNull nulled.readingPath = false := by
    rw [Outliner.hasNull, String.contains_char_eq]
    decide
  have htext : Outliner.hasNull
      (Source.withoutDirective Outliner.module.commentMark nulled.text) = true := by
    rw [Outliner.hasNull, String.contains_char_eq]
    decide
  have hrefused : nulled.refusal? = some .nullInText := by
    rw [Implementation.refusal?, hpath, htext]
    rfl
  refine ⟨hload, rfl, ?_⟩
  rw [(keeps_new files (some root) none usualCapacity).verifyAll_answer]
  have hbefore : ∀ v ∈ ([] : List Implementation), v.refusal? = none := List.forall_mem_nil _
  exact Project.verifyAll_eq_error hs hbefore hrefused

end Workspace

end Conformance
