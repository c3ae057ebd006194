import Conformance.Proofs.Workspace.Answers

/-! # Histories of a workspace

A history is a list of commands, each of which may move the workspace to another project, forget
everything, or fail half way. Whatever the history, the workspace stays faithful, and an outline is
the one that a workspace without history gives.

* `Command`, `Workspace.after`: what callers do, and the workspace they leave.
* `Workspace.faithful_after`: the invariant along a history.
-/

namespace Conformance
set_option autoImplicit false

/-! ## Moving to a project -/

namespace Workspace

variable {files : FileTree} {w : Workspace}

/-- The workspace moved to a root. A root that means the same directory as before changes nothing;
another one leaves nothing of what was remembered. -/
def movedTo (files : FileTree) (w : Workspace) (root : Path) : Workspace :=
  match w.root with
  | none => { w with root := some root }
  | some old =>
    if files.resolved root = files.resolved old then w
    else new (some root) w.pinned w.outlines.capacity

theorem Faithful.movedTo (h : w.Faithful files) (root : Path) :
    (w.movedTo files root).Faithful files := by
  unfold Workspace.movedTo
  split
  · next hr => exact h.set_root hr root
  · split
    · exact h
    · exact faithful_new _ _ _

theorem pinned_movedTo (files : FileTree) (w : Workspace) (root : Path) :
    (w.movedTo files root).pinned = w.pinned := by
  unfold Workspace.movedTo
  split
  · rfl
  · split <;> rfl

/-- The root that the workspace has once it is moved to a root. -/
def rootFor (files : FileTree) (w : Workspace) (root : Path) : Path :=
  match w.root with
  | none => root
  | some old => if files.resolved root = files.resolved old then old else root

theorem root_movedTo (files : FileTree) (w : Workspace) (root : Path) :
    (w.movedTo files root).root = some (w.rootFor files root) := by
  unfold Workspace.movedTo rootFor
  cases hr : w.root with
  | none => rfl
  | some old =>
    dsimp only
    split
    · exact hr
    · rfl

end Workspace

namespace Operation

theorem configure_moves (root : Path) (files : FileTree) (w : Workspace) :
    ∃ events, configure root files w = ⟨.ok (), w.movedTo files root, events⟩ := by
  cases hr : w.root with
  | none =>
    refine ⟨[], ?_⟩
    simp only [configure, bind_apply, workspace, Workspace.movedTo, hr]
    rfl
  | some old =>
    by_cases hs : files.resolved root = files.resolved old
    · refine ⟨[], ?_⟩
      simp only [configure, bind_apply, workspace, Operation.files, Workspace.movedTo, hr, if_pos hs]
      rfl
    · refine ⟨[.rootSwitched old root, .reset], ?_⟩
      simp only [configure, bind_apply, workspace, Operation.files, Workspace.movedTo, hr, if_neg hs]
      rfl

theorem configure_bind {α : Type} (root : Path) (x : Operation α) (files : FileTree)
    (w : Workspace) :
    ((configure root >>= fun _ => x) files w).answer = (x files (w.movedTo files root)).answer ∧
      ((configure root >>= fun _ => x) files w).workspace =
        (x files (w.movedTo files root)).workspace := by
  obtain ⟨events, h⟩ := configure_moves root files w
  rw [bind_apply, h]
  exact ⟨rfl, rfl⟩

/-! ## Batches -/

/-- The results of a batch in the project that the workspace is in. -/
def verifyBatch (units : List Implementation) : Operation Batch := do
  let settings ← settings
  let outlines ← outlineAll units
  let batch := Batch.ofList (← verifyEach settings outlines units)
  report [.batchVerified batch.entries.length batch.blocking
    (outlines.countP fun e => e.2.isNone)]
  pure batch

theorem verifyAll_eq (units : List Implementation) (root : Path) :
    verifyAll units root = (configure root >>= fun _ => verifyBatch units) := rfl

theorem computes_verifyBatch (units : List Implementation) :
    Computes (verifyBatch units) fun p => p.verifyAll units := by
  refine Computes.congr
    (f := fun p => p.settings >>= fun s => (Project.each p.outline units >>= fun l =>
      Except.ok (Keyed.ofList l)) >>= fun outlines =>
        Project.each (Project.verifyListed s outlines) units >>= fun l =>
          Except.ok (Batch.ofList l)) ?_ fun p => ?_
  · refine computes_settings.bind fun s => (computes_outlineAll units).bind fun outlines => ?_
    exact (computes_verifyEach s outlines units).bind fun l => .report_bind _ (.pure _)
  · simp only [Project.verifyAll, bind_assoc]
    rfl

end Operation

/-! ## Commands -/

/-- What callers do with a workspace. -/
inductive Command where
  | outline (u : Implementation)
  | outlineAll (units : List Implementation)
  | verifyOne (u : Implementation) (root : Option Path)
  | verifyAll (units : List Implementation) (root : Path)
  | resolve (specifier : String) (base : Path) (language : String)
  | settings
  | root
  | configure (root : Path)
  | reset

/-- The workspace that a command leaves, be it answered or not. -/
def Command.run (files : FileTree) (w : Workspace) : Command → Workspace
  | outline u => (Operation.outline u files w).workspace
  | outlineAll units => (Operation.outlineAll units files w).workspace
  | verifyOne u r => (Operation.verifyOne u r files w).workspace
  | verifyAll units r => (Operation.verifyAll units r files w).workspace
  | resolve specifier base language => (Operation.import? specifier base language files w).workspace
  | settings => (Operation.settings files w).workspace
  | root => (Operation.root files w).workspace
  | configure r => (Operation.configure r files w).workspace
  | reset => (Operation.reset files w).workspace

namespace Workspace

/-- The workspace after a history. -/
def after (files : FileTree) (w : Workspace) (history : List Command) : Workspace :=
  history.foldl (Command.run files) w

/-- Faithful, with the settings pinned that were pinned from the start. -/
structure Keeps (files : FileTree) (pinned : Option Settings) (w : Workspace) : Prop where
  faithful : w.Faithful files
  pinned_eq : w.pinned = pinned

variable {files : FileTree} {pinned : Option Settings} {w : Workspace}

theorem Keeps.movedTo (h : w.Keeps files pinned) (root : Path) :
    (w.movedTo files root).Keeps files pinned :=
  ⟨h.faithful.movedTo root, (pinned_movedTo files w root).trans h.pinned_eq⟩

theorem Keeps.computed {α : Type} (h : w.Keeps files pinned) {x : Operation α}
    {f : Project → Answer α} (hx : x.Computes f) : (x files w).workspace.Keeps files pinned :=
  have hw := hx files w h.faithful
  ⟨hw.faithful, hw.leads.pinned_eq.trans h.pinned_eq⟩

/-- One command. -/
theorem Keeps.run (h : w.Keeps files pinned) (c : Command) : (c.run files w).Keeps files pinned := by
  cases c with
  | outline u => exact h.computed (Operation.computes_outline u)
  | outlineAll units => exact h.computed (Operation.computes_outlineAll units)
  | verifyOne u root =>
    cases root with
    | none => exact h.computed (Operation.computes_verifyOne u)
    | some root =>
      rw [Command.run, Operation.verifyOne_some, (Operation.configure_bind root _ files w).2]
      exact (h.movedTo root).computed (Operation.computes_verifyOne u)
  | verifyAll units root =>
    rw [Command.run, Operation.verifyAll_eq, (Operation.configure_bind root _ files w).2]
    exact (h.movedTo root).computed (Operation.computes_verifyBatch units)
  | resolve specifier base language =>
    exact h.computed (Operation.computes_import? specifier base language)
  | settings => exact h.computed Operation.computes_settings
  | root => exact h.computed Operation.computes_root
  | configure root =>
    obtain ⟨events, hc⟩ := Operation.configure_moves root files w
    rw [Command.run, hc]
    exact h.movedTo root
  | reset => exact ⟨faithful_new w.root w.pinned w.outlines.capacity, h.pinned_eq⟩

/-- Every history. -/
theorem Keeps.after (h : w.Keeps files pinned) (history : List Command) :
    (w.after files history).Keeps files pinned := by
  induction history generalizing w with
  | nil => exact h
  | cons c rest ih => exact ih (h.run c)

theorem keeps_new (files : FileTree) (root : Option Path) (pinned : Option Settings)
    (capacity : Int) : (new root pinned capacity).Keeps files pinned :=
  ⟨faithful_new root pinned capacity, rfl⟩

/-- What an operation answers is the project's answer, at the root or else the current directory. -/
theorem Keeps.answer_eq {α : Type} (h : w.Keeps files pinned) {x : Operation α}
    {f : Project → Answer α} (hx : x.Computes f) :
    (x files w).answer = f ⟨files, w.root.getD files.current, pinned⟩ := by
  have hw := hx files w h.faithful
  rw [hw.answer_eq _ hw.leads.admits_home, h.pinned_eq]

theorem Keeps.verifyOne_answer (h : w.Keeps files pinned) (u : Implementation) (root : Path) :
    (Operation.verifyOne u (some root) files w).answer =
      Project.verifyOne ⟨files, w.rootFor files root, pinned⟩ u := by
  rw [Operation.verifyOne_some, (Operation.configure_bind root _ files w).1,
    (h.movedTo root).answer_eq (Operation.computes_verifyOne u), root_movedTo]
  rfl

theorem Keeps.verifyAll_answer (h : w.Keeps files pinned) (units : List Implementation)
    (root : Path) :
    (Operation.verifyAll units root files w).answer =
      Project.verifyAll ⟨files, w.rootFor files root, pinned⟩ units := by
  rw [Operation.verifyAll_eq, (Operation.configure_bind root _ files w).1,
    (h.movedTo root).answer_eq (Operation.computes_verifyBatch units), root_movedTo]
  rfl

/-- **A history does not show.** The outline of a unit, or the reason why there is none, is that in
a workspace without history that has the same root and pinned settings. -/
theorem outline_after_history (files : FileTree) (root : Option Path) (pinned : Option Settings)
    (capacity newCapacity : Int) (history : List Command) (u : Implementation) :
    let w := (new root pinned capacity).after files history
    (Operation.outline u files w).answer =
      (Operation.outline u files (new w.root pinned newCapacity)).answer := by
  intro w
  have hw : w.Keeps files pinned := (keeps_new files root pinned capacity).after history
  have hnew := keeps_new files w.root pinned newCapacity
  rw [hw.answer_eq (Operation.computes_outline u), hnew.answer_eq (Operation.computes_outline u)]
  rfl

end Workspace

end Conformance
