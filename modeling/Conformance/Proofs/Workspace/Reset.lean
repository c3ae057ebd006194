import Conformance.Proofs.Workspace.History
import Conformance.Proofs.Workspace.Within

/-! # What a reset leaves

The files may change while a workspace is in use, so what it remembers may be out of date; a reset,
or a move to another project, leaves nothing of it. What stays was settled when the workspace was
made.

* `Workspace.through`, `Workspace.transcript`: a workspace after commands that each find their own
  files, and what callers see of further commands.
* `Workspace.SameTerms`, `Operation.KeepsTerms`: pinned settings and capacity never change.
* `Workspace.reset_forgets`: workspaces with different histories cannot be told apart after a reset.
-/

namespace Conformance
set_option autoImplicit false

/-! ## Pinned settings and capacity -/

namespace Workspace

/-- What was settled when the workspaces were made is the same. -/
structure SameTerms (w w' : Workspace) : Prop where
  pinned_eq : w'.pinned = w.pinned
  capacity_eq : w'.outlines.capacity = w.outlines.capacity

namespace SameTerms

variable {w w' w'' : Workspace}

theorem refl (w : Workspace) : w.SameTerms w := ⟨rfl, rfl⟩

theorem trans (h : w.SameTerms w') (h' : w'.SameTerms w'') : w.SameTerms w'' :=
  ⟨h'.pinned_eq.trans h.pinned_eq, h'.capacity_eq.trans h.capacity_eq⟩

instance : IsPreorder Workspace SameTerms where
  refl := refl
  trans _ _ _ := trans

theorem of_sameBooks (h : w.SameBooks w') : w.SameTerms w' :=
  ⟨h.pinned_eq, by rw [h.outlines_eq]⟩

end SameTerms

end Workspace

namespace Operation
open Workspace (SameTerms)

/-- The operation changes neither the pinned settings nor the capacity, whatever it finds and
whether it is answered or not. -/
def KeepsTerms {α : Type} (x : Operation α) : Prop :=
  ∀ (files : FileTree) (w : Workspace), w.SameTerms (x files w).workspace

/-! ## One lemma an operation -/

theorem keepsTerms_of_sameBooks {α : Type} {x : Operation α} (hx : Within Workspace.SameBooks x) :
    Within SameTerms x := hx.mono fun _ _ => .of_sameBooks

theorem keepsTerms_count (f : Stats → Stats) : Within SameTerms (count f) :=
  .change fun _ => ⟨rfl, rfl⟩

theorem keepsTerms_reset : Within SameTerms reset :=
  .bind (.change fun _ => ⟨rfl, rfl⟩) fun _ => .report _

theorem keepsTerms_configure (newRoot : Path) : Within SameTerms (configure newRoot) := by
  refine Within.workspace.bind fun w => ?_
  cases w.root with
  | none => exact .change fun _ => ⟨rfl, rfl⟩
  | some old =>
    refine Within.files.bind fun files => ?_
    split
    · exact .pure ()
    · exact (Within.report _).bind fun _ => keepsTerms_reset.bind fun _ =>
        .change fun _ => ⟨rfl, rfl⟩

theorem keepsTerms_outline (u : Implementation) : Within SameTerms (outline u) := by
  refine Within.workspace.bind fun w => ?_
  split
  · exact (keepsTerms_count _).bind fun _ => .pure _
  · refine (keepsTerms_count _).bind fun _ => ?_
    refine (keepsTerms_of_sameBooks (within_outlineAnew u)).bind fun o => ?_
    have hkeep : Within SameTerms (keep u o) := .change fun _ => ⟨rfl, rfl⟩
    exact hkeep.bind fun _ => .pure o

theorem keepsTerms_outlineAll (units : List Implementation) : Within SameTerms (outlineAll units) := by
  refine Within.bind ?_ fun _ => .pure _
  induction units with
  | nil => exact .pure []
  | cons u rest ih => exact (keepsTerms_outline u).bind fun _ => ih.bind fun _ => .pure _

theorem keepsTerms_verifyOne (u : Implementation) (root : Option Path) :
    Within SameTerms (verifyOne u root) := by
  have hverify : Within SameTerms (verifyOne u none) :=
    (keepsTerms_outline u).bind fun o => keepsTerms_of_sameBooks <|
      within_settings.bind fun s => within_verify s u o
  cases root with
  | none => exact hverify
  | some root => exact (keepsTerms_configure root).bind fun _ => hverify

theorem keepsTerms_verifyAll (units : List Implementation) (root : Path) :
    Within SameTerms (verifyAll units root) := by
  refine (keepsTerms_configure root).bind fun _ => ?_
  refine (keepsTerms_of_sameBooks within_settings).bind fun settings => ?_
  refine (keepsTerms_outlineAll units).bind fun outlines => keepsTerms_of_sameBooks ?_
  exact (within_verifyEach settings outlines units).bind fun _ =>
    (Within.report _).bind fun _ => .pure _

end Operation

/-! ## Commands in changing files -/

/-- What a command answers. -/
inductive Reply where
  | outline (o : Option Outline)
  | outlines (l : List (String × Option Outline))
  | result (r : Result)
  | batch (b : Batch)
  | file (name : Option String)
  | settings (s : Settings)
  | root (r : Path)
  | done

namespace Command

/-- A command as one operation. -/
def perform : Command → Operation Reply
  | outline u => do pure (.outline (← Operation.outline u))
  | outlineAll units => do pure (.outlines (← Operation.outlineAll units))
  | verifyOne u r => do pure (.result (← Operation.verifyOne u r))
  | verifyAll units r => do pure (.batch (← Operation.verifyAll units r))
  | resolve specifier base language => do
    pure (.file (← Operation.import? specifier base language))
  | settings => do pure (.settings (← Operation.settings))
  | root => do pure (.root (← Operation.root))
  | configure r => do
    Operation.configure r
    pure .done
  | reset => do
    Operation.reset
    pure .done

end Command

theorem Operation.workspace_bind_pure {α β : Type} (x : Operation α) (f : α → β) (files : FileTree)
    (w : Workspace) : ((x >>= fun a => pure (f a)) files w).workspace = (x files w).workspace := by
  rw [bind_apply]
  rcases x files w with ⟨_ | _, _, _⟩ <;> rfl

theorem Command.workspace_perform (c : Command) (files : FileTree) (w : Workspace) :
    (c.perform files w).workspace = c.run files w := by
  cases c <;> exact Operation.workspace_bind_pure _ _ files w

theorem Command.keepsTerms_perform (c : Command) : c.perform.KeepsTerms := by
  have hperform {α : Type} {x : Operation α} (hx : x.Within Workspace.SameTerms) (f : α → Reply) :
      (x >>= fun a => pure (f a)).KeepsTerms := Operation.Within.bind hx fun _ => .pure _
  cases c with
  | outline u => exact hperform (Operation.keepsTerms_outline u) _
  | outlineAll units => exact hperform (Operation.keepsTerms_outlineAll units) _
  | verifyOne u r => exact hperform (Operation.keepsTerms_verifyOne u r) _
  | verifyAll units r => exact hperform (Operation.keepsTerms_verifyAll units r) _
  | resolve specifier base language =>
    exact hperform (Operation.keepsTerms_of_sameBooks (Operation.within_import? _ _ _)) _
  | settings => exact hperform (Operation.keepsTerms_of_sameBooks Operation.within_settings) _
  | root => exact hperform (Operation.keepsTerms_of_sameBooks Operation.within_root) _
  | configure r => exact hperform (Operation.keepsTerms_configure r) _
  | reset => exact hperform Operation.keepsTerms_reset _

theorem Command.sameTerms_run (c : Command) (files : FileTree) (w : Workspace) :
    w.SameTerms (c.run files w) := by
  rw [← c.workspace_perform]
  exact c.keepsTerms_perform files w

/-- A command, and the files that it finds. -/
structure Turn where
  files : FileTree
  command : Command

/-- What callers see of a command: its answer or error, the counts afterwards, and the events. -/
structure Seen where
  answer : Except WorkspaceError Reply
  stats : Stats
  events : List Event

namespace Workspace

/-- The workspace after some turns, between which the files may change. -/
def through (w : Workspace) (turns : List Turn) : Workspace :=
  turns.foldl (fun w t => t.command.run t.files w) w

/-- What callers see of some turns, one after the other. -/
def transcript (w : Workspace) : List Turn → List Seen
  | [] => []
  | t :: rest =>
    let o := t.command.perform t.files w
    ⟨o.answer, o.workspace.stats, o.events⟩ :: o.workspace.transcript rest

/-- No further turns tell the workspaces apart. -/
def Alike (w w' : Workspace) : Prop := ∀ later, w.transcript later = w'.transcript later

theorem sameTerms_through (w : Workspace) (turns : List Turn) : w.SameTerms (w.through turns) := by
  induction turns generalizing w with
  | nil => exact .refl w
  | cons t rest ih => exact (t.command.sameTerms_run t.files w).trans (ih _)

theorem new_eq_of_sameTerms {start : Option Path} {pinned : Option Settings} {capacity : Int}
    {w : Workspace} (h : (new start pinned capacity).SameTerms w) (root : Option Path) :
    new root w.pinned w.outlines.capacity = new root pinned capacity := by
  rw [h.pinned_eq, h.capacity_eq]
  rfl

theorem workspace_reset (files : FileTree) (w : Workspace) :
    (Operation.reset files w).workspace = w.cleared := rfl

/-- **A reset forgets everything.** Workspaces that were made alike and have the same root cannot be
told apart once both are reset, whatever they went through. A move to another directory leaves what
a new workspace is; a move to the same one changes nothing. -/
theorem reset_forgets (pinned : Option Settings) (capacity : Int) (start start' : Option Path)
    (history history' : List Turn) (files files' : FileTree) :
    let w := (new start pinned capacity).through history
    let w' := (new start' pinned capacity).through history'
    (w.root = w'.root →
      (Operation.reset files w).workspace.Alike (Operation.reset files' w').workspace) ∧
    (∀ old root, w.root = some old → files.resolved root ≠ files.resolved old →
      (Operation.configure root files w).workspace.Alike (new (some root) pinned capacity)) ∧
    ∀ old root, w.root = some old → files.resolved root = files.resolved old →
      Operation.configure root files w = ⟨.ok (), w, []⟩ := by
  intro w w'
  have hw : (new start pinned capacity).SameTerms w := sameTerms_through _ history
  have hw' : (new start' pinned capacity).SameTerms w' := sameTerms_through _ history'
  refine ⟨fun hroot later => ?_, fun old root hr hne later => ?_, fun old root hr heq => ?_⟩
  · rw [workspace_reset, workspace_reset, cleared, cleared, new_eq_of_sameTerms hw,
      new_eq_of_sameTerms hw', hroot]
  · obtain ⟨events, hc⟩ := Operation.configure_moves root files w
    have hmoved : w.movedTo files root = new (some root) w.pinned w.outlines.capacity := by
      simp only [movedTo, hr, if_neg hne]
    rw [hc, hmoved, new_eq_of_sameTerms hw]
  · simp only [Operation.configure, Operation.bind_apply, Operation.workspace, Operation.files, hr,
      if_pos heq]
    rfl

/-- The one workspace found no settings and kept that there are none, the other one failed on a
directory in the place of the settings; they have different stores and counts. -/
theorem reset_forgets_loaded_settings :
    let plain : FileTree :=
      ⟨[(["project"], .directory), (["other"], .directory)], ⟨.root, ["project"]⟩⟩
    let broken : FileTree := ⟨([".glass.yml", "project"], .directory) :: plain.entries, ⟨.root, []⟩⟩
    let project : Path := ⟨.root, ["project"]⟩
    let other : Path := ⟨.root, ["other"]⟩
    let u : Implementation := ⟨"a.b", "", .empty, "", none, .rust⟩
    let w := (new none none).through [⟨plain, .settings⟩, ⟨broken, .outline u⟩]
    let w' := (new (some project) none).through [⟨broken, .settings⟩]
    (w.transcript [⟨broken, .settings⟩] ≠ w'.transcript [⟨broken, .settings⟩]) ∧
      (Operation.reset broken w).workspace.Alike (Operation.reset plain w').workspace ∧
      (Operation.configure other broken w).workspace.Alike (new (some other) none) ∧
      Operation.configure ⟨.root, ["other", "..", "project"]⟩ broken w = ⟨.ok (), w, []⟩ := by
  intro plain broken project other u w w'
  obtain ⟨hreset, hmove, hstay⟩ := reset_forgets none usualCapacity none (some project)
    [⟨plain, .settings⟩, ⟨broken, .outline u⟩] [⟨broken, .settings⟩] broken plain
  refine ⟨fun h => ?_, hreset rfl, hmove project other rfl (by decide),
    hstay project _ rfl (by decide)⟩
  have hanswered : [true] = [false] := congrArg (List.map fun s : Seen => s.answer.isOk) h
  contradiction

end Workspace

end Conformance
