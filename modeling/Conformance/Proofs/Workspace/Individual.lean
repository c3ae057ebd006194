import Conformance.Proofs.Evidence
import Conformance.Proofs.Workspace.Batch

/-! # A batch against its units one by one

The result of a unit in a batch is the result of the unit alone, in a workspace without history. The
workspace may stay at a root of its own that means the same directory: then the settings differ in
the name of their file and the outlines in their imports, and no rule looks at either.

* `Project.verifyOne_of_location`: projects in one directory give a unit one result.
* `Workspace.verifyAll_entries`: a batch against its units.
-/

namespace Conformance
set_option autoImplicit false

theorem Outliner.read_unsourced (outliner : Outliner) (settings : Settings) (path source : String) :
    outliner.read settings.unsourced path source = outliner.read settings path source := by
  cases outliner <;> rfl

namespace Project

variable {files : FileTree} {root other : Path} {pinned : Option Settings} {u : Implementation}

theorem exists_settings (h : files.location? root = files.location? other) {settings : Settings}
    (hs : Project.settings ⟨files, root, pinned⟩ = .ok settings) :
    ∃ settings', Project.settings ⟨files, other, pinned⟩ = .ok settings' ∧
      settings'.unsourced = settings.unsourced := by
  cases pinned with
  | some s => exact ⟨settings, hs, rfl⟩
  | none =>
    unfold Project.settings at hs ⊢
    dsimp only at hs ⊢
    cases hload : (Settings.load files root).1 with
    | error e =>
      rw [hload] at hs
      cases hs
    | ok s =>
      rw [hload] at hs
      cases hs
      obtain ⟨settings', ho, heq⟩ := Settings.exists_load h hload
      refine ⟨settings', ?_, heq⟩
      rw [ho]
      rfl

/-- Under settings that differ in their source alone, outlines differ in their imports alone. -/
theorem exists_outline_unlinked {p q : Project} {settings settings' : Settings}
    (hs : p.settings = .ok settings) (hs' : q.settings = .ok settings')
    (heq : settings'.unsourced = settings.unsourced) {o : Option Outline}
    (ho : p.outline u = .ok o) :
    ∃ o', q.outline u = .ok o' ∧ o'.map Outline.unlinked = o.map Outline.unlinked := by
  cases hl : Outliner.ofLanguage? u.language with
  | none =>
    rw [outline_of_no_outliner hl] at ho
    cases ho
    exact ⟨none, outline_of_no_outliner hl, rfl⟩
  | some outliner =>
    have hread : outliner.read settings' u.readingPath u.text =
        outliner.read settings u.readingPath u.text := by
      rw [← Outliner.read_unsourced outliner settings', heq, Outliner.read_unsourced]
    rw [outline_of_outliner hl hs] at ho
    rw [outline_of_outliner hl hs', hread]
    cases hr : outliner.read settings u.readingPath u.text with
    | refused reason =>
      rw [hr] at ho
      cases ho
    | unreadable =>
      rw [hr] at ho
      exact ⟨o, ho, rfl⟩
    | outlined found =>
      -- The imports are resolved from another root; they may mean other files, but never fail.
      rw [hr] at ho
      obtain ⟨imports, -, ho⟩ := Answer.exists_of_bind ho
      cases ho
      obtain ⟨imports', himports'⟩ := exists_resolveImports (p := q)
        (Outliner.exists_importCandidates hl hr)
      refine ⟨some { found with imports := imports' }, ?_, rfl⟩
      rw [outlineOf, himports']
      rfl

/-- Projects in one directory, with the same settings pinned, give a unit one result. -/
theorem verifyOne_of_location (h : files.location? root = files.location? other) {r : Result}
    (hr : Project.verifyOne ⟨files, root, pinned⟩ u = .ok r) :
    Project.verifyOne ⟨files, other, pinned⟩ u = .ok r := by
  obtain ⟨o, ho, hr⟩ := Answer.exists_of_bind hr
  obtain ⟨settings, hs, hr⟩ := Answer.exists_of_bind hr
  obtain ⟨settings', hs', heq⟩ := exists_settings h hs
  obtain ⟨o', ho', hlinked⟩ := exists_outline_unlinked hs hs' heq ho
  rw [verifyOne_eq hs' ho', verify_eq_ok_iff, Verifier.verify_congr heq hlinked]
  exact verify_eq_ok_iff.1 hr

end Project

namespace Workspace

theorem location?_rootFor {files : FileTree} {w : Workspace} {root : Path}
    (h : ∀ old, w.root = some old → files.resolved root = files.resolved old →
      (files.location? root).isSome = (files.location? old).isSome) :
    files.location? (w.rootFor files root) = files.location? root := by
  unfold rootFor
  cases hr : w.root with
  | none => rfl
  | some old =>
    dsimp only
    split
    · next heq => exact (FileTree.location?_eq_of_resolved heq (h old hr heq)).symm
    · rfl

/-- **A batch is its units one by one.** -/
theorem verifyAll_entries (files : FileTree) (start : Option Path) (pinned : Option Settings)
    (capacity newCapacity : Int) (history : List Command) (units : List Implementation)
    (root : Path) (batch : Batch) :
    let w := (new start pinned capacity).after files history
    (∀ old, w.root = some old → files.resolved root = files.resolved old →
      (files.location? root).isSome = (files.location? old).isSome) →
    (Operation.verifyAll units root files w).answer = .ok batch →
    batch.entries.map Prod.fst = (units.map Implementation.id).eraseDups ∧
      ∀ u, u.IsLastIn units → ∃ r, Keyed.get? batch.entries u.id = some r ∧
        (Operation.verifyOne u (some root) files (new none pinned newCapacity)).answer = .ok r := by
  intro w hroot h
  rw [((keeps_new files start pinned capacity).after history).verifyAll_answer] at h
  refine ⟨Project.keys_of_verifyAll h, fun u hu => ?_⟩
  obtain ⟨settings, o, r, hs, ho, hget, hr⟩ := Project.get?_of_verifyAll h hu
  refine ⟨r, hget, ?_⟩
  rw [(keeps_new files none pinned newCapacity).verifyOne_answer]
  refine Project.verifyOne_of_location (location?_rootFor hroot) ?_
  rw [Project.verifyOne_eq hs ho]
  exact Project.verify_eq_ok_iff.2 hr

/-- A repeated unit, in a workspace that was used before and stays at its own name for the root. -/
theorem verifyAll_entries_under_own_root :
    let files : FileTree :=
      ⟨[(["project"], .directory), (["src", "project"], .directory)], ⟨.root, []⟩⟩
    let kept : Path := ⟨.root, ["project"]⟩
    let root : Path := ⟨.root, ["project", "src", ".."]⟩
    let u : Implementation := ⟨"a.b", "", .empty, "", none, .rust⟩
    let w := (new (some kept) none).after files [.outline u]
    w.root = some kept ∧ files.resolved root = files.resolved kept ∧
      ∃ batch, (Operation.verifyAll [u, u] root files w).answer = .ok batch ∧
        batch.entries.map Prod.fst = ["a.b"] ∧
        ∃ r, Keyed.get? batch.entries "a.b" = some r ∧
          (Operation.verifyOne u (some root) files (new none none)).answer = .ok r := by
  intro files kept root u w
  have hroot : ∀ old, w.root = some old → files.resolved root = files.resolved old →
      (files.location? root).isSome = (files.location? old).isSome := by
    intro old hold _
    have hkept : kept = old := Option.some.inj hold
    rw [← hkept]
    rfl
  have hbatch : (Operation.verifyAll [u, u] root files w).answer =
      .ok (.ofList [("a.b", ⟨"a.b", .proven, [], []⟩)]) := rfl
  obtain ⟨hkeys, hentries⟩ := verifyAll_entries files (some kept) none usualCapacity usualCapacity
    [.outline u] [u, u] root _ hroot hbatch
  exact ⟨rfl, rfl, _, hbatch, hkeys, hentries u ⟨[u], [], rfl, List.forall_mem_nil _⟩⟩

/-- The root that is kept leads nowhere, the one that is asked for leads to a directory: the batch
gets by with the usual settings, the unit alone does not. -/
theorem verifyAll_keeps_root_that_leads_nowhere :
    let files : FileTree :=
      ⟨[(["project"], .directory), ([".glass.yml", "project"], .directory)], ⟨.root, []⟩⟩
    let kept : Path := ⟨.root, ["missing", "..", "project"]⟩
    let root : Path := ⟨.root, ["project"]⟩
    let u : Implementation := ⟨"a.b", "", .empty, "", none, .rust⟩
    (Operation.verifyAll [u] root files (new (some kept) none)).answer =
        .ok (.ofList [("a.b", ⟨"a.b", .proven, [], []⟩)]) ∧
      (Operation.verifyOne u (some root) files (new none none)).answer =
        .error (.settings (.unreadable "/project/.glass.yml")) := by
  exact ⟨rfl, rfl⟩

end Workspace

end Conformance
