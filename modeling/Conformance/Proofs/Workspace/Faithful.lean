import Conformance.Proofs.Workspace.Project

/-! # Workspaces that remember nothing wrong

A workspace is faithful if all that it remembers is what would be found out anew, in every project
that it may still come to analyse: as long as its root is not set, that is any project.

* `Workspace.Faithful`: the invariant.
* `Operation.Computes`: an operation answers as the project does and keeps the invariant; it is
  carried through sequences of operations by `Computes.bind`.
-/

namespace Conformance
set_option autoImplicit false

/-! ## Stores -/

namespace Store

variable {κ ν : Type}

theorem mem_of_mem_room {capacity : Int} {entries : List (κ × ν)} {e : κ × ν}
    (h : e ∈ room capacity entries) : e ∈ entries := by
  induction entries with
  | nil => simp [room] at h
  | cons d rest ih =>
    rw [room] at h
    split at h
    · exact List.mem_cons_of_mem _ (ih h)
    · exact h

/-- What a store holds after an addition it held before, or it is the addition. -/
theorem mem_add {s : Store κ ν} {key : κ} {value : ν} {e : κ × ν}
    (h : e ∈ (s.add key value).entries) : e ∈ s.entries ∨ e = (key, value) := by
  rcases List.mem_append.1 h with h | h
  · exact .inl (mem_of_mem_room h)
  · exact .inr (List.mem_singleton.1 h)

theorem exists_mem_of_get? [DecidableEq κ] {s : Store κ ν} {key : κ} {value : ν}
    (h : s.get? key = some value) : (key, value) ∈ s.entries := by
  obtain ⟨e, he, rfl⟩ := Option.map_eq_some_iff.1 h
  have hk : e.1 = key := by simpa using List.find?_some he
  rw [← hk]
  exact List.mem_of_find?_eq_some he

end Store

/-! ## The invariant -/

namespace Workspace

/-- The root is this one, or it is not set. -/
def Admits (w : Workspace) (r : Path) : Prop := w.root = none ∨ w.root = some r

/-- Everything remembered is what would be found out anew. -/
structure Faithful (files : FileTree) (w : Workspace) : Prop where
  loaded : ∀ s, w.loaded = some s →
    ∀ r, w.Admits r → Project.settings ⟨files, r, w.pinned⟩ = .ok s
  outliners : ∀ e ∈ w.outliners, Outliner.ofLanguage? e.1 = e.2
  outlines : ∀ e ∈ w.outlines.entries, ∀ u, OutlineKey.ofUnit u = e.1 →
    ∀ r, w.Admits r → Project.outline ⟨files, r, w.pinned⟩ u = .ok e.2
  imports : ∀ e ∈ w.imports, ∀ r, w.Admits r →
    Project.importFile ⟨files, r, w.pinned⟩ e.1.specifier e.1.base e.1.language = .ok e.2

/-- The second workspace comes of the first without a change of project: at most, the current
directory was taken for the root. -/
structure Leads (files : FileTree) (w w' : Workspace) : Prop where
  pinned_eq : w'.pinned = w.pinned
  root_eq : w'.root = w.root ∨ (w.root = none ∧ w'.root = some files.current)

variable {files : FileTree} {w w' w'' : Workspace} {r : Path}

theorem faithful_new (root : Option Path) (pinned : Option Settings) (capacity : Int) :
    (new root pinned capacity).Faithful files where
  loaded := by simp [new]
  outliners := by simp [new]
  outlines := by simp [new]
  imports := by simp [new]

namespace Leads

theorem refl (files : FileTree) (w : Workspace) : w.Leads files w := ⟨rfl, .inl rfl⟩

theorem trans (h : w.Leads files w') (h' : w'.Leads files w'') : w.Leads files w'' := by
  refine ⟨h'.pinned_eq.trans h.pinned_eq, ?_⟩
  rcases h.root_eq with e | ⟨e, e'⟩
  · rw [← e]
    exact h'.root_eq
  · rcases h'.root_eq with f | ⟨f, -⟩
    · exact .inr ⟨e, f.trans e'⟩
    · rw [e'] at f
      cases f

/-- A root that is still open afterwards was open before. -/
theorem admits (h : w.Leads files w') (hr : w'.Admits r) : w.Admits r := by
  rcases h.root_eq with e | ⟨e, -⟩
  · rw [Admits, ← e]
    exact hr
  · exact .inl e

/-- The root, or else the current directory, stays open. -/
theorem admits_home (h : w.Leads files w') : w'.Admits (w.root.getD files.current) := by
  rcases h.root_eq with e | ⟨e, e'⟩
  · rw [Admits, e]
    cases w.root <;> simp
  · exact .inr (by rw [e', e]; rfl)

end Leads

namespace Faithful

/-- A root may be set where there is none: what was remembered before holds in every project. -/
theorem set_root (h : w.Faithful files) (hw : w.root = none) (r : Path) :
    ({ w with root := some r } : Workspace).Faithful files where
  loaded s hs r' _ := h.loaded s hs r' (.inl hw)
  outliners := h.outliners
  outlines e he u hu r' _ := h.outlines e he u hu r' (.inl hw)
  imports e he r' _ := h.imports e he r' (.inl hw)

theorem set_loaded (h : w.Faithful files) {s : Settings}
    (hs : ∀ r, w.Admits r → Project.settings ⟨files, r, w.pinned⟩ = .ok s) :
    ({ w with loaded := some s } : Workspace).Faithful files where
  loaded s' hs' := by
    cases hs'
    exact hs
  outliners := h.outliners
  outlines := h.outlines
  imports := h.imports

theorem add_outliner (h : w.Faithful files) (language : Language) :
    ({ w with outliners := (language, Outliner.ofLanguage? language) :: w.outliners } :
      Workspace).Faithful files where
  loaded := h.loaded
  outliners := List.forall_mem_cons.2 ⟨rfl, h.outliners⟩
  outlines := h.outlines
  imports := h.imports

theorem set_stats (h : w.Faithful files) (stats : Stats) :
    ({ w with stats } : Workspace).Faithful files :=
  ⟨h.loaded, h.outliners, h.outlines, h.imports⟩

theorem add_import (h : w.Faithful files) {key : ImportKey} {found : Option String}
    (hk : ∀ r, w.Admits r →
      Project.importFile ⟨files, r, w.pinned⟩ key.specifier key.base key.language = .ok found) :
    ({ w with imports := (key, found) :: w.imports } : Workspace).Faithful files where
  loaded := h.loaded
  outliners := h.outliners
  outlines := h.outlines
  imports e he := by
    rcases List.mem_cons.1 he with rfl | he
    · exact hk
    · exact h.imports e he

theorem add_outline (h : w.Faithful files) {u : Implementation} {o : Option Outline}
    (hu : ∀ r, w.Admits r → Project.outline ⟨files, r, w.pinned⟩ u = .ok o) (stats : Stats) :
    ({ w with outlines := w.outlines.add (.ofUnit u) o, stats } : Workspace).Faithful files where
  loaded := h.loaded
  outliners := h.outliners
  outlines e he v hv r hr := by
    rcases Store.mem_add he with he | rfl
    · exact h.outlines e he v hv r hr
    · rw [Project.outline_congr _ hv]
      exact hu r hr
  imports := h.imports

end Faithful

end Workspace

end Conformance
