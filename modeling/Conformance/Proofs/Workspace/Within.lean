import Mathlib.Order.Defs.Unbundled
import Conformance.Proofs.Workspace.Answers

/-! # Where operations lead

A reflexive and transitive relation between workspaces holds along an operation if it holds along each
change that the operation makes, wherever the operation breaks off.

* `Operation.Within`: the workspace after the operation is related to the one before it.
* `Workspace.SameBooks`: pinned settings, outlines and counts are the same.
* `Operation.within_outlineAnew`: making an outline leaves these alone; all that it remembers is about
  the project.
-/

namespace Conformance
set_option autoImplicit false

namespace Operation

variable {α β : Type}

/-- Whatever the files, the operation leads to a workspace that is related to the one before it,
whether it is answered or not. -/
def Within (r : Workspace → Workspace → Prop) (x : Operation α) : Prop :=
  ∀ (files : FileTree) (w : Workspace), r w (x files w).workspace

/-! ## The two ends of a first part -/

section

variable {x : Operation α} {y : α → Operation β} {files : FileTree} {w w' : Workspace}
  {events : List Event}

theorem bind_of_error {e : WorkspaceError} (h : x files w = ⟨.error e, w', events⟩) :
    (x >>= y) files w = ⟨.error e, w', events⟩ := by
  rw [bind_apply, h]

/-- Where the first part is answered, the second part gives the answer and the workspace. -/
theorem bind_of_ok {a : α} (h : x files w = ⟨.ok a, w', events⟩) :
    ((x >>= y) files w).answer = (y a files w').answer ∧
      ((x >>= y) files w).workspace = (y a files w').workspace := by
  rw [bind_apply, h]
  exact ⟨rfl, rfl⟩

end

namespace Within

variable {r s : Workspace → Workspace → Prop}

theorem mono {x : Operation α} (hx : Within r x) (h : ∀ w w', r w w' → s w w') : Within s x :=
  fun files w => h w _ (hx files w)

protected theorem change {f : Workspace → Workspace} (h : ∀ w, r w (f w)) : Within r (change f) :=
  fun _ w => h w

variable [IsPreorder Workspace r]

protected theorem pure (a : α) : Within r (pure a) := fun _ w => refl_of r w

protected theorem fail (e : WorkspaceError) : Within r (fail e : Operation α) :=
  fun _ w => refl_of r w

protected theorem ofExcept {ε : Type} (error : ε → WorkspaceError) (x : Except ε α) :
    Within r (ofExcept error x) := by
  cases x with
  | ok a => exact .pure a
  | error e => exact .fail (error e)

protected theorem report (events : List Event) : Within r (report events) := fun _ w => refl_of r w

protected theorem files : Within r files := fun _ w => refl_of r w

protected theorem workspace : Within r workspace := fun _ w => refl_of r w

protected theorem bind {x : Operation α} {y : α → Operation β} (hx : Within r x)
    (hy : ∀ a, Within r (y a)) : Within r (x >>= y) := by
  intro files w
  rcases h : x files w with ⟨e | a, w', events⟩
  all_goals have hw : r w w' := by simpa [h] using hx files w
  -- An operation that fails half way leaves the workspace as its first part left it.
  · rw [bind_of_error h]
    exact hw
  · rw [(bind_of_ok h).2]
    exact trans_of r hw (hy a files w')

/-- The second part leads on from where the first one led. -/
theorem after {x : Operation α} {y : α → Operation β} (hy : ∀ a, Within r (y a))
    (files : FileTree) (w : Workspace) :
    r (x files w).workspace ((x >>= y) files w).workspace := by
  rcases h : x files w with ⟨e | a, w', events⟩
  · rw [bind_of_error h]
    exact refl_of r w'
  · rw [(bind_of_ok h).2]
    exact hy a files w'

end Within

end Operation

/-! ## What finding out about a project leaves alone -/

/-- Pinned settings, outlines and counts are the same. -/
structure Workspace.SameBooks (w w' : Workspace) : Prop where
  pinned_eq : w'.pinned = w.pinned
  outlines_eq : w'.outlines = w.outlines
  stats_eq : w'.stats = w.stats

instance : IsPreorder Workspace Workspace.SameBooks where
  refl _ := ⟨rfl, rfl, rfl⟩
  trans _ _ _ h h' := ⟨h'.pinned_eq.trans h.pinned_eq, h'.outlines_eq.trans h.outlines_eq,
    h'.stats_eq.trans h.stats_eq⟩

namespace Operation
open Workspace (SameBooks)

theorem within_root : Within SameBooks root := by
  refine Within.workspace.bind fun w => ?_
  cases w.root with
  | some r => exact .pure r
  | none =>
    exact Within.files.bind fun _ => .bind (.change fun _ => ⟨rfl, rfl, rfl⟩) fun _ => .pure _

theorem within_loadSettings (root : Path) : Within SameBooks (loadSettings root) :=
  Within.files.bind fun _ => (Within.report _).bind fun _ => .ofExcept _ _

theorem within_settings : Within SameBooks settings := by
  refine Within.workspace.bind fun w => ?_
  cases w.pinned <|> w.loaded with
  | some s => exact .pure s
  | none =>
    refine within_root.bind fun r => (within_loadSettings r).bind fun s => ?_
    exact .bind (.change fun _ => ⟨rfl, rfl, rfl⟩) fun _ => .pure s

theorem within_import? (specifier : String) (base : Path) (language : String) :
    Within SameBooks (import? specifier base language) := by
  refine Within.workspace.bind fun w => ?_
  dsimp only
  split
  · exact .pure _
  · refine Within.files.bind fun files => (Within.ofExcept _ _).bind fun found => ?_
    refine .bind (.change fun _ => ⟨rfl, rfl, rfl⟩) fun _ => ?_
    split
    · exact (Within.report _).bind fun _ => .pure _
    · exact .pure _

theorem within_resolveFrom (base : Path) (language : String) (imports : List Outline.Import) :
    Within SameBooks (resolveFrom base language imports) := by
  induction imports with
  | nil => exact .pure []
  | cons i rest ih =>
    unfold resolveFrom
    split
    · exact (within_import? _ _ _).bind fun _ => ih.bind fun _ => .pure _
    · exact (Within.pure _).bind fun _ => ih.bind fun _ => .pure _

theorem within_resolveImports (u : Implementation) (imports : List Outline.Import) :
    Within SameBooks (resolveImports u imports) := by
  unfold resolveImports
  split
  · exact within_root.bind fun _ => Within.files.bind fun _ => within_resolveFrom _ _ _
  · exact .pure imports

theorem within_outliner? (language : Language) : Within SameBooks (outliner? language) := by
  refine Within.workspace.bind fun w => ?_
  dsimp only
  split
  · exact .pure _
  · exact .bind (.change fun _ => ⟨rfl, rfl, rfl⟩) fun _ => .pure _

theorem within_outlineAnew (u : Implementation) : Within SameBooks (outlineAnew u) := by
  refine (within_outliner? u.language).bind fun found => ?_
  cases found with
  | none => exact (Within.report _).bind fun _ => .pure none
  | some outliner =>
    refine within_settings.bind fun settings => ?_
    split
    · exact .fail _
    · exact (Within.report _).bind fun _ => .pure none
    · refine (within_resolveImports _ _).bind fun _ => ?_
      exact (Within.report _).bind fun _ => .pure _

theorem within_verify (settings : Settings) (u : Implementation) (o : Option Outline) :
    Within SameBooks (verify settings u o) :=
  (Within.ofExcept _ _).bind fun _ => (Within.report _).bind fun _ => .pure _

theorem within_verifyEach (settings : Settings) (outlines : List (String × Option Outline))
    (units : List Implementation) : Within SameBooks (verifyEach settings outlines units) := by
  induction units with
  | nil => exact .pure []
  | cons u rest ih => exact (within_verify _ _ _).bind fun _ => ih.bind fun _ => .pure _

end Operation

end Conformance
