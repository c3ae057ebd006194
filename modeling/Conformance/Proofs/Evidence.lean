import Conformance.Proofs.Settings
import Conformance.Verification

/-! # What a result does not depend on

No rule looks at the imports of an outline, or at where the settings came from.

* `Outline.unlinked`, `Evidence.bare`: without what no rule looks at.
* `Verifier.verify_congr`: the result of a unit is the same with or without.
-/

namespace Conformance
set_option autoImplicit false

/-- The outline without its imports. -/
def Outline.unlinked (o : Outline) : Outline := { o with imports := [] }

/-- The evidence without what no rule looks at. -/
def Evidence.bare (e : Evidence) : Evidence :=
  ⟨e.source, e.outline.map Outline.unlinked, e.settings.unsourced⟩

namespace Rule

/-- The rule looks neither at imports nor at where the settings came from. -/
def LooksAtBare (r : Rule) : Prop :=
  ∀ text category evidence, r.assess text category evidence.bare = r.assess text category evidence

theorem looksAtBare_input : input.LooksAtBare := by
  rintro text category ⟨source, _ | o, settings⟩ <;> rfl

theorem looksAtBare_system : system.LooksAtBare := fun _ _ _ => rfl

theorem looksAtBare_guarantee : guarantee.LooksAtBare := by
  rintro text category ⟨source, _ | o, settings⟩ <;> rfl

theorem assessExposure_bare (text : String) (category : Category) (name : String)
    (evidence : Evidence) :
    assessExposure text category name evidence.bare =
      assessExposure text category name evidence := by
  obtain ⟨source, _ | ⟨language, functions, identifiers, memberPaths, calls, handlers, imports, clean⟩,
    settings⟩ := evidence
  · rfl
  · cases clean <;> rfl

theorem looksAtBare_invariant : invariant.LooksAtBare := by
  intro text category evidence
  simp only [invariant, assessInvariant, assessExposure_bare]

theorem looksAtBare_failureMode : failureMode.LooksAtBare := by
  rintro text category ⟨source, _ | o, settings⟩ <;> rfl

theorem looksAtBare_standard {r : Rule} (h : r ∈ standard) : r.LooksAtBare := by
  simp only [standard, List.mem_cons, List.not_mem_nil, or_false] at h
  rcases h with rfl | rfl | rfl | rfl | rfl
  · exact looksAtBare_input
  · exact looksAtBare_system
  · exact looksAtBare_guarantee
  · exact looksAtBare_invariant
  · exact looksAtBare_failureMode

end Rule

namespace Verifier

theorem assess_bare (settings : Settings) (text : String) (category : Category)
    (evidence : Evidence) :
    ({ settings := settings.unsourced : Verifier }).assess text category evidence.bare =
      ({ settings : Verifier }).assess text category evidence := by
  unfold assess
  dsimp only
  split
  · next r hr => rw [Rule.looksAtBare_standard (List.mem_of_find?_eq_some hr)]
  · rfl

theorem assessAll_bare (settings : Settings) (evidence : Evidence)
    (entries : List (Section × String)) :
    ({ settings := settings.unsourced : Verifier }).assessAll evidence.bare entries =
      ({ settings : Verifier }).assessAll evidence entries := by
  induction entries with
  | nil => rfl
  | cons e rest ih => simp only [assessAll, assess_bare, ih]

theorem verify_bare (settings : Settings) (u : Implementation) (o : Option Outline) :
    ({ settings := settings.unsourced : Verifier }).verify u (o.map Outline.unlinked) =
      ({ settings : Verifier }).verify u o := by
  have h := assessAll_bare settings ⟨u.text, o, settings⟩ u.contract.entries
  unfold Evidence.bare at h
  simp only [verify, h]

theorem verify_congr {settings settings' : Settings} {o o' : Option Outline}
    (hs : settings.unsourced = settings'.unsourced)
    (ho : o.map Outline.unlinked = o'.map Outline.unlinked) (u : Implementation) :
    ({ settings := settings : Verifier }).verify u o =
      ({ settings := settings' : Verifier }).verify u o' := by
  rw [← verify_bare settings, ← verify_bare settings', hs, ho]

end Verifier

end Conformance
