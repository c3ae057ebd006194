import Mathlib.Data.List.TakeWhile
import Conformance.Outline.Reading
import Conformance.Proofs.Text.Normal
import Conformance.Proofs.Text.Parts

/-! # Imports have candidates

Whatever an outliner finds a module to import, there are files that the import may mean: only a
specifier of dots and slashes could leave a module without a name, and what a module imports has an
identifier in it, or is nothing but dots.

* `Path.IsLegible`: what keeps a specifier from being refused.
* `Outliner.exists_importCandidates`: the imports of an outline have candidates.
-/

namespace Conformance
open Text
set_option autoImplicit false

namespace Path

/-! ## Specifiers -/

/-- Nothing but dots, or something besides dots and slashes. -/
def IsLegible (specifier : String) : Prop :=
  (∀ c ∈ specifier.toList, c = '.') ∨ ∃ c ∈ specifier.toList, c ≠ '.' ∧ c ≠ '/'

theorem ne_empty_of_mem_names {s name : String} (h : name ∈ (ofString s).names) : name ≠ "" := by
  simp only [ofString, List.mem_filter, Bool.and_eq_true, bne_iff_ne] at h
  exact h.2.1

theorem names_ofString_ne_nil {s : String} {c : Char} (h : c ∈ s.toList) (hdot : c ≠ '.')
    (hslash : c ≠ '/') : (ofString s).names ≠ [] := by
  obtain ⟨part, hpart, hmem⟩ := (exists_part_iff hslash).2 h
  have hname : String.ofList part ∈ (ofString s).names := by
    refine List.mem_filter.2 ⟨List.mem_map_of_mem hpart, ?_⟩
    simp only [Bool.and_eq_true, bne_iff_ne]
    constructor <;> intro he
    all_goals rw [← String.toList_inj, String.toList_ofList] at he
    · rw [he] at hmem
      exact absurd hmem (by simp)
    · rw [he] at hmem
      exact hdot (by simpa using hmem)
  exact List.ne_nil_of_mem hname

theorem name_child_ne_empty {s : String} (h : (ofString s).names ≠ []) (p : Path) :
    (p.child s).name ≠ "" := by
  have hname : (p.child s).name = (ofString s).name := by
    unfold child join name
    split
    · rfl
    · rw [List.getLast?_append, List.getLast?_eq_some_getLast h, Option.some_or]
  rw [hname, name, List.getLast?_eq_some_getLast h]
  exact ne_empty_of_mem_names (List.getLast_mem h)

theorem exists_moduleCandidates {specifier : String} (h : IsLegible specifier) (base : Path) :
    ∃ l, moduleCandidates specifier base = .ok l := by
  unfold moduleCandidates
  dsimp only
  split
  · exact ⟨_, rfl⟩
  · next hrest =>
    rcases h with h | ⟨c, hc, hdot, hslash⟩
    -- Nothing is left behind the dots, and there is no name to be missing.
    · refine absurd ?_ hrest
      have hnil : specifier.toList.dropWhile (· = '.') = [] :=
        List.dropWhile_eq_nil_iff.2 fun c hc => by simpa using h c hc
      rw [hnil]
      rfl
    -- The character stays behind the dots, and the name that holds it is not dropped.
    · have hmem : c ∈ specifier.toList.dropWhile (· = '.') := by
        rw [← List.takeWhile_append_dropWhile (p := fun c => decide (c = '.')) (l := specifier.toList),
          List.mem_append] at hc
        refine hc.resolve_left fun hc => hdot ?_
        simpa using List.mem_takeWhile_imp hc
      have hnames : (ofString (replaceDots
          (String.ofList (specifier.toList.dropWhile (· = '.'))))).names ≠ [] := by
        refine names_ofString_ne_nil (c := c) ?_ hdot hslash
        rw [replaceDots, String.toList_ofList, String.toList_ofList]
        exact List.mem_map.2 ⟨c, hmem, if_neg hdot⟩
      rw [if_neg]
      · exact ⟨_, rfl⟩
      · rw [String.isEmpty_iff]
        exact name_child_ne_empty hnames _

theorem exists_importCandidates {specifier language : String}
    (h : language = "python" → IsLegible specifier) (base : Path) :
    ∃ l, importCandidates specifier base language = .ok l := by
  unfold importCandidates
  split
  · next hl => exact exists_moduleCandidates (h hl) base
  · exact ⟨_, rfl⟩

end Path

/-! ## Modules -/

namespace Offside

theorem Identifier.isName_normal (i : Identifier) : IsName i.normal.toList :=
  isName_normalIdentifier i.isIdentifier

theorem ModuleName.exists_mem_text (m : ModuleName) :
    ∃ c ∈ m.text.toList, c ≠ '.' ∧ c ≠ '/' := by
  have hname := m.first.isName_normal
  obtain ⟨c, r, hc⟩ := List.exists_cons_of_ne_nil hname.ne_nil
  have hmem : c ∈ m.first.normal.toList := hc ▸ List.mem_cons_self ..
  refine ⟨c, ?_, (hname.behindSlash c hmem).ne_dot, (hname.behindSlash c hmem).ne_slash⟩
  unfold text
  cases m.rest with
  | nil => exact hmem
  | cons i rest =>
    rw [List.map_cons, String.intercalate_cons_cons, String.toList_append, String.toList_append]
    exact List.mem_append_left _ (List.mem_append_left _ hmem)

theorem isLegible_of_mem_specifiers {n : Tree} {specifier : String} (h : specifier ∈ specifiers n) :
    Path.IsLegible specifier := by
  cases n with
  | importModules names =>
    obtain ⟨m, -, rfl⟩ := List.mem_map.1 h
    exact .inr m.exists_mem_text
  | importFrom module level =>
    rw [List.mem_singleton.1 h]
    cases module with
    | none => exact .inl fun c hc => (by simpa using hc : _ ∧ _).2
    | some m =>
      obtain ⟨c, hc, hne⟩ := m.exists_mem_text
      refine .inr ⟨c, ?_, hne⟩
      rw [String.toList_append]
      exact List.mem_append_right _ hc
  | _ => cases h

theorem isLegible_of_mem_imports {m : Module ModuleName} {i : Outline.Import}
    (h : i ∈ (outline m).imports) : Path.IsLegible i.specifier := by
  obtain ⟨s, hs, rfl⟩ := List.mem_map.1 h
  obtain ⟨n, -, hn⟩ := List.mem_flatMap.1 hs
  exact isLegible_of_mem_specifiers hn

end Offside

/-! ## Outlines -/

/-- The imports of an outline have candidates, whatever they are relative to. -/
theorem Outliner.exists_importCandidates {language : Language} {outliner : Outliner}
    (hl : ofLanguage? language = some outliner) {settings : Settings} {path source : String}
    {o : Outline} (ho : outliner.read settings path source = .outlined o) :
    ∀ i ∈ o.imports, ∀ base, ∃ l, Path.importCandidates i.specifier base language.name = .ok l := by
  intro i hi base
  refine Path.exists_importCandidates (fun hname => ?_) base
  cases language with
  | python =>
    cases hl
    simp only [read, readModule] at ho
    split at ho
    · cases ho
    split at ho
    · cases ho
    split at ho
    · cases ho
      exact Offside.isLegible_of_mem_imports hi
    · cases ho
  | _ => exact absurd hname (by decide)

end Conformance
