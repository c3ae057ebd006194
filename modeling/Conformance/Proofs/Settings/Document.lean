import Conformance.Proofs.Settings.Reading

/-! # Settings in a document

A text is read as the value of its document is, unless that value holds nothing: then it is taken for an
empty mapping, whatever it is.

* `HoldsNothing`: the values that are taken for an empty mapping and are none.
* `ofText_eq_ofValue_iff`: which texts are read as their values are.
-/

namespace Conformance.Settings
set_option autoImplicit false

/-- False, zero, or a text or collection without anything in it. Null and the empty mapping, which may
well stand for no settings, are left out. -/
inductive HoldsNothing : Value → Prop
  | false : HoldsNothing (.bool false)
  | zero : HoldsNothing (.int 0)
  | floatZero {x : Float} (h : (x == 0) = true) : HoldsNothing (.scalar (.float x))
  | text : HoldsNothing (.str "")
  | bytes : HoldsNothing (.scalar (.bytes []))
  | list : HoldsNothing (.list [])
  | tuple : HoldsNothing (.tuple [])
  | set : HoldsNothing (.set [])

variable {s : String} {v : Value} {source : Option String}

theorem isVoid_of_holdsNothing (h : HoldsNothing v) : isVoid v = true := by
  cases h with
  | floatZero h => exact h
  | _ => rfl

theorem isVoid_iff : isVoid v = true ↔ v = .null ∨ v = .map [] ∨ HoldsNothing v := by
  constructor
  · intro h
    cases v with
    | scalar x =>
      cases x with
      | null => exact .inl rfl
      | bool b =>
        cases b with
        | false => exact .inr (.inr .false)
        | true => cases h
      | int n =>
        rw [show n = 0 from by simpa [isVoid] using h]
        exact .inr (.inr .zero)
      | float x => exact .inr (.inr (.floatZero h))
      | str t =>
        rw [show t = "" from String.isEmpty_iff.1 h]
        exact .inr (.inr .text)
      | bytes b =>
        rw [List.isEmpty_iff.1 h]
        exact .inr (.inr .bytes)
      | date | moment => cases h
    | list items =>
      rw [List.isEmpty_iff.1 h]
      exact .inr (.inr .list)
    | tuple items =>
      rw [List.isEmpty_iff.1 h]
      exact .inr (.inr .tuple)
    | set members =>
      rw [List.isEmpty_iff.1 h]
      exact .inr (.inr .set)
    | map entries =>
      rw [List.isEmpty_iff.1 h]
      exact .inr (.inl rfl)
    | cycle => cases h
  · rintro (rfl | rfl | h)
    · rfl
    · rfl
    · exact isVoid_of_holdsNothing h

theorem HoldsNothing.ne_map (h : HoldsNothing v) (entries : Entries) : v ≠ .map entries := by
  rintro rfl
  cases h

theorem ofValue_of_no_map (h : ∀ entries, v ≠ .map entries) : ofValue v source = .error .noMapping :=
  ofValue_of_refuses (.noMapping h)

theorem ofValue_empty : ofValue (.map []) source = .ok { source } :=
  ofValue_eq_ok_iff.2 ⟨[], .top rfl, reads_iff.2 ⟨fun _ _ _ hv => (nomatch hv), rfl⟩⟩

section

variable (hv : Yaml.document s = .ok v)
include hv

theorem ofText_of_not_isVoid (h : isVoid v ≠ true) : ofText s source = ofValue v source := by
  rw [ofText, hv]
  dsimp only
  rw [if_neg h]

theorem ofText_of_isVoid (h : isVoid v = true) : ofText s source = .ok { source } := by
  rw [ofText, hv]
  dsimp only
  rw [if_pos h, ofValue_empty]

/-- **A text is read as its document is.** The settings, or what is wrong with them, are those of the
document's value, so that a document that is no mapping is refused. A document that holds nothing, although
it is no mapping either, is not refused: it gives the default settings. -/
theorem ofText_eq_ofValue_iff (hnull : v ≠ .null) (source : Option String) :
    (ofText s source = ofValue v source ↔ ¬ HoldsNothing v) ∧
    ((∀ entries, v ≠ .map entries) → ¬ HoldsNothing v → ofText s source = .error .noMapping) ∧
    (HoldsNothing v → ofText s source = .ok { source } ∧ ofValue v source = .error .noMapping) ∧
    SettingsError.noMapping.message = "Configuration must be a mapping" := by
  have hnothing (h : HoldsNothing v) :
      ofText s source = .ok { source } ∧ ofValue v source = .error .noMapping :=
    ⟨ofText_of_isVoid hv (isVoid_of_holdsNothing h), ofValue_of_no_map h.ne_map⟩
  have hsomething (h : ¬ HoldsNothing v) : ofText s source = ofValue v source := by
    by_cases hvoid : isVoid v = true
    · rcases isVoid_iff.1 hvoid with hn | rfl | hn
      · exact absurd hn hnull
      · rw [ofText_of_isVoid hv hvoid, ofValue_empty]
      · exact absurd hn h
    · exact ofText_of_not_isVoid hv hvoid
  refine ⟨⟨fun heq h => ?_, hsomething⟩, fun hmap h => ?_, hnothing, rfl⟩
  · obtain ⟨htext, hvalue⟩ := hnothing h
    rw [htext, hvalue] at heq
    cases heq
  · rw [hsomething h]
    exact ofValue_of_no_map hmap

end

/-- A list is refused although its only item holds nothing. -/
theorem ofText_eq_ofValue_of_list :
    Yaml.document "[[]]" = .ok (.list [.list []]) ∧ Value.list [.list []] ≠ .null ∧
      ofText "[[]]" none = ofValue (.list [.list []]) none ∧
      ofText "[[]]" none = .error .noMapping := by
  have hv : Yaml.document "[[]]" = .ok (.list [.list []]) := by rfl
  have hnull : Value.list [.list []] ≠ .null := nofun
  have hholds : ¬ HoldsNothing (.list [.list []]) := nofun
  obtain ⟨hsame, hrefused, -⟩ := ofText_eq_ofValue_iff hv hnull none
  exact ⟨hv, hnull, hsame.2 hholds, hrefused nofun hholds⟩

/-- An empty list is no mapping, and is refused as a value, but not as a text. -/
theorem ofText_accepts_empty_list :
    Yaml.document "[]" = .ok (.list []) ∧ ofText "[]" none = .ok {} ∧
      ofValue (.list []) none = .error .noMapping := by
  have hv : Yaml.document "[]" = .ok (.list []) := by rfl
  exact ⟨hv, ofText_of_isVoid hv rfl, ofValue_of_no_map nofun⟩

end Conformance.Settings
