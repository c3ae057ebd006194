import Conformance.Proofs.FileTree
import Conformance.Settings.Loading

/-! # Settings of one directory

A directory may be reached under several paths. The settings loaded under two of them differ in the
name of the file they came from, and in nothing else.
-/

namespace Conformance.Settings
set_option autoImplicit false

/-- The settings without the name of the file they came from. -/
def unsourced (s : Settings) : Settings := { s with source := none }

/-- Where settings come from has no effect on the others. -/
theorem ofEntries_sourced (entries : Entries) (source other : Option String) :
    ofEntries entries other = (fun s => { s with source := other }) <$> ofEntries entries source := by
  simp only [ofEntries, map_bind, map_pure]

theorem ofValue_sourced (v : Value) (source other : Option String) :
    ofValue v other = (fun s => { s with source := other }) <$> ofValue v source := by
  unfold ofValue
  split
  · split
    · exact ofEntries_sourced _ _ _
    · exact ofEntries_sourced _ _ _
    · exact ofEntries_sourced _ _ _
    · rfl
  · rfl

theorem ofText_sourced (s : String) (source other : Option String) :
    ofText s other = (fun s => { s with source := other }) <$> ofText s source := by
  unfold ofText
  split
  · exact ofValue_sourced _ _ _
  · rfl

theorem ofText_unsourced (s : String) (source other : Option String) :
    unsourced <$> ofText s source = unsourced <$> ofText s other :=
  (ofText_sourced s source none).symm.trans (ofText_sourced s other none)

theorem ofCompilerOptions_unsourced (file other : Path) (options : Entries) :
    (ofCompilerOptions file options).1.unsourced = (ofCompilerOptions other options).1.unsourced := by
  unfold ofCompilerOptions
  rcases Value.lookup? options "strict" with _ | ⟨⟨⟩⟩ | _ | _ | _ | _
  all_goals rcases Value.lookup? options "target" with _ | ⟨⟨⟩⟩ | _ | _ | _ | _
  all_goals rfl

variable {files : FileTree} {root other : Path}

theorem file?_eq (files : FileTree) (root : Path) :
    file? files root =
      (fileNames.find? fun name => files.exists? (root.child name)).map root.child := by
  rw [file?, List.find?_map]
  rfl

theorem ofFile_unsourced {file other : Path} (h : files.text? file = files.text? other) :
    (unsourced <$> ofFile files file).toOption = (unsourced <$> ofFile files other).toOption := by
  unfold ofFile
  rw [h]
  split
  · rw [ofText_unsourced]
  · rfl

theorem ofCompilerFile_unsourced {file other : Path} (h : files.text? file = files.text? other) :
    (ofCompilerFile files file).1.unsourced = (ofCompilerFile files other).1.unsourced := by
  unfold ofCompilerFile
  rw [h]
  split
  · rfl
  · split
    · rfl
    · exact ofCompilerOptions_unsourced _ _ _

theorem load_unsourced (h : files.location? root = files.location? other) :
    (unsourced <$> (load files root).1).toOption = (unsourced <$> (load files other).1).toOption := by
  have hnames : (fileNames.find? fun name => files.exists? (root.child name)) =
      fileNames.find? fun name => files.exists? (other.child name) := by
    simp only [FileTree.exists?_child h]
  unfold load
  rw [file?_eq, file?_eq, hnames]
  cases fileNames.find? fun name => files.exists? (other.child name) with
  | some name => exact ofFile_unsourced (FileTree.text?_child h name)
  | none =>
    simp only [Option.map_none]
    rw [FileTree.exists?_child h]
    split
    · have hfile := ofCompilerFile_unsourced (FileTree.text?_child h compilerFileName)
      exact congrArg some hfile
    · rfl

/-- Settings that can be used under one path can be used under the other. -/
theorem exists_load (h : files.location? root = files.location? other) {settings : Settings}
    (hs : (load files root).1 = .ok settings) :
    ∃ settings', (load files other).1 = .ok settings' ∧
      settings'.unsourced = settings.unsourced := by
  have heq := load_unsourced h
  rw [hs] at heq
  cases ho : (load files other).1 with
  | error e =>
    rw [ho] at heq
    cases heq
  | ok settings' =>
    rw [ho] at heq
    exact ⟨settings', rfl, (Option.some.inj heq).symm⟩

end Conformance.Settings
