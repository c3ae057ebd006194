import Conformance.Proofs.Settings
import Conformance.Proofs.Settings.Reading

/-! # One file decides

The settings of a project stand in the first of some files that is there, and no other file has any
effect on them. If none of these files is there, the project has settings in any case: the compiler's
options may change strictness and target, and nothing else.

* `Decides`: the file that settings are read from.
* `movedTo`: what is read from the same file at another path.
* `Offers`, `Adopts`, `FollowsCompiler`: what the compiler's options give, and the settings that are left
  to them.
* `load_from_one_file`: the settings of all directories.
-/

namespace Conformance.Settings
set_option autoImplicit false

variable {α : Type} {files files' : FileTree} {root root' file file' : Path} {name : String}

/-! ## The file that decides -/

/-- Under the name there is something in the directory, and under the names before it there is nothing. -/
def Decides (files : FileTree) (root : Path) (name : String) : Prop :=
  ∃ before after, fileNames = before ++ name :: after ∧ files.exists? (root.child name) = true ∧
    ∀ other ∈ before, files.exists? (root.child other) = false

theorem exists_decides (h : ∃ name ∈ fileNames, files.exists? (root.child name) = true) :
    ∃ name, Decides files root name := by
  obtain ⟨name, hfind⟩ := Option.isSome_iff_exists.1
    (List.find?_isSome (p := fun name => files.exists? (root.child name)).2 h)
  obtain ⟨hname, before, after, hnames, hbefore⟩ := List.find?_eq_some_iff_append.1 hfind
  exact ⟨name, before, after, hnames, hname, fun other hother => by simpa using hbefore other hother⟩

theorem Decides.file?_eq (h : Decides files root name) : file? files root = some (root.child name) := by
  obtain ⟨before, after, hnames, hname, hbefore⟩ := h
  have hfind : (fileNames.find? fun name => files.exists? (root.child name)) = some name := by
    refine List.find?_eq_some_iff_append.2 ⟨hname, before, after, hnames, fun other hother => ?_⟩
    rw [hbefore other hother]
    rfl
  rw [Settings.file?_eq, hfind]
  rfl

theorem Decides.load_eq (h : Decides files root name) :
    load files root = (ofFile files (root.child name), [.settingsFound (root.child name)]) := by
  rw [load, h.file?_eq]

theorem file?_eq_none (h : ∀ name ∈ fileNames, files.exists? (root.child name) = false) :
    file? files root = none := by
  rw [Settings.file?_eq, List.find?_eq_none.2 fun name hname => by rw [h name hname]; decide]
  rfl

/-- What is read from the same file at another path: settings name that path, and so does the complaint
that the file cannot be read. -/
def movedTo (file : Path) : Except SettingsError Settings → Except SettingsError Settings
  | .ok s => .ok { s with source := some file.toString }
  | .error (.unreadable _) => .error (.unreadable file.toString)
  | .error e => .error e

theorem Refuses.ne_unreadable {v : Value} {e : SettingsError} (h : Refuses v e) (path : String) :
    e ≠ .unreadable path := by
  rintro rfl
  cases h

theorem ofText_ne_unreadable (s path : String) (source : Option String) :
    ofText s source ≠ .error (.unreadable path) := by
  unfold ofText
  split
  · exact fun h => (ofValue_eq_error_iff.1 h).ne_unreadable path rfl
  · nofun

theorem ofText_movedTo (s : String) (file : Path) (source : Option String) :
    ofText s (some file.toString) = movedTo file (ofText s source) := by
  rw [ofText_sourced s source]
  cases h : ofText s source with
  | ok settings => rfl
  | error e =>
    cases e with
    | unreadable path => exact absurd h (ofText_ne_unreadable s path source)
    | _ => rfl

theorem ofFile_movedTo (h : files'.entry? file' = files.entry? file) :
    ofFile files' file' = movedTo file' (ofFile files file) := by
  have htext : files'.text? file' = files.text? file := by rw [FileTree.text?, FileTree.text?, h]
  rw [ofFile, ofFile, htext]
  cases files.text? file with
  | some s => exact ofText_movedTo s file' _
  | none => rfl

/-- A file's settings name it already. -/
theorem movedTo_ofFile (files : FileTree) (file : Path) :
    movedTo file (ofFile files file) = ofFile files file :=
  (ofFile_movedTo rfl).symm

/-! ## The compiler's options -/

/-- The options of the compiler have the value under the key: their file can be read, it holds a mapping,
and so are the options in it. -/
def Offers (files : FileTree) (root : Path) (key : String) (v : Value) : Prop :=
  ∃ text document options, files.text? (root.child compilerFileName) = some text ∧
    Json.read? text = some (.map document) ∧
    Value.lookup? document "compilerOptions" = some (.map options) ∧
    Value.lookup? options key = some v

/-- What the options have under the key is adopted if it is of the right type; else it is the default. -/
def Adopts (write : α → Value) (files : FileTree) (root : Path) (key : String) (default a : α) : Prop :=
  Offers files root key (write a) ∨ (∀ b, ¬ Offers files root key (write b)) ∧ a = default

/-- The settings of a project that leaves them to the compiler's options, the defaults being those of
`Settings`. -/
structure FollowsCompiler (files : FileTree) (root : Path) (s : Settings) : Prop where
  strict : Adopts Value.bool files root "strict" ({} : Settings).strict s.strict
  target : Adopts Value.str files root "target" ({} : Settings).target s.target
  declaration : s.declaration = false
  recoverSyntaxErrors : s.recoverSyntaxErrors = false
  defaultLanguage : s.defaultLanguage = ({} : Settings).defaultLanguage
  logSinks : s.logSinks = ({} : Settings).logSinks
  safeCalls : s.safeCalls = ({} : Settings).safeCalls

/-- The options in a file, empty if there are none that can be read. -/
def optionsIn (files : FileTree) (file : Path) : Entries :=
  (((files.text? file).bind Json.read?).bind compilerOptions?).getD []

theorem lookup?_compilerOptions?_iff {document v : Value} {key : String} :
    Value.lookup? ((compilerOptions? document).getD []) key = some v ↔
      ∃ entries options, document = .map entries ∧
        Value.lookup? entries "compilerOptions" = some (.map options) ∧
        Value.lookup? options key = some v := by
  have hempty : Value.lookup? [] key ≠ some v := nofun
  constructor
  · intro h
    unfold compilerOptions? at h
    split at h
    · next entries =>
      split at h
      · exact absurd h hempty
      · exact absurd h hempty
      · next options hoptions => exact ⟨entries, options, rfl, hoptions, h⟩
      · exact absurd h hempty
    · exact absurd h hempty
  · rintro ⟨entries, options, rfl, hoptions, hv⟩
    rw [compilerOptions?, hoptions]
    exact hv

theorem offers_iff {key : String} {v : Value} : Offers files root key v ↔
    Value.lookup? (optionsIn files (root.child compilerFileName)) key = some v := by
  unfold Offers optionsIn
  cases files.text? (root.child compilerFileName) with
  | none => simp [Value.lookup?]
  | some text =>
    cases hread : Json.read? text with
    | none => simp [Value.lookup?, hread]
    | some document =>
      simp only [Option.bind_some, hread, lookup?_compilerOptions?_iff]
      simp [hread]

theorem Form.adopts_setting (f : Form α) (key : String) (default : α) :
    Adopts f.write files root key default
      (f.setting (optionsIn files (root.child compilerFileName)) key default) := by
  unfold Adopts Form.setting
  simp only [offers_iff]
  cases Value.lookup? (optionsIn files (root.child compilerFileName)) key with
  | none => exact .inr ⟨nofun, rfl⟩
  | some v =>
    cases hv : f.read? v with
    | some a =>
      rw [Option.bind_some, hv, Option.getD_some, f.read?_eq_some_iff.1 hv]
      exact .inl rfl
    | none =>
      rw [Option.bind_some, hv]
      refine .inr ⟨fun b hb => ?_, rfl⟩
      rw [f.read?_eq_some_iff.2 (Option.some.inj hb)] at hv
      cases hv

/-- The settings under some options, if wrong types are passed over. -/
def underOptions (options : Entries) (source : Option String) : Settings where
  strict := Form.truth.setting options "strict" ({} : Settings).strict
  target := Form.text.setting options "target" ({} : Settings).target
  source := source

theorem ofCompilerOptions_eq (file : Path) (options : Entries) :
    (ofCompilerOptions file options).1 = underOptions options (some file.toString) := by
  unfold ofCompilerOptions underOptions Form.setting
  rcases Value.lookup? options "strict" with _ | ⟨⟨⟩⟩ | _ | _ | _ | _
  all_goals rcases Value.lookup? options "target" with _ | ⟨⟨⟩⟩ | _ | _ | _ | _
  all_goals rfl

theorem followsCompiler_underOptions (files : FileTree) (root : Path) (source : Option String) :
    FollowsCompiler files root
      (underOptions (optionsIn files (root.child compilerFileName)) source) where
  strict := Form.truth.adopts_setting _ _
  target := Form.text.adopts_setting _ _
  declaration := rfl
  recoverSyntaxErrors := rfl
  defaultLanguage := rfl
  logSinks := rfl
  safeCalls := rfl

theorem exists_ofCompilerFile_eq (files : FileTree) (file : Path) :
    ∃ source, (ofCompilerFile files file).1 = underOptions (optionsIn files file) source := by
  unfold ofCompilerFile optionsIn
  cases (files.text? file).bind Json.read? with
  | none => exact ⟨none, rfl⟩
  | some document =>
    dsimp only [Option.bind_some]
    cases compilerOptions? document with
    | none => exact ⟨none, rfl⟩
    | some options => exact ⟨_, ofCompilerOptions_eq file options⟩

theorem optionsIn_of_missing (h : files.exists? file = false) : optionsIn files file = [] := by
  have hentry : files.entry? file = none := by simpa [FileTree.exists?] using h
  rw [optionsIn, FileTree.text?, hentry]
  rfl

theorem exists_load_followsCompiler
    (h : ∀ name ∈ fileNames, files.exists? (root.child name) = false) :
    ∃ s, (load files root).1 = .ok s ∧ FollowsCompiler files root s := by
  unfold load
  rw [file?_eq_none h]
  dsimp only
  by_cases hthere : files.exists? (root.child compilerFileName) = true
  · rw [if_pos hthere]
    obtain ⟨source, hsettings⟩ := exists_ofCompilerFile_eq files (root.child compilerFileName)
    exact ⟨_, rfl, hsettings ▸ followsCompiler_underOptions files root source⟩
  · rw [if_neg hthere]
    have hfollows := followsCompiler_underOptions files root none
    rw [optionsIn_of_missing (Bool.eq_false_iff.2 hthere)] at hfollows
    exact ⟨_, rfl, hfollows⟩

/-! ## Directories -/

/-- **One file decides about the settings of a directory.** Where there is one of the files, there is one
that decides. Two directories in which the same file decides, and has the same content, have the same
settings or the same fault, whatever other files there are; only the name of the file differs if the
directories do. Where none of the files is there, there are settings in any case, and they are left to the
compiler's options. -/
theorem load_from_one_file :
    (∀ files root, (∃ name ∈ fileNames, files.exists? (root.child name) = true) →
      ∃ name, Decides files root name) ∧
    (∀ files files' root root' name, Decides files root name → Decides files' root' name →
      files'.entry? (root'.child name) = files.entry? (root.child name) →
      (load files' root').1 = movedTo (root'.child name) (load files root).1 ∧
      (root' = root → load files' root' = load files root)) ∧
    ∀ files root, (∀ name ∈ fileNames, files.exists? (root.child name) = false) →
      ∃ s, (load files root).1 = .ok s ∧ FollowsCompiler files root s := by
  refine ⟨fun files root h => exists_decides h, fun files files' root root' name h h' hentry => ?_,
    fun files root h => exists_load_followsCompiler h⟩
  have hmoved := ofFile_movedTo hentry
  rw [h.load_eq, h'.load_eq]
  refine ⟨hmoved, ?_⟩
  rintro rfl
  rw [hmoved, movedTo_ofFile]

/-- The file that decides is the second one, and a directory in the place of the third has no effect.
Without any of them, a target that is no text is passed over. -/
theorem load_from_one_file_beside_others :
    let root : Path := .ofString "/p"
    let strict : Location × Entry := ([".glass.yaml", "p"], .file "strict: false".toUTF8)
    let compiler : Location × Entry := (["tsconfig.json", "p"],
      .file "\x7b\"compilerOptions\":\x7b\"strict\":false,\"target\":6\x7d\x7d".toUTF8)
    let files : FileTree := ⟨[(["p"], .directory), strict, compiler], root⟩
    let files' : FileTree :=
      ⟨[(["p"], .directory), strict, (["glass.config.yml", "p"], .directory)], root⟩
    let bare : FileTree := ⟨[(["p"], .directory), compiler], root⟩
    Decides files root ".glass.yaml" ∧ Decides files' root ".glass.yaml" ∧
      load files' root = load files root ∧
      ∃ s, (load bare root).1 = .ok s ∧ s.strict = false ∧ s.target = "ES2020" := by
  intro root strict compiler files files' bare
  have hdecides : Decides files root ".glass.yaml" :=
    ⟨[".glass.yml"], ["glass.config.yml"], rfl, by decide, by decide⟩
  have hdecides' : Decides files' root ".glass.yaml" :=
    ⟨[".glass.yml"], ["glass.config.yml"], rfl, by decide, by decide⟩
  have hone := load_from_one_file.2.1 files files' root root ".glass.yaml" hdecides hdecides' rfl
  obtain ⟨s, hs, hfollows⟩ := load_from_one_file.2.2 bare root (by decide)
  have hoptions : optionsIn bare (root.child compilerFileName) =
      [(.str "strict", .bool false), (.str "target", .int 6)] := by rfl
  refine ⟨hdecides, hdecides', hone.2 rfl, s, hs, ?_, ?_⟩
  · rcases hfollows.strict with hoffer | ⟨hno, -⟩
    · rw [offers_iff, hoptions] at hoffer
      exact (Scalar.bool.inj (Value.scalar.inj (Option.some.inj hoffer))).symm
    · exact absurd (offers_iff.2 (hoptions ▸ rfl)) (hno false)
  · rcases hfollows.target with hoffer | ⟨-, hdefault⟩
    · rw [offers_iff, hoptions] at hoffer
      cases hoffer
    · exact hdefault

end Conformance.Settings
