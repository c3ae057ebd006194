import Conformance.Proofs.Workspace.Faithful

/-! # Operations answer as the project does

Each operation on a faithful workspace that stays within a project answers as `Project` does, and
leaves the workspace faithful. A lookup in what is remembered agrees with the project by the
invariant; an addition keeps the invariant because what is added was just found out.

* `Operation.Computes`: the statement, with a rule for each way to build an operation.
* `Operation.computes_outline`, `computes_verifyOne`: outlines and results.
-/

namespace Conformance
set_option autoImplicit false

variable {α β : Type}

/-- The answer is the project's, in every project that is still open afterwards. -/
structure Outcome.Tells (files : FileTree) (w : Workspace) (f : Project → Answer α)
    (o : Outcome α) : Prop where
  faithful : o.workspace.Faithful files
  leads : w.Leads files o.workspace
  answer_eq : ∀ r, o.workspace.Admits r → o.answer = f ⟨files, r, w.pinned⟩

namespace Operation

/-! ## Running operations in a row -/

theorem bind_apply (x : Operation α) (f : α → Operation β) (files : FileTree) (w : Workspace) :
    (x >>= f) files w =
      match x files w with
      | ⟨.error e, w, events⟩ => ⟨.error e, w, events⟩
      | ⟨.ok a, w, events⟩ => { f a files w with events := events ++ (f a files w).events } := rfl

section

variable {files : FileTree} {w : Workspace}

/-- The second operation is run in what the first one leaves, where no project is open that was not
open to the first. It may build on what the first one found out. -/
theorem tells_bind {x : Operation α} {f : Project → Answer α} {y : α → Operation β}
    {g : Project → α → Answer β} (hx : (x files w).Tells files w f)
    (hy : ∀ a w', w'.Faithful files → w.Leads files w' →
      (∀ r, w'.Admits r → f ⟨files, r, w'.pinned⟩ = .ok a) →
      (y a files w').Tells files w' fun p => g p a) :
    ((x >>= y) files w).Tells files w fun p => f p >>= g p := by
  rw [bind_apply]
  rcases h : x files w with ⟨e | a, w', events⟩
  all_goals rw [h] at hx
  · refine ⟨hx.faithful, hx.leads, fun r hr => ?_⟩
    dsimp only
    rw [← hx.answer_eq r hr]
    rfl
  · have hy := hy a w' hx.faithful hx.leads fun r hr => by
      rw [hx.leads.pinned_eq]
      exact (hx.answer_eq r hr).symm
    refine ⟨hy.faithful, hx.leads.trans hy.leads, fun r hr => ?_⟩
    -- A project that is open at the end was open in between, so both answers are about it.
    dsimp only
    rw [← hx.answer_eq r (hy.leads.admits hr)]
    exact (hy.answer_eq r hr).trans (by rw [hx.leads.pinned_eq]; rfl)

theorem tells_workspace_bind {y : Workspace → Operation β} {g : Project → Answer β}
    (hy : (y w files w).Tells files w g) : ((workspace >>= y) files w).Tells files w g :=
  ⟨hy.faithful, hy.leads, hy.answer_eq⟩

theorem tells_change {h : Workspace → Workspace} (hf : (h w).Faithful files)
    (hl : w.Leads files (h w)) : (change h files w).Tells files w fun _ => .ok () :=
  ⟨hf, hl, fun _ _ => rfl⟩

theorem tells_congr {f g : Project → Answer α} {o : Outcome α} (ho : o.Tells files w f)
    (h : ∀ r, f ⟨files, r, w.pinned⟩ = g ⟨files, r, w.pinned⟩) : o.Tells files w g :=
  ⟨ho.faithful, ho.leads, fun r hr => (ho.answer_eq r hr).trans (h r)⟩

end

/-- In a faithful workspace the operation answers as the project does. -/
def Computes (x : Operation α) (f : Project → Answer α) : Prop :=
  ∀ files w, w.Faithful files → (x files w).Tells files w f

namespace Computes

protected theorem pure (a : α) : Computes (pure a) fun _ => .ok a :=
  fun files w hw => ⟨hw, .refl files w, fun _ _ => rfl⟩

protected theorem report (events : List Event) : Computes (report events) fun _ => .ok () :=
  fun files w hw => ⟨hw, .refl files w, fun _ _ => rfl⟩

protected theorem fail (e : WorkspaceError) : Computes (fail e : Operation α) fun _ => .error e :=
  fun files w hw => ⟨hw, .refl files w, fun _ _ => rfl⟩

protected theorem ofExcept {ε : Type} (error : ε → WorkspaceError) (x : Except ε α) :
    Computes (ofExcept error x) fun _ => x.mapError error := by
  cases x with
  | ok a => exact .pure a
  | error e => exact .fail (error e)

protected theorem files : Computes files fun p => .ok p.files :=
  fun files w hw => ⟨hw, .refl files w, fun _ _ => rfl⟩

protected theorem count (f : Stats → Stats) : Computes (count f) fun _ => .ok () :=
  fun _ _ hw => tells_change (hw.set_stats _) ⟨rfl, .inl rfl⟩

protected theorem bind {x : Operation α} {f : Project → Answer α} {y : α → Operation β}
    {g : Project → α → Answer β} (hx : Computes x f) (hy : ∀ a, Computes (y a) fun p => g p a) :
    Computes (x >>= y) fun p => f p >>= g p :=
  fun files w hw => tells_bind (hx files w hw) fun a w' hw' _ _ => hy a files w' hw'

protected theorem ite {c : Prop} [Decidable c] {x y : Operation α} {f g : Project → Answer α}
    (hx : Computes x f) (hy : Computes y g) :
    Computes (if c then x else y) fun p => if c then f p else g p := by
  split
  · exact hx
  · exact hy

protected theorem congr {x : Operation α} {f g : Project → Answer α} (hx : Computes x f)
    (h : ∀ p, f p = g p) : Computes x g :=
  fun files w hw => tells_congr (hx files w hw) fun _ => h _

/-- A first part that answers alike in every project can be left out: what follows goes on from its
answer. -/
protected theorem bind_known {x : Operation α} {a : α} {y : α → Operation β} {g : Project → Answer β}
    (hx : Computes x fun _ => .ok a) (hy : Computes (y a) g) : Computes (x >>= y) g := by
  intro files w hw
  refine tells_congr (f := fun p => (Except.ok a : Answer α) >>= fun _ => g p) ?_ fun _ => rfl
  refine tells_bind (hx files w hw) fun b w' hw' hleads hanswer => ?_
  have hb : a = b := Except.ok.inj (hanswer _ hleads.admits_home)
  rw [← hb]
  exact hy files w' hw'

/-- Reports say nothing of the answer. -/
protected theorem report_bind (events : List Event) {x : Operation α} {f : Project → Answer α}
    (hx : Computes x f) : Computes (Operation.report events >>= fun _ => x) f :=
  (Computes.report events).bind_known hx

protected theorem count_bind (c : Stats → Stats) {x : Operation α} {f : Project → Answer α}
    (hx : Computes x f) : Computes (Operation.count c >>= fun _ => x) f :=
  (Computes.count c).bind_known hx

end Computes

/-! ## The project -/

theorem computes_root : Computes root fun p => .ok p.root := by
  intro files w hw
  refine tells_workspace_bind ?_
  cases hr : w.root with
  | some r =>
    refine ⟨hw, .refl files w, fun r' hr' => ?_⟩
    rcases hr' with hr' | hr' <;> cases hr.symm.trans hr'
    rfl
  | none =>
    refine ⟨hw.set_root hr _, ⟨rfl, .inr ⟨hr, rfl⟩⟩, fun r hr => ?_⟩
    rcases hr with hr | hr <;> cases hr
    rfl

theorem computes_loadSettings (root : Path) :
    Computes (loadSettings root) fun p => (Settings.load p.files root).1.mapError .settings :=
  Computes.files.bind fun _ => (Computes.report _).bind fun _ => Computes.ofExcept _ _

/-- Settings that are neither pinned nor loaded are loaded, and remembered. -/
theorem computes_settings : Computes settings Project.settings := by
  intro files w hw
  refine tells_workspace_bind ?_
  cases hp : w.pinned with
  | some s => exact ⟨hw, .refl files w, fun r _ => by rw [hp]; rfl⟩
  | none =>
    cases hl : w.loaded with
    | some s => exact ⟨hw, .refl files w, fun r hr => (hw.loaded s hl r hr).symm⟩
    | none =>
      refine tells_congr
        (f := fun p => Except.ok p.root >>= fun r =>
          (Settings.load p.files r).1.mapError .settings >>= fun s => Except.ok s) ?_ fun r => ?_
      · refine tells_bind (computes_root files w hw) fun r w₁ hw₁ h₁ hr => ?_
        refine tells_bind (computes_loadSettings r files w₁ hw₁) fun s w₂ hw₂ h₂ hs => ?_
        have hset : ∀ r', w₂.Admits r' → Project.settings ⟨files, r', w₂.pinned⟩ = .ok s := by
          intro r' hr'
          have hroot : r' = r := Except.ok.inj (hr r' (h₂.admits hr'))
          rw [hroot, h₂.pinned_eq, h₁.pinned_eq, hp]
          exact hs r' hr'
        exact tells_bind (tells_change (hw₂.set_loaded hset) ⟨rfl, .inl rfl⟩)
          fun _ w₃ hw₃ _ _ => Computes.pure s files w₃ hw₃
      · simp only [Project.settings, hp]
        exact bind_pure ((Settings.load files r).1.mapError WorkspaceError.settings)

/-! ## Imports -/

theorem computes_import? (specifier : String) (base : Path) (language : String) :
    Computes (import? specifier base language) fun p => p.importFile specifier base language := by
  intro files w hw
  refine tells_workspace_bind ?_
  cases hf : w.imports.find? fun e => e.1 = ⟨base, specifier, language⟩ with
  | some e =>
    have hk : e.1 = ⟨base, specifier, language⟩ := by simpa using List.find?_some hf
    refine ⟨hw, .refl files w, fun r hr => ?_⟩
    have he := hw.imports e (List.mem_of_find?_eq_some hf) r hr
    rw [hk] at he
    exact he.symm
  | none =>
    refine tells_congr
      (f := fun p => Except.ok p.files >>= fun t =>
        (resolveImport t specifier base language).mapError .imports >>= fun found =>
          Except.ok () >>= fun _ => Except.ok (found.map Path.toString)) ?_ fun _ => rfl
    dsimp only
    refine tells_bind (Computes.files files w hw) fun t w₁ hw₁ _ ht => ?_
    refine tells_bind (Computes.ofExcept _ _ files w₁ hw₁) fun found w₂ hw₂ h₂ hfound => ?_
    have himport : ∀ r, w₂.Admits r →
        Project.importFile ⟨files, r, w₂.pinned⟩ specifier base language =
          .ok (found.map Path.toString) := by
      intro r hr
      have hfiles : files = t := Except.ok.inj (ht r (h₂.admits hr))
      simp only [Project.importFile]
      rw [hfiles, hfound r hr]
      rfl
    refine tells_bind (tells_change (hw₂.add_import himport) ⟨rfl, .inl rfl⟩)
      fun _ w₃ hw₃ _ _ => ?_
    split
    · exact (Computes.report _).bind (fun _ => .pure _) files w₃ hw₃
    · exact Computes.pure _ files w₃ hw₃

theorem computes_resolveFrom (base : Path) (language : String) (imports : List Outline.Import) :
    Computes (resolveFrom base language imports) fun p => p.resolveFrom base language imports := by
  induction imports with
  | nil => exact .pure []
  | cons i rest ih =>
    have hrest (resolved : Option String) := ih.bind fun rest => .pure (⟨i.specifier, resolved⟩ :: rest)
    unfold resolveFrom Project.resolveFrom
    exact .ite ((computes_import? _ _ _).bind hrest) ((Computes.pure _).bind hrest)

theorem computes_resolveImports (u : Implementation) (imports : List Outline.Import) :
    Computes (resolveImports u imports) fun p => p.resolveImports u imports := by
  unfold resolveImports Project.resolveImports
  refine .ite (Computes.congr
    (f := fun p => Except.ok p.root >>= fun root => Except.ok p.files >>= fun files =>
      p.resolveFrom (Project.importBase files root u) u.language.name imports)
    ?_ fun _ => rfl) (.pure _)
  refine computes_root.bind fun root => Computes.files.bind fun files => ?_
  exact computes_resolveFrom (Project.importBase files root u) _ imports

/-! ## Outlines -/

/-- The outliner is the same in every project. -/
theorem computes_outliner? (language : Language) :
    Computes (outliner? language) fun _ => .ok (Outliner.ofLanguage? language) := by
  intro files w hw
  refine tells_workspace_bind ?_
  cases hf : w.outliners.find? fun e => e.1 = language with
  | some e =>
    have hlanguage : e.1 = language := by simpa using List.find?_some hf
    have houtliner := hw.outliners e (List.mem_of_find?_eq_some hf)
    rw [hlanguage] at houtliner
    rw [houtliner]
    exact Computes.pure e.2 files w hw
  | none =>
    exact tells_bind (f := fun _ => .ok ())
      (tells_change (hw.add_outliner language) ⟨rfl, .inl rfl⟩)
      fun _ w₁ hw₁ _ _ => Computes.pure _ files w₁ hw₁

theorem computes_outlineAnew (u : Implementation) :
    Computes (outlineAnew u) fun p => p.outline u := by
  unfold outlineAnew Project.outline
  refine (computes_outliner? u.language).bind_known ?_
  cases Outliner.ofLanguage? u.language with
  | none => exact .report_bind _ (.pure none)
  | some outliner =>
    refine computes_settings.bind fun settings => ?_
    cases outliner.read settings u.readingPath u.text with
    | refused reason => exact .fail _
    | unreadable => exact .report_bind _ (.pure none)
    | outlined o =>
      exact (computes_resolveImports u _).bind fun imports => .report_bind _ (.pure _)

/-- What was just made may be kept. -/
theorem computes_outline (u : Implementation) : Computes (outline u) fun p => p.outline u := by
  intro files w hw
  refine tells_workspace_bind ?_
  cases hg : w.outlines.get? (.ofUnit u) with
  | some o =>
    have ho := Computes.count_bind (fun s => { s with hits := s.hits + 1 }) (.pure o) files w hw
    exact ⟨ho.faithful, ho.leads, fun r hr =>
      (ho.answer_eq r hr).trans (hw.outlines _ (Store.exists_mem_of_get? hg) u rfl r hr).symm⟩
  | none =>
    refine tells_congr
      (f := fun p => Except.ok () >>= fun _ => p.outline u >>= fun o =>
        Except.ok () >>= fun _ => Except.ok o) ?_ fun r => bind_pure (Project.outline _ u)
    dsimp only
    refine tells_bind (Computes.count _ files w hw) fun _ w₁ hw₁ _ _ => ?_
    refine tells_bind (computes_outlineAnew u files w₁ hw₁) fun o w₂ hw₂ _ ho => ?_
    exact tells_bind (tells_change (hw₂.add_outline ho _) ⟨rfl, .inl rfl⟩)
      fun _ w₃ hw₃ _ _ => Computes.pure o files w₃ hw₃

theorem computes_outlineEach (units : List Implementation) :
    Computes (outlineEach units) fun p => Project.each p.outline units := by
  induction units with
  | nil => exact .pure []
  | cons u rest ih => exact (computes_outline u).bind fun o => ih.bind fun rest => .pure _

theorem computes_outlineAll (units : List Implementation) :
    Computes (outlineAll units) fun p =>
      Project.each p.outline units >>= fun l => .ok (Keyed.ofList l) :=
  (computes_outlineEach units).bind fun l => .pure (Keyed.ofList l)

/-! ## Results -/

theorem computes_verify (settings : Settings) (u : Implementation) (o : Option Outline) :
    Computes (verify settings u o) fun _ => Project.verify settings u o := by
  refine Computes.congr (f := fun _ => Project.verify settings u o >>= Except.ok) ?_
    fun _ => bind_pure _
  exact (Computes.ofExcept _ _).bind fun r => .report_bind _ (.pure r)

theorem verifyOne_none (u : Implementation) :
    verifyOne u none = (outline u >>= fun o => settings >>= fun s => verify s u o) := rfl

theorem verifyOne_some (u : Implementation) (root : Path) :
    verifyOne u (some root) = (configure root >>= fun _ => verifyOne u none) := rfl

theorem computes_verifyOne (u : Implementation) :
    Computes (verifyOne u none) fun p => p.verifyOne u := by
  rw [verifyOne_none]
  exact (computes_outline u).bind fun o => computes_settings.bind fun s => computes_verify s u o

theorem computes_verifyEach (settings : Settings) (outlines : List (String × Option Outline))
    (units : List Implementation) :
    Computes (verifyEach settings outlines units)
      fun _ => Project.each (Project.verifyListed settings outlines) units := by
  induction units with
  | nil => exact .pure []
  | cons u rest ih => exact (computes_verify settings u _).bind fun r => ih.bind fun rest => .pure _

end Operation

end Conformance
