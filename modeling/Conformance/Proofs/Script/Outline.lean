import Conformance.Script.Outline
import Conformance.Proofs.Script.Tree

/-! # What an outline keeps of a tree

An outline is gathered in one pass: the walk hands over one node after the other, and each adds what
it shows to what was found before.

* `Script.calls`, `handlers`, `imports`: what a list of nodes shows, each kind by itself.
* `Findings.Gathers`: the findings are what the nodes show; `Findings.Gathers.add` for one node more,
  `Findings.Gathers.foldl` for a walk.
* `Script.outline_of_preorder`: an outline against the nodes of its tree in preorder.
-/

namespace Conformance.Script
open Text
set_option autoImplicit false

/-! ## What nodes show -/

def calls (nodes : List Tree) : List Outline.CallSite :=
  (nodes.filter fun t => t.kind = .callExpression).map callSite

def handlers (nodes : List Tree) : List Outline.Handler :=
  (nodes.filter fun t => t.kind = .catchClause).map handler

/-- What a node imports, if it is an import, an export or a call. -/
def specifier? (t : Tree) : Option String :=
  match t.kind with
  | .callExpression => requiredSpecifier? t
  | .importStatement | .exportStatement => sourceSpecifier? t
  | _ => none

def imports (nodes : List Tree) : List Outline.Import :=
  (nodes.filterMap specifier?).map fun s => ⟨s, none⟩

@[simp] theorem calls_singleton (t : Tree) :
    calls [t] = if t.kind = .callExpression then [callSite t] else [] := by
  by_cases h : t.kind = .callExpression <;> simp [calls, h]

@[simp] theorem handlers_singleton (t : Tree) :
    handlers [t] = if t.kind = .catchClause then [handler t] else [] := by
  by_cases h : t.kind = .catchClause <;> simp [handlers, h]

@[simp] theorem imports_singleton (t : Tree) :
    imports [t] = (specifier? t).toList.map fun s => ⟨s, none⟩ := by
  cases h : specifier? t <;> simp [imports, h]

namespace Tree

/-- A member access or a subscript that has a dotted path. -/
def HasPath (t : Tree) (path : String) : Prop :=
  (t.kind = .memberExpression ∨ t.kind = .subscriptExpression) ∧ t.dotted? = some path

/-- A name, or a subscript whose path ends in it. -/
def HasName (t : Tree) (name : String) : Prop :=
  t.kind.isName = true ∧ t.text = name ∨
    t.kind = .subscriptExpression ∧ ∃ path, t.dotted? = some path ∧ lastSegment path = name

/-- A statement with this source, or a call of `require` whose first argument is this text. -/
def Specifies (t : Tree) (specifier : String) : Prop :=
  (t.kind = .importStatement ∨ t.kind = .exportStatement) ∧
      (∃ source, t.child? .source = some source ∧ unquote source.text = specifier) ∨
    t.kind = .callExpression ∧ callee t = "require" ∧
      ∃ arguments first, t.child? .arguments = some arguments ∧
        arguments.namedChildren.head? = some first ∧ first.kind = .string ∧
        unquote first.text = specifier

end Tree

theorem specifier?_eq_some_iff {t : Tree} {specifier : String} :
    specifier? t = some specifier ↔ t.Specifies specifier := by
  unfold specifier? Tree.Specifies
  split
  · next hkind =>
    simp only [hkind, requiredSpecifier?, reduceCtorEq, or_self, false_and, false_or, true_and,
      Option.ite_none_right_eq_some, Option.bind_eq_some_iff, Option.some.injEq]
    apply and_congr_right
    intro _
    constructor
    · rintro ⟨first, ⟨arguments, harguments, hfirst⟩, hstring, htext⟩
      exact ⟨arguments, first, harguments, hfirst, hstring, htext⟩
    · rintro ⟨arguments, first, harguments, hfirst, hstring, htext⟩
      exact ⟨first, ⟨arguments, harguments, hfirst⟩, hstring, htext⟩
  · next hkind => simp [hkind, sourceSpecifier?]
  · next hkind => simp [hkind, sourceSpecifier?]
  · next hcall himport hexport =>
    have hother : t.kind ≠ .callExpression ∧ t.kind ≠ .importStatement ∧
        t.kind ≠ .exportStatement := ⟨hcall, himport, hexport⟩
    simp [hother]

/-! ## One node more -/

namespace Findings

/-- The later findings are the earlier ones and what the node shows. -/
structure Adds (t : Tree) (found found' : Findings) : Prop where
  calls_eq : found'.calls = found.calls ++ Script.calls [t]
  handlers_eq : found'.handlers = found.handlers ++ Script.handlers [t]
  imports_eq : found'.imports = found.imports ++ Script.imports [t]
  mem_memberPaths_iff : ∀ path, path ∈ found'.memberPaths ↔ path ∈ found.memberPaths ∨ t.HasPath path
  mem_identifiers_iff : ∀ name, name ∈ found'.identifiers ↔ name ∈ found.identifiers ∨ t.HasName name

theorem adds_add (found : Findings) (t : Tree) : Adds t found (found.add t) := by
  unfold add
  split
  case h_1 hkind | h_2 hkind | h_3 hkind =>
    constructor <;>
      simp [addIdentifier, specifier?, Tree.HasPath, Tree.HasName, Kind.isName, hkind, or_comm, eq_comm]
  case h_4 hkind =>
    cases hpath : t.dotted? with
    | none => constructor <;> simp [specifier?, Tree.HasPath, Tree.HasName, Kind.isName, hkind, hpath]
    | some path =>
      constructor <;> simp [addMemberPath, specifier?, Tree.HasPath, Tree.HasName, Kind.isName, hkind,
        hpath, or_comm, eq_comm]
  case h_5 hkind =>
    cases hpath : t.dotted? with
    | none => constructor <;> simp [specifier?, Tree.HasPath, Tree.HasName, Kind.isName, hkind, hpath]
    | some path =>
      constructor <;> simp [addMemberPath, addIdentifier, specifier?, Tree.HasPath, Tree.HasName,
        Kind.isName, hkind, hpath, or_comm, eq_comm]
  case h_6 hkind =>
    constructor <;>
      simp [addCall, addImport, specifier?, Tree.HasPath, Tree.HasName, Kind.isName, hkind]
  case h_7 hkind =>
    constructor <;> simp [addHandler, specifier?, Tree.HasPath, Tree.HasName, Kind.isName, hkind]
  case h_8 hkind | h_9 hkind =>
    constructor <;> simp [addImport, specifier?, Tree.HasPath, Tree.HasName, Kind.isName, hkind]
  case h_10 hidentifier hproperty hshorthand hmember hsubscript hcall hcatch himport hexport =>
    have hname : t.kind.isName = false := by
      unfold Kind.isName
      split
      · exact absurd ‹_› hidentifier
      · exact absurd ‹_› hproperty
      · exact absurd ‹_› hshorthand
      · rfl
    have hspecifier : specifier? t = none := by
      unfold specifier?
      split
      · exact absurd ‹_› hcall
      · exact absurd ‹_› himport
      · exact absurd ‹_› hexport
      · rfl
    have hother : t.kind ≠ .memberExpression ∧ t.kind ≠ .subscriptExpression ∧
        t.kind ≠ .callExpression ∧ t.kind ≠ .catchClause := ⟨hmember, hsubscript, hcall, hcatch⟩
    constructor <;> simp [Tree.HasPath, Tree.HasName, hname, hspecifier, hother]

/-- The findings are what the nodes show: calls, handlers and imports in the order of the nodes. -/
structure Gathers (found : Findings) (nodes : List Tree) : Prop where
  calls_eq : found.calls = Script.calls nodes
  handlers_eq : found.handlers = Script.handlers nodes
  imports_eq : found.imports = Script.imports nodes
  mem_memberPaths_iff : ∀ path, path ∈ found.memberPaths ↔ ∃ t ∈ nodes, t.HasPath path
  mem_identifiers_iff : ∀ name, name ∈ found.identifiers ↔ ∃ t ∈ nodes, t.HasName name

theorem gathers_empty : empty.Gathers [] := by
  constructor
  · rfl
  · rfl
  · rfl
  · intro path
    simp [empty]
  · intro name
    simp [empty]

variable {found : Findings} {met : List Tree}

theorem Gathers.add (h : found.Gathers met) (t : Tree) : (found.add t).Gathers (met ++ [t]) := by
  have hadds := adds_add found t
  constructor
  · rw [hadds.calls_eq, h.calls_eq, Script.calls, Script.calls, Script.calls, List.filter_append,
      List.map_append]
  · rw [hadds.handlers_eq, h.handlers_eq, Script.handlers, Script.handlers, Script.handlers,
      List.filter_append, List.map_append]
  · rw [hadds.imports_eq, h.imports_eq, Script.imports, Script.imports, Script.imports,
      List.filterMap_append, List.map_append]
  · intro path
    rw [hadds.mem_memberPaths_iff, h.mem_memberPaths_iff]
    simp [or_and_right, exists_or]
  · intro name
    rw [hadds.mem_identifiers_iff, h.mem_identifiers_iff]
    simp [or_and_right, exists_or]

/-- The walk goes on from nodes that were met already. -/
theorem Gathers.foldl (h : found.Gathers met) (nodes : List Tree) :
    (nodes.foldl Findings.add found).Gathers (met ++ nodes) := by
  induction nodes generalizing found met with
  | nil => rwa [List.append_nil]
  | cons t rest ih =>
    have hrest := ih (h.add t)
    rwa [List.append_assoc, List.singleton_append] at hrest

end Findings

/-! ## The outline -/

variable {root : Tree}

/-- What the walk of an outline finds. -/
theorem gathers_walk (root : Tree) :
    ((root.walk [.formalParameters]).foldl Findings.add Findings.empty).Gathers
      (root.walk [.formalParameters]) :=
  Findings.gathers_empty.foldl _

theorem calls_outline (root : Tree) (hasError : Bool) :
    (outline root hasError).calls = calls (root.walk [.formalParameters]) :=
  (gathers_walk root).calls_eq

/-- **An outline shows the nodes of its tree in preorder.** Whether or not the tree has errors, the
stack of the walk yields each node outside the parameter lists below the root once, parents before
children and these in their order, and the outline shows just what these nodes show: calls, handlers
and imports in this order, one for each node that has one, and the sets of paths and names. -/
theorem outline_of_preorder {recover hasError : Bool} {o : Outline}
    (h : outline? recover root hasError = some o) :
    let nodes := root.preorder [.formalParameters]
    root.walk [.formalParameters] = nodes ∧
    o.calls = (nodes.filter fun t => t.kind = .callExpression).map callSite ∧
    o.handlers = (nodes.filter fun t => t.kind = .catchClause).map handler ∧
    o.imports = (nodes.filterMap specifier?).map (fun specifier => ⟨specifier, none⟩) ∧
    (∀ t specifier, specifier? t = some specifier ↔ t.Specifies specifier) ∧
    (∀ path, path ∈ o.memberPaths ↔ ∃ t ∈ nodes, t.HasPath path) ∧
    ∀ name, name ∈ o.identifiers ↔ ∃ t ∈ nodes, t.HasName name := by
  intro nodes
  have hwalk : root.walk [.formalParameters] = nodes := Tree.walk_eq_preorder root
  have hfound := gathers_walk root
  have ho : o = outline root hasError := by
    unfold outline? at h
    split at h
    · cases h
    · exact (Option.some.inj h).symm
  rw [hwalk] at hfound
  rw [ho, outline, hwalk]
  exact ⟨rfl, hfound.calls_eq, hfound.handlers_eq, hfound.imports_eq,
    fun _ _ => specifier?_eq_some_iff, hfound.mem_memberPaths_iff, hfound.mem_identifiers_iff⟩

/-- `function f(x = g()) {}` with an unreadable `require('fs')` behind it: the call in the parameter
list is passed over, the one in the error is met. -/
theorem outline_of_recovered_preorder :
    let hidden : Tree := .node .callExpression none true "g()" 0
      [.node .identifier (some .function) true "g" 0 []]
    let list : Tree := .node .formalParameters (some .parameters) true "(x = g())" 0 [hidden]
    let function : Tree := .node .functionDeclaration none true "function f(x = g()) {}" 0
      [.node .identifier (some .name) true "f" 0 [], list]
    let arguments : Tree := .node (.other "arguments") (some .arguments) true "('fs')" 0
      [.node .string none true "'fs'" 0 []]
    let call : Tree := .node .callExpression none true "require('fs')" 0
      [.node .identifier (some .function) true "require" 0 [], arguments]
    let root : Tree := .node (.other "program") none true "" 0
      [function, .node (.other "ERROR") none true "" 0 [call]]
    ∃ o, outline? true root true = some o ∧ o.calls = [callSite call] ∧
      o.imports = [⟨"fs", none⟩] ∧ ∀ name, name ∈ o.identifiers ↔ "f" = name ∨ "require" = name := by
  intro hidden list function arguments call root
  have houtline : outline? true root true = some (outline root true) := rfl
  obtain ⟨-, hcalls, -, himports, -, -, hidentifiers⟩ := outline_of_preorder houtline
  refine ⟨outline root true, houtline, hcalls, himports, ?_⟩
  intro name
  rw [hidentifiers]
  simp [root, function, list, call, arguments, Tree.preorder, Tree.nodesAmong, Tree.nodesOf,
    Tree.children, Tree.HasName, Tree.kind, Tree.text, Kind.isName]

end Conformance.Script
