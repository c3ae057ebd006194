import Conformance.Script.Tree

/-! # The nodes of a script

* `Tree.Holds`: a node is, or stands anywhere below, another one.
* `Tree.Shows`, `Tree.Hides`: a node is the root or stands below it outside parameter lists; a node
  stands in a parameter list. `Holds.shows_or_hides`: there is nothing else.
* `Tree.preorder`: a node with all nodes below it, by recursion on the tree. Nodes of the pruned kinds
  stand for themselves alone.
* `Tree.walk_eq_preorder`: the stack of a walk yields the nodes in this order.
* `Tree.mem_walk_iff`, `Tree.mem_walk_parameters_iff`: what the two walks of an outline meet.
-/

namespace Conformance.Script.Tree
set_option autoImplicit false

inductive Holds : Tree → Tree → Prop
  | self (t : Tree) : Holds t t
  | inside {t c d : Tree} : c ∈ t.children → Holds c d → Holds t d

/-- A way down that enters no parameter list. -/
inductive Opens : Tree → Tree → Prop
  | self (t : Tree) : Opens t t
  | inside {t c d : Tree} : t.kind ≠ .formalParameters → c ∈ t.children → Opens c d → Opens t d

/-- The root, whatever it is, or a node below it that is reached through no parameter list. -/
def Shows (root d : Tree) : Prop := d = root ∨ ∃ c ∈ root.children, c.Opens d

/-- The node stands in a parameter list below the root. -/
def Hides (root d : Tree) : Prop :=
  ∃ c ∈ root.children, ∃ list, c.Holds list ∧ list.kind = .formalParameters ∧
    ∃ e ∈ list.children, e.Holds d

theorem Holds.trans {t c d : Tree} (h : t.Holds c) (hd : c.Holds d) : t.Holds d := by
  induction h with
  | self => exact hd
  | inside hc _ ih => exact .inside hc (ih hd)

theorem Opens.holds {t d : Tree} (h : t.Opens d) : t.Holds d := by
  induction h with
  | self => exact .self _
  | inside _ hc _ ih => exact .inside hc ih

theorem Holds.opens_or_exists {t d : Tree} (h : t.Holds d) :
    t.Opens d ∨ ∃ list, t.Holds list ∧ list.kind = .formalParameters ∧
      ∃ e ∈ list.children, e.Holds d := by
  induction h with
  | self t => exact .inl (.self t)
  | @inside t c d hc hd ih =>
    by_cases hkind : t.kind = .formalParameters
    · exact .inr ⟨t, .self t, hkind, c, hc, hd⟩
    · rcases ih with hopens | ⟨list, hlist, h⟩
      · exact .inl (.inside hkind hc hopens)
      · exact .inr ⟨list, .inside hc hlist, h⟩

/-- What the root does not show, parameter lists hide. -/
theorem Holds.shows_or_hides {root d : Tree} (h : root.Holds d) : root.Shows d ∨ root.Hides d := by
  cases h with
  | self => exact .inl (.inl rfl)
  | inside hc hd =>
    rcases hd.opens_or_exists with hopens | hlist
    · exact .inl (.inr ⟨_, hc, hopens⟩)
    · exact .inr ⟨_, hc, hlist⟩

/-! ## Preorder -/

mutual

/-- The node and, unless it is pruned, the nodes below its children, one child after the other. -/
def nodesOf (prune : List Kind) : Tree → List Tree
  | node k f n t r cs => node k f n t r cs :: (if k ∈ prune then [] else nodesAmong prune cs)

def nodesAmong (prune : List Kind) : List Tree → List Tree
  | [] => []
  | c :: cs => nodesOf prune c ++ nodesAmong prune cs

end

/-- The root, which is entered whatever its kind, and the nodes below it. -/
def preorder (prune : List Kind) (root : Tree) : List Tree := root :: nodesAmong prune root.children

variable {prune : List Kind}

theorem nodesOf_eq (t : Tree) :
    t.nodesOf prune = t :: (if t.kind ∈ prune then [] else nodesAmong prune t.children) := by
  cases t
  rw [nodesOf]
  rfl

theorem nodesAmong_eq (l : List Tree) : nodesAmong prune l = l.flatMap (nodesOf prune) := by
  induction l with
  | nil => rw [nodesAmong, List.flatMap_nil]
  | cons c l ih => rw [nodesAmong, List.flatMap_cons, ih]

theorem sizeOf_lt_of_mem_children {t c : Tree} (h : c ∈ t.children) : sizeOf c < sizeOf t := by
  cases t with
  | node k f n text row cs =>
    have hlt : sizeOf c < sizeOf cs := List.sizeOf_lt_of_mem h
    rw [node.sizeOf_spec]
    omega

/-! ## The stack -/

/-- What lies on the stack stands for the nodes below it: a step takes one node off and leaves what
the recursion would go on with. -/
theorem walkFrom_eq_nodesAmong (stack : List Tree) : walkFrom prune stack = nodesAmong prune stack := by
  induction stack using walkFrom.induct prune with
  | case1 => rw [walkFrom, nodesAmong]
  | case2 t stack ih =>
    simp only [dite_eq_ite] at ih
    rw [walkFrom, ih, nodesAmong, nodesOf_eq, List.cons_append]
    congr 1
    by_cases h : t.kind ∈ prune
    · rw [if_pos h, if_pos h, List.nil_append]
    · rw [if_neg h, if_neg h, pushAll_reverse, nodesAmong_eq, nodesAmong_eq, nodesAmong_eq,
        List.flatMap_append]

theorem walk_eq_preorder (root : Tree) : root.walk prune = root.preorder prune := by
  rw [walk, preorder, walkFrom_eq_nodesAmong, pushAll_reverse, List.append_nil]

/-! ## The nodes that are met -/

/-- A way down that enters no pruned node. -/
inductive Reaches (prune : List Kind) : Tree → Tree → Prop
  | self (t : Tree) : Reaches prune t t
  | inside {t c d : Tree} : t.kind ∉ prune → c ∈ t.children → Reaches prune c d → Reaches prune t d

theorem mem_nodesOf_iff {t d : Tree} : d ∈ t.nodesOf prune ↔ t.Reaches prune d := by
  constructor
  · intro h
    rw [nodesOf_eq, List.mem_cons] at h
    rcases h with rfl | h
    · exact .self _
    · split at h
      · cases h
      · next hkind =>
        rw [nodesAmong_eq, List.mem_flatMap] at h
        obtain ⟨c, hc, hd⟩ := h
        exact .inside hkind hc (mem_nodesOf_iff.1 hd)
  · intro h
    induction h with
    | self t =>
      rw [nodesOf_eq]
      exact List.mem_cons_self
    | @inside t c d hkind hc _ ih =>
      rw [nodesOf_eq, if_neg hkind, nodesAmong_eq]
      exact List.mem_cons_of_mem _ (List.mem_flatMap.2 ⟨c, hc, ih⟩)
termination_by sizeOf t
decreasing_by exact sizeOf_lt_of_mem_children hc

theorem mem_preorder_iff {root d : Tree} :
    d ∈ root.preorder prune ↔ d = root ∨ ∃ c ∈ root.children, c.Reaches prune d := by
  rw [preorder, List.mem_cons, nodesAmong_eq, List.mem_flatMap]
  simp only [mem_nodesOf_iff]

theorem reaches_nil_iff {t d : Tree} : t.Reaches [] d ↔ t.Holds d := by
  constructor
  · intro h
    induction h with
    | self t => exact .self t
    | inside _ hc _ ih => exact .inside hc ih
  · intro h
    induction h with
    | self t => exact .self t
    | inside hc _ ih => exact .inside List.not_mem_nil hc ih

theorem reaches_parameters_iff {t d : Tree} : t.Reaches [.formalParameters] d ↔ t.Opens d := by
  constructor
  · intro h
    induction h with
    | self t => exact .self t
    | inside hkind hc _ ih => exact .inside (fun h => hkind (List.mem_singleton.2 h)) hc ih
  · intro h
    induction h with
    | self t => exact .self t
    | inside hkind hc _ ih => exact .inside (fun h => hkind (List.mem_singleton.1 h)) hc ih

/-- A walk without pruning meets all nodes. -/
theorem mem_walk_iff {t d : Tree} : d ∈ t.walk [] ↔ t.Holds d := by
  rw [walk_eq_preorder, mem_preorder_iff]
  simp only [reaches_nil_iff]
  constructor
  · rintro (rfl | ⟨c, hc, hd⟩)
    · exact .self _
    · exact .inside hc hd
  · intro h
    cases h with
    | self => exact .inl rfl
    | inside hc hd => exact .inr ⟨_, hc, hd⟩

theorem mem_walk_parameters_iff {root d : Tree} :
    d ∈ root.walk [.formalParameters] ↔ root.Shows d := by
  rw [walk_eq_preorder, mem_preorder_iff]
  simp only [reaches_parameters_iff]
  exact Iff.rfl

end Conformance.Script.Tree
