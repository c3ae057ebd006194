import Conformance.Offside.Node

/-! # The nodes of a module

A node holds itself and what its children hold. The walks over a tree meet exactly the nodes that
are held, in whatever order.

* `Node.Holds`, `Module.Holds`: a node is, or stands anywhere below, another one.
* `Node.mem_preorder_iff`, `Module.mem_nodes_iff`: the two walks.
-/

namespace Conformance.Offside
set_option autoImplicit false

variable {ν : Type}

namespace Node

inductive Holds : Node ν → Node ν → Prop
  | self (n : Node ν) : Holds n n
  | inside {n c d : Node ν} : c ∈ n.children → Holds c d → Holds n d

theorem Holds.trans {n c d : Node ν} (h : n.Holds c) (hd : c.Holds d) : n.Holds d := by
  induction h with
  | self => exact hd
  | inside hc _ ih => exact .inside hc (ih hd)

theorem forall_holds_iff {P : Node ν → Prop} {n : Node ν} :
    (∀ d, n.Holds d → P d) ↔ P n ∧ ∀ c ∈ n.children, ∀ d, c.Holds d → P d := by
  constructor
  · exact fun h => ⟨h n (.self n), fun c hc d hd => h d (.inside hc hd)⟩
  · rintro ⟨hn, hchildren⟩ d hd
    cases hd with
    | self => exact hn
    | inside hc hd => exact hchildren _ hc d hd

theorem mem_preorder_iff {n d : Node ν} : d ∈ n.preorder ↔ n.Holds d := by
  constructor
  · intro h
    induction n using preorder.induct with
    | case1 n ih =>
      rw [preorder] at h
      rcases List.mem_cons.1 h with rfl | h
      · exact .self _
      · obtain ⟨c, _, hd⟩ := List.mem_flatMap.1 h
        exact .inside c.2 (ih c hd)
  · intro h
    induction h with
    | self n =>
      rw [preorder]
      exact List.mem_cons_self
    | inside hc _ ih =>
      rw [preorder]
      exact List.mem_cons_of_mem _ (List.mem_flatMap.2 ⟨⟨_, hc⟩, List.mem_attach _ _, ih⟩)

/-! ## Level by level -/

theorem le_foldl_max {α : Type} (f : α → Nat) (l : List α) (k : Nat) :
    k ≤ l.foldl (fun h a => max h (f a)) k ∧
      ∀ a ∈ l, f a ≤ l.foldl (fun h a => max h (f a)) k := by
  induction l generalizing k with
  | nil => exact ⟨Nat.le_refl k, fun a ha => absurd ha List.not_mem_nil⟩
  | cons b l ih =>
    obtain ⟨hk, hl⟩ := ih (max k (f b))
    rw [List.foldl_cons]
    refine ⟨Nat.le_trans (Nat.le_max_left _ _) hk, fun a ha => ?_⟩
    rcases List.mem_cons.1 ha with rfl | ha
    · exact Nat.le_trans (Nat.le_max_right _ _) hk
    · exact hl a ha

theorem height_lt_of_child {n c : Node ν} (h : c ∈ n.children) : c.height < n.height := by
  rw [height.eq_1 n]
  exact (le_foldl_max (fun c : { c // c ∈ n.children } => c.1.height + 1) _ 0).2 ⟨c, h⟩
    (List.mem_attach _ _)

theorem exists_of_mem_levels {depth : Nat} {nodes : List (Node ν)} {d : Node ν}
    (h : d ∈ levels depth nodes) : ∃ n ∈ nodes, n.Holds d := by
  induction depth generalizing nodes with
  | zero => cases h
  | succ depth ih =>
    rw [levels] at h
    rcases List.mem_append.1 h with h | h
    · exact ⟨d, h, .self d⟩
    · obtain ⟨c, hc, hd⟩ := ih h
      obtain ⟨n, hn, hc⟩ := List.mem_flatMap.1 hc
      exact ⟨n, hn, .inside hc hd⟩

/-- As many levels as a node is high show all that it holds. -/
theorem mem_levels {depth : Nat} {nodes : List (Node ν)} {n d : Node ν} (hn : n ∈ nodes)
    (hd : n.Holds d) (hdepth : n.height < depth) : d ∈ levels depth nodes := by
  induction hd generalizing depth nodes with
  | self n =>
    obtain ⟨depth, rfl⟩ := Nat.exists_eq_succ_of_ne_zero (Nat.ne_of_gt (Nat.zero_lt_of_lt hdepth))
    exact List.mem_append_left _ hn
  | inside hc _ ih =>
    obtain ⟨depth, rfl⟩ := Nat.exists_eq_succ_of_ne_zero (Nat.ne_of_gt (Nat.zero_lt_of_lt hdepth))
    have hheight := height_lt_of_child hc
    exact List.mem_append_right _ (ih (List.mem_flatMap.2 ⟨_, hn, hc⟩) (by omega))

end Node

namespace Module

/-- A node stands anywhere in the module. -/
def Holds (m : Module ν) (d : Node ν) : Prop := ∃ s ∈ m.body, s.Holds d

theorem mem_nodes_iff {m : Module ν} {d : Node ν} : d ∈ m.nodes ↔ m.Holds d := by
  refine ⟨Node.exists_of_mem_levels, ?_⟩
  rintro ⟨s, hs, hd⟩
  have hheight := (Node.le_foldl_max (fun n : Node ν => n.height + 1) m.body 0).2 s hs
  exact Node.mem_levels hs hd hheight

end Module

end Conformance.Offside
