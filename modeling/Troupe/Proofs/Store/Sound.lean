import Mathlib.Algebra.Order.BigOperators.Group.List
import Mathlib.Algebra.Order.Group.Nat
import Mathlib.Data.Finset.Card
import Mathlib.Logic.Relation
import Troupe.Store.Basic

/-!
# Sound stores

A store is sound when children name nodes, some ranking of the nodes falls from
parent to child, and no map repeats a key.  The ranking is what a new link needs:
if the target cannot be reached from the child, all nodes above the target may be
ranked higher than the child.

New nodes and new contents of a node keep a store sound as long as no child
reaches the node that it is placed in.
-/

namespace Troupe

def Node.UniqueKeys : Node -> Prop
  | map entries => Entries.Unique entries
  | _ => True

namespace Store

open Relation

/-!
## Nodes of changed stores
-/

theorem size_alloc (s : Store) (n : Node) : (s.alloc n).2.size = s.size + 1 := by
  simp [alloc, size]

theorem size_write (s : Store) (h : Handle) (n : Node) : (s.write h n).size = s.size := by
  simp [write, size]

theorem node_alloc_self (s : Store) (n : Node) : (s.alloc n).2.node s.size = n := by
  simp [alloc, node, size]

theorem node_alloc_of_ne {s : Store} {n : Node} {h : Handle} (hne : h ≠ s.size) :
    (s.alloc n).2.node h = s.node h := by
  unfold alloc node
  have hpush : h ≠ s.nodes.size := hne
  rw [Array.getD_eq_getD_getElem?, Array.getD_eq_getD_getElem?, Array.getElem?_push,
    if_neg hpush]

theorem node_of_size_le {s : Store} {h : Handle} (hsize : s.size ≤ h) : s.node h = Node.null := by
  unfold node
  rw [Array.getD_eq_getD_getElem?, Array.getElem?_eq_none hsize]
  rfl

theorem node_alloc_null (s : Store) (h : Handle) : (s.alloc Node.null).2.node h = s.node h := by
  by_cases hself : h = s.size
  · rw [hself, node_alloc_self, node_of_size_le (Nat.le_refl _)]
  · exact node_alloc_of_ne hself

theorem node_write_self {s : Store} {h : Handle} {n : Node} (hsize : h < s.size) :
    (s.write h n).node h = n := by
  unfold write node
  rw [Array.getD_eq_getD_getElem?, Array.getElem?_setIfInBounds_self_of_lt hsize]
  rfl

theorem node_write_of_ne {s : Store} {h h' : Handle} {n : Node} (hne : h' ≠ h) :
    (s.write h n).node h' = s.node h' := by
  unfold write node
  rw [Array.getD_eq_getD_getElem?, Array.getD_eq_getD_getElem?,
    Array.getElem?_setIfInBounds_ne hne.symm]

theorem write_of_size_le {s : Store} {h : Handle} {n : Node} (hsize : s.size ≤ h) :
    s.write h n = s := by
  unfold write
  rw [Array.setIfInBounds_eq_of_size_le hsize]

/-- A store that has all nodes of another one, as they were. -/
structure Grows (s s' : Store) : Prop where
  size_le : s.size ≤ s'.size
  node_eq : forall h : Handle, h < s.size -> s'.node h = s.node h

theorem Grows.refl (s : Store) : s.Grows s := by
  constructor
  · exact Nat.le_refl _
  · intro h _
    rfl

theorem Grows.trans {s s' s'' : Store} (h : s.Grows s') (h' : s'.Grows s'') : s.Grows s'' := by
  constructor
  · exact h.size_le.trans h'.size_le
  · intro x hsize
    rw [h'.node_eq x (Nat.lt_of_lt_of_le hsize h.size_le), h.node_eq x hsize]

theorem grows_alloc (s : Store) (n : Node) : s.Grows (s.alloc n).2 := by
  constructor
  · rw [size_alloc]
    exact Nat.le_succ _
  · intro h hsize
    exact node_alloc_of_ne (Nat.ne_of_lt hsize)

/-!
## Children and reachability
-/

def Child (s : Store) (parent child : Handle) : Prop :=
  child ∈ s.children parent

/-- The second node is the first one or lies below it. -/
def Reach (s : Store) : Handle -> Handle -> Prop :=
  ReflTransGen s.Child

theorem not_reach_of_leaf {s : Store} {h h' : Handle} (hleaf : s.children h = [])
    (hne : h ≠ h') : ¬ s.Reach h h' := by
  intro hreach
  rcases hreach.cases_head with heq | ⟨child, hchild, _⟩
  · exact hne heq
  · rw [Child, hleaf] at hchild
    cases hchild

theorem not_loop_of_ranked {link : Handle -> Handle -> Prop} {rank : Handle -> Nat}
    (hrank : forall parent child : Handle, link parent child -> rank child < rank parent)
    (h : Handle) : ¬ TransGen link h h := by
  have hfalls : forall {a b : Handle}, TransGen link a b -> rank b < rank a := by
    intro a b hpath
    induction hpath with
    | single hlink => exact hrank _ _ hlink
    | tail _ hlink ih => exact (hrank _ _ hlink).trans ih
  intro hloop
  exact Nat.lt_irrefl _ (hfalls hloop)

structure Sound (s : Store) : Prop where
  closed : forall parent child : Handle, s.Child parent child -> child < s.size
  ranked : exists rank : Handle -> Nat,
    forall parent child : Handle, s.Child parent child -> rank child < rank parent
  uniqueKeys : forall h : Handle, (s.node h).UniqueKeys

theorem sound_empty : Store.empty.Sound := by
  constructor
  · intro parent child hchild
    cases hchild
  · exact ⟨fun _ => 0, fun parent child hchild => by cases hchild⟩
  · intro h
    exact trivial

namespace Sound

variable {s : Store}

theorem wellFounded (hs : s.Sound) :
    WellFounded fun child parent : Handle => s.Child parent child := by
  rcases hs.ranked with ⟨rank, hrank⟩
  exact Subrelation.wf (fun {child parent} hchild => hrank parent child hchild)
    (measure rank).wf

theorem not_transGen (hs : s.Sound) (h : Handle) : ¬ TransGen s.Child h h := by
  rcases hs.ranked with ⟨rank, hrank⟩
  exact not_loop_of_ranked hrank h

theorem not_reach_parent (hs : s.Sound) {parent child : Handle}
    (hchild : s.Child parent child) : ¬ s.Reach child parent := by
  intro hreach
  exact hs.not_transGen parent (TransGen.head' hchild hreach)

/-!
## New nodes
-/

theorem alloc (hs : s.Sound) {n : Node} (hclosed : forall c : Handle, c ∈ n.children -> c < s.size)
    (hkeys : n.UniqueKeys) : (s.alloc n).2.Sound := by
  have hchild : forall {parent child : Handle}, (s.alloc n).2.Child parent child ->
      (parent = s.size ∧ child ∈ n.children) ∨ (parent ≠ s.size ∧ s.Child parent child) := by
    intro parent child h
    by_cases hparent : parent = s.size
    · rw [Child, children, hparent, node_alloc_self] at h
      exact Or.inl ⟨hparent, h⟩
    · rw [Child, children, node_alloc_of_ne hparent] at h
      exact Or.inr ⟨hparent, h⟩
  rcases hs.ranked with ⟨rank, hrank⟩
  constructor
  · intro parent child h
    rw [size_alloc]
    rcases hchild h with ⟨_, hmem⟩ | ⟨_, hold⟩
    · exact Nat.lt_succ_of_lt (hclosed child hmem)
    · exact Nat.lt_succ_of_lt (hs.closed parent child hold)
  · refine ⟨fun h => if h = s.size then (n.children.map rank).sum + 1 else rank h, ?_⟩
    intro parent child h
    dsimp only
    rcases hchild h with ⟨hparent, hmem⟩ | ⟨hparent, hold⟩
    · have hne : child ≠ s.size := Nat.ne_of_lt (hclosed child hmem)
      rw [if_pos hparent, if_neg hne]
      exact Nat.lt_succ_of_le (List.le_sum_of_mem (List.mem_map_of_mem hmem))
    · have hne : child ≠ s.size := Nat.ne_of_lt (hs.closed parent child hold)
      rw [if_neg hparent, if_neg hne]
      exact hrank parent child hold
  · intro h
    by_cases hself : h = s.size
    · rw [hself, node_alloc_self]
      exact hkeys
    · rw [node_alloc_of_ne hself]
      exact hs.uniqueKeys h

/-!
## New contents
-/

/-- Links from one node to nodes that cannot reach it keep a ranking possible: the
nodes above it rise by more than the ranks of all those that it is linked to. -/
theorem ranked_with_links (hs : s.Sound) {h : Handle} {cs : List Handle}
    (hfree : forall c : Handle, c ∈ cs -> ¬ s.Reach c h) :
    exists rank : Handle -> Nat, forall parent child : Handle,
      s.Child parent child ∨ (parent = h ∧ child ∈ cs) -> rank child < rank parent := by
  classical
  rcases hs.ranked with ⟨rank, hrank⟩
  refine ⟨fun x => rank x + if s.Reach x h then (cs.map rank).sum + 1 else 0, ?_⟩
  intro parent child hlink
  dsimp only
  rcases hlink with hold | ⟨hparent, hmem⟩
  · have hfalls := hrank parent child hold
    by_cases hbelow : s.Reach child h
    · have habove : s.Reach parent h := ReflTransGen.head hold hbelow
      rw [if_pos hbelow, if_pos habove]
      exact Nat.add_lt_add_right hfalls _
    · rw [if_neg hbelow]
      exact Nat.lt_of_lt_of_le hfalls (Nat.le_add_right _ _)
  · have habove : s.Reach parent h := hparent ▸ ReflTransGen.refl
    have hle : rank child ≤ (cs.map rank).sum := List.le_sum_of_mem (List.mem_map_of_mem hmem)
    rw [if_neg (hfree child hmem), if_pos habove]
    omega

theorem write (hs : s.Sound) {h : Handle} {n : Node}
    (hclosed : forall c : Handle, c ∈ n.children -> c < s.size)
    (hfree : forall c : Handle, c ∈ n.children -> ¬ s.Reach c h) (hkeys : n.UniqueKeys) :
    (s.write h n).Sound := by
  by_cases hsize : h < s.size
  case neg =>
    rw [write_of_size_le (Nat.not_lt.mp hsize)]
    exact hs
  have hchild : forall {parent child : Handle}, (s.write h n).Child parent child ->
      s.Child parent child ∨ (parent = h ∧ child ∈ n.children) := by
    intro parent child hlink
    by_cases hparent : parent = h
    · rw [Child, children, hparent, node_write_self hsize] at hlink
      exact Or.inr ⟨hparent, hlink⟩
    · rw [Child, children, node_write_of_ne hparent] at hlink
      exact Or.inl hlink
  rcases hs.ranked_with_links hfree with ⟨rank, hrank⟩
  constructor
  · intro parent child hlink
    rw [size_write]
    rcases hchild hlink with hold | ⟨_, hmem⟩
    · exact hs.closed parent child hold
    · exact hclosed child hmem
  · exact ⟨rank, fun parent child hlink => hrank parent child (hchild hlink)⟩
  · intro x
    by_cases hself : x = h
    · rw [hself, node_write_self hsize]
      exact hkeys
    · rw [node_write_of_ne hself]
      exact hs.uniqueKeys x

theorem write_of_subset (hs : s.Sound) {h : Handle} {n : Node}
    (hchildren : forall c : Handle, c ∈ n.children -> s.Child h c ∨ (c < s.size ∧ ¬ s.Reach c h))
    (hkeys : n.UniqueKeys) : (s.write h n).Sound := by
  apply hs.write
  · intro c hmem
    rcases hchildren c hmem with hold | ⟨hsize, _⟩
    · exact hs.closed h c hold
    · exact hsize
  · intro c hmem
    rcases hchildren c hmem with hold | ⟨_, hfree⟩
    · exact hs.not_reach_parent hold
    · exact hfree
  · exact hkeys

end Sound

end Store
end Troupe
