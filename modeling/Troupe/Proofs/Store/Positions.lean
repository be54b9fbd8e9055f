import Troupe.Proofs.Store.Copies

/-!
# Positions in trees

The positions of a tree are the ways down in it.  A handle shows at each position what
the node shows that the same way down leads to, so a change of one node can be followed
to the positions where that node occurs.
-/

namespace Troupe
namespace Tree

def children : Tree -> List Tree
  | map entries => Entries.values entries
  | array items => items
  | _ => []

def descend? (t : Tree) : List Nat -> Option Tree
  | [] => some t
  | i :: path => t.children[i]?.bind fun child => descend? child path

/-- What a tree is apart from what its children are. -/
def shell : Tree -> Tree
  | map entries => map (entries.map fun entry => (entry.1, null))
  | array items => array (items.map fun _ => null)
  | leaf => leaf

end Tree

namespace Store

open Relation

theorem children_freezeNode (f : Handle -> Tree) (n : Node) :
    (freezeNode f n).children = n.children.map f := by
  cases n with
  | map entries =>
      simp only [freezeNode, Tree.children, Node.children, Entries.values, List.map_map]
      rfl
  | _ => rfl

theorem shell_freezeNode (f g : Handle -> Tree) (n : Node) :
    (freezeNode f n).shell = (freezeNode g n).shell := by
  cases n with
  | map entries =>
      simp only [freezeNode, Tree.shell, List.map_map]
      rfl
  | array items =>
      simp only [freezeNode, Tree.shell, List.map_map]
      rfl
  | _ => rfl

theorem Sound.descend?_freeze {s : Store} (hs : s.Sound) {h : Handle} (hsize : h < s.size)
    (path : List Nat) : (s.freeze h).descend? path = (s.descend? h path).map s.freeze := by
  induction path generalizing h with
  | nil => rfl
  | cons i path ih =>
      have hchildren : (s.freeze h).children = (s.children h).map s.freeze := by
        rw [hs.freeze_eq hsize, children_freezeNode]
        rfl
      rw [Tree.descend?, hchildren, List.getElem?_map, descend?]
      cases hchild : (s.children h)[i]? with
      | none => rfl
      | some child => exact ih (hs.closed h child (List.mem_of_getElem? hchild))

/-!
## Changes of a single node
-/

section SingleNode

variable {s s' : Store} {t : Handle}

theorem Sound.descend?_to (hs : s.Sound)
    (hnode : forall x : Handle, x < s.size -> x ≠ t -> s'.node x = s.node x)
    {h : Handle} (hsize : h < s.size) {path : List Nat} (hpath : s.descend? h path = some t) :
    s'.descend? h path = some t := by
  induction path generalizing h with
  | nil => exact hpath
  | cons i path ih =>
      rcases descend?_cons_eq_some_iff.mp hpath with ⟨child, hchild, hbelow⟩
      have hlink : s.Child h child := List.mem_of_getElem? hchild
      have hne : h ≠ t := by
        rintro rfl
        exact hs.not_reach_parent hlink (reach_iff_descend?.mpr ⟨path, hbelow⟩)
      have hsame : s'.children h = s.children h := by
        rw [children, hnode h hsize hne, children]
      refine descend?_cons_eq_some_iff.mpr ⟨child, ?_, ih (hs.closed h child hlink) hbelow⟩
      rw [hsame]
      exact hchild

def Avoids (s : Store) (t h : Handle) (path : List Nat) : Prop :=
  forall front back : List Nat, path = front ++ back -> s.descend? h front ≠ some t

theorem Avoids.ne {h : Handle} {path : List Nat} (havoids : s.Avoids t h path) : h ≠ t := by
  rintro rfl
  exact havoids [] path rfl rfl

theorem Avoids.child {h child : Handle} {i : Nat} {path : List Nat}
    (havoids : s.Avoids t h (i :: path)) (hchild : (s.children h)[i]? = some child) :
    s.Avoids t child path := by
  rintro front back rfl hfront
  exact havoids (i :: front) back rfl (descend?_cons_eq_some_iff.mpr ⟨child, hchild, hfront⟩)

theorem Sound.descend?_avoiding (hs : s.Sound)
    (hnode : forall x : Handle, x < s.size -> x ≠ t -> s'.node x = s.node x)
    {h : Handle} (hsize : h < s.size) {path : List Nat} (havoids : s.Avoids t h path) :
    s'.descend? h path = s.descend? h path ∧
      forall x : Handle, s.descend? h path = some x -> x < s.size ∧ x ≠ t := by
  induction path generalizing h with
  | nil =>
      refine ⟨rfl, fun x hx => ?_⟩
      cases hx
      exact ⟨hsize, havoids.ne⟩
  | cons i path ih =>
      have hsame : s'.children h = s.children h := by
        rw [children, hnode h hsize havoids.ne, children]
      rw [descend?, descend?, hsame]
      cases hchild : (s.children h)[i]? with
      | none =>
          refine ⟨rfl, fun x hx => ?_⟩
          cases hx
      | some child =>
          exact ih (hs.closed h child (List.mem_of_getElem? hchild)) (havoids.child hchild)

/-- A single node of a store has changed, as far as its old nodes are concerned. -/
structure Localized (s : Store) (t : Handle) (s' : Store) : Prop where
  node_eq : forall x : Handle, x < s.size -> x ≠ t -> s'.node x = s.node x
  elsewhere : forall h : Handle, h < s.size -> ¬ s.Reach h t -> s'.freeze h = s.freeze h
  differs : forall h : Handle, h < s.size -> s.Reach h t ->
    (s'.freeze h = s.freeze h <-> s'.freeze t = s.freeze t)
  occurrence : forall (h : Handle) (path : List Nat), h < s.size ->
    s.descend? h path = some t ->
      (s.freeze h).descend? path = some (s.freeze t) ∧
        (s'.freeze h).descend? path = some (s'.freeze t)
  kept : forall (h : Handle) (path : List Nat), h < s.size -> s.Avoids t h path ->
    ((s'.freeze h).descend? path).map Tree.shell = ((s.freeze h).descend? path).map Tree.shell

theorem Sound.freeze_of_target (hs : s.Sound) (hs' : s'.Sound) (hle : s.size ≤ s'.size)
    (hnode : forall x : Handle, x < s.size -> x ≠ t -> s'.node x = s.node x)
    (htarget : s'.freeze t = s.freeze t) {h : Handle} (hsize : h < s.size) :
    s'.freeze h = s.freeze h := by
  induction h using hs.wellFounded.induction with
  | _ h ih =>
      by_cases hself : h = t
      · rw [hself]
        exact htarget
      · rw [hs'.freeze_eq (Nat.lt_of_lt_of_le hsize hle), hs.freeze_eq hsize,
          hnode h hsize hself]
        apply freezeNode_congr
        intro child hchild
        exact ih child hchild (hs.closed h child hchild)

theorem Sound.localized (hs : s.Sound) (hs' : s'.Sound) (hle : s.size ≤ s'.size)
    (hnode : forall x : Handle, x < s.size -> x ≠ t -> s'.node x = s.node x) :
    s.Localized t s' := by
  have hlater : forall h : Handle, h < s.size -> h < s'.size :=
    fun h hsize => Nat.lt_of_lt_of_le hsize hle
  have hoccurrence : forall (h : Handle) (path : List Nat), h < s.size ->
      s.descend? h path = some t ->
        (s.freeze h).descend? path = some (s.freeze t) ∧
          (s'.freeze h).descend? path = some (s'.freeze t) := by
    intro h path hsize hpath
    rw [hs.descend?_freeze hsize, hs'.descend?_freeze (hlater h hsize), hpath,
      hs.descend?_to hnode hsize hpath]
    exact ⟨rfl, rfl⟩
  constructor
  case node_eq => exact hnode
  case elsewhere =>
    intro h hsize hfree
    apply hs.freeze_congr hs' hle hsize
    intro x hreach
    apply hnode x (hs.reach_lt hsize hreach)
    rintro rfl
    exact hfree hreach
  case differs =>
    intro h hsize hreach
    constructor
    · intro hsame
      rcases reach_iff_descend?.mp hreach with ⟨path, hpath⟩
      rcases hoccurrence h path hsize hpath with ⟨hbefore, hafter⟩
      rw [hsame, hbefore] at hafter
      exact (Option.some.inj hafter).symm
    · intro htarget
      exact hs.freeze_of_target hs' hle hnode htarget hsize
  case occurrence => exact hoccurrence
  case kept =>
    intro h path hsize havoids
    rcases hs.descend?_avoiding hnode hsize havoids with ⟨hsame, hend⟩
    rw [hs.descend?_freeze hsize, hs'.descend?_freeze (hlater h hsize), hsame]
    cases hpath : s.descend? h path with
    | none => rfl
    | some x =>
        rcases hend x hpath with ⟨hx, hne⟩
        simp only [Option.map_some]
        rw [hs.freeze_eq hx, hs'.freeze_eq (hlater x hx), hnode x hx hne,
          shell_freezeNode s'.freeze s.freeze]

end SingleNode

end Store
end Troupe
