import Troupe.Proofs.Store.Regions

/-!
# Forests

Where no node can be reached in two ways, a change of one tree is seen in that tree alone.
A forest is a list of nodes of which no two have a node in common below them and below each
of which every node is reached in one way.  It stays a forest when a root is replaced by its
children, and when what lies below one root is written while the others are left alone.
-/

namespace Troupe
namespace Store

open Relation

/-- Every node of a tree can be reached in one way. -/
def Unshared (s : Store) (root : Handle) : Prop :=
  forall (x : Handle) (path path' : List Nat),
    s.descend? root path = some x -> s.descend? root path' = some x -> path = path'

def Disjoint (s : Store) (root root' : Handle) : Prop :=
  forall x : Handle, s.Reach root x -> ¬ s.Reach root' x

/-- Trees of nodes without sharing, neither within one of them nor between two. -/
structure Forest (s : Store) (roots : List Handle) : Prop where
  unshared : forall root : Handle, root ∈ roots -> s.Unshared root
  apart : roots.Pairwise s.Disjoint

section Forests

variable {s s' : Store} {h c root : Handle} {roots rest : List Handle}

theorem Disjoint.symm (hapart : s.Disjoint h c) : s.Disjoint c h :=
  fun x hc hh => hapart x hh hc

theorem forest_cons_iff :
    s.Forest (root :: rest) <->
      s.Unshared root ∧ (forall other : Handle, other ∈ rest -> s.Disjoint root other) ∧
        s.Forest rest := by
  constructor
  · intro hforest
    rcases List.pairwise_cons.mp hforest.apart with ⟨hfirst, hrest⟩
    exact ⟨hforest.unshared root List.mem_cons_self, hfirst,
      fun other hmem => hforest.unshared other (List.mem_cons_of_mem _ hmem), hrest⟩
  · rintro ⟨hroot, hapart, hrest⟩
    constructor
    · intro other hmem
      rcases List.mem_cons.mp hmem with rfl | hmem
      · exact hroot
      · exact hrest.unshared other hmem
    · exact List.pairwise_cons.mpr ⟨hapart, hrest.apart⟩

theorem forest_perm_iff {others : List Handle} (hperm : roots.Perm others) :
    s.Forest roots <-> s.Forest others := by
  have hall : forall {roots others : List Handle}, roots.Perm others -> s.Forest roots ->
      s.Forest others := by
    intro roots others hperm hforest
    constructor
    · exact fun root hmem => hforest.unshared root (hperm.mem_iff.mpr hmem)
    · exact (hperm.pairwise_iff fun hapart => hapart.symm).mp hforest.apart
  exact ⟨hall hperm, hall hperm.symm⟩

theorem forest_append_iff :
    s.Forest (roots ++ rest) <->
      s.Forest roots ∧ s.Forest rest ∧
        forall root : Handle, root ∈ roots -> forall other : Handle, other ∈ rest ->
          s.Disjoint root other := by
  constructor
  · intro hforest
    rcases List.pairwise_append.mp hforest.apart with ⟨hroots, hrest, hapart⟩
    exact ⟨⟨fun root hmem => hforest.unshared root (List.mem_append_left _ hmem), hroots⟩,
      ⟨fun root hmem => hforest.unshared root (List.mem_append_right _ hmem), hrest⟩, hapart⟩
  · rintro ⟨hroots, hrest, hapart⟩
    constructor
    · intro root hmem
      rcases List.mem_append.mp hmem with hmem | hmem
      · exact hroots.unshared root hmem
      · exact hrest.unshared root hmem
    · exact List.pairwise_append.mpr ⟨hroots.apart, hrest.apart, hapart⟩

theorem Forest.disjoint (hforest : s.Forest roots) {i j : Nat} {child child' : Handle}
    (hne : i ≠ j) (hchild : roots[i]? = some child) (hchild' : roots[j]? = some child') :
    s.Disjoint child child' := by
  rcases List.getElem?_eq_some_iff.mp hchild with ⟨hi, rfl⟩
  rcases List.getElem?_eq_some_iff.mp hchild' with ⟨hj, rfl⟩
  have hpairs := List.pairwise_iff_getElem.mp hforest.apart
  rcases Nat.lt_or_gt_of_ne hne with hlt | hgt
  · exact hpairs i j hi hj hlt
  · exact (hpairs j i hj hi hgt).symm

theorem Forest.congr (hforest : s.Forest roots)
    (hsame : forall root : Handle, root ∈ roots -> forall x : Handle, s.Reach root x ->
      s'.node x = s.node x) : s'.Forest roots := by
  constructor
  · intro root hmem x path path' hpath hpath'
    rw [descend?_congr (hsame root hmem)] at hpath hpath'
    exact hforest.unshared root hmem x path path' hpath hpath'
  · apply hforest.apart.imp_of_mem
    intro root root' hmem hmem' hapart x hreach hreach'
    exact hapart x ((reach_congr (hsame root hmem) x).mp hreach)
      ((reach_congr (hsame root' hmem') x).mp hreach')

theorem Sound.not_descend?_self (hs : s.Sound) {i : Nat} {path : List Nat} :
    s.descend? h (i :: path) ≠ some h := by
  intro hpath
  rcases descend?_cons_eq_some_iff.mp hpath with ⟨child, hchild, hbelow⟩
  exact hs.not_reach_parent (List.mem_of_getElem? hchild)
    (reach_iff_descend?.mpr ⟨path, hbelow⟩)

/-- A tree without sharing is a node above trees that are apart. -/
theorem Sound.unshared_iff (hs : s.Sound) : s.Unshared h <-> s.Forest (s.children h) := by
  constructor
  · intro hunshared
    have hlong : forall {i : Nat} {child x : Handle} {path : List Nat},
        (s.children h)[i]? = some child -> s.descend? child path = some x ->
          s.descend? h (i :: path) = some x :=
      fun hchild hpath => descend?_cons_eq_some_iff.mpr ⟨_, hchild, hpath⟩
    constructor
    · intro child hmem x path path' hpath hpath'
      rcases List.getElem?_of_mem hmem with ⟨i, hi⟩
      exact (List.cons_eq_cons.mp (hunshared x _ _ (hlong hi hpath) (hlong hi hpath'))).right
    · apply List.pairwise_iff_getElem.mpr
      intro i j hi hj hlt x hreach hreach'
      rcases reach_iff_descend?.mp hreach with ⟨path, hpath⟩
      rcases reach_iff_descend?.mp hreach' with ⟨path', hpath'⟩
      have hsame := hunshared x _ _ (hlong (List.getElem?_eq_getElem hi) hpath)
        (hlong (List.getElem?_eq_getElem hj) hpath')
      exact Nat.ne_of_lt hlt (List.cons_eq_cons.mp hsame).left
  · intro hforest x path path' hpath hpath'
    cases path with
    | nil =>
        cases hpath
        cases path' with
        | nil => rfl
        | cons j path' => exact absurd hpath' hs.not_descend?_self
    | cons i path =>
        cases path' with
        | nil =>
            cases hpath'
            exact absurd hpath hs.not_descend?_self
        | cons j path' =>
            rcases descend?_cons_eq_some_iff.mp hpath with ⟨child, hchild, hbelow⟩
            rcases descend?_cons_eq_some_iff.mp hpath' with ⟨child', hchild', hbelow'⟩
            have hindex : i = j := by
              by_contra hne
              exact hforest.disjoint hne hchild hchild' x
                (reach_iff_descend?.mpr ⟨path, hbelow⟩) (reach_iff_descend?.mpr ⟨path', hbelow'⟩)
            subst hindex
            cases hchild.symm.trans hchild'
            rw [hforest.unshared child (List.mem_of_getElem? hchild) x path path' hbelow hbelow']

theorem Sound.forest_cons_iff_children (hs : s.Sound) :
    s.Forest (root :: rest) <->
      s.Forest (s.children root ++ rest) ∧
        forall other : Handle, other ∈ rest -> ¬ s.Reach other root := by
  rw [forest_cons_iff, hs.unshared_iff, forest_append_iff]
  constructor
  · rintro ⟨hchildren, hapart, hrest⟩
    refine ⟨⟨hchildren, hrest, fun child hchild other hmem x hreach => ?_⟩, fun other hmem => ?_⟩
    · exact hapart other hmem x (ReflTransGen.head hchild hreach)
    · exact hapart other hmem root ReflTransGen.refl
  · rintro ⟨⟨hchildren, hrest, hapart⟩, hroot⟩
    refine ⟨hchildren, fun other hmem x hreach => ?_, hrest⟩
    rcases hreach.cases_head with rfl | ⟨child, hchild, hbelow⟩
    · exact hroot other hmem
    · exact hapart child hchild other hmem x hbelow

theorem Sound.region_below {h' : Handle} (hs : s.Sound) (hsize : h < s.size)
    (hsize' : h' < s.size) : s.Region fun x => s.Reach h x ∨ s.Reach h' x := by
  constructor
  · intro x hx
    rcases hx with hreach | hreach
    · exact hs.reach_lt hsize hreach
    · exact hs.reach_lt hsize' hreach
  · intro x child hx hchild
    rcases hx with hreach | hreach
    · exact Or.inl (hreach.tail hchild)
    · exact Or.inr (hreach.tail hchild)

theorem Forest.extend {value : Handle} {others : List Handle} {r' : Handle -> Prop}
    (hs : s.Sound) (hforest : s.Forest (c :: value :: others))
    (hsize : forall other : Handle, other ∈ others -> other < s.size)
    (hextends : s.Extends (fun x => s.Reach c x ∨ s.Reach value x) s' r')
    (hunshared : s'.Unshared c) :
    s'.Forest (c :: others) ∧
      forall other : Handle, other ∈ others -> forall x : Handle, s.Reach other x ->
        s'.node x = s.node x := by
  rcases forest_cons_iff.mp hforest with ⟨-, hapart, hbelow⟩
  rcases forest_cons_iff.mp hbelow with ⟨-, hapart', hothers⟩
  have hout : forall other : Handle, other ∈ others -> forall x : Handle, s.Reach other x ->
      x < s.size ∧ ¬ (s.Reach c x ∨ s.Reach value x) := by
    intro other hmem x hreach
    refine ⟨hs.reach_lt (hsize other hmem) hreach, ?_⟩
    rintro (hc | hvalue)
    · exact hapart other (List.mem_cons_of_mem _ hmem) x hc hreach
    · exact hapart' other hmem x hvalue hreach
  have hkept : forall other : Handle, other ∈ others -> forall x : Handle, s.Reach other x ->
      s'.node x = s.node x := by
    intro other hmem x hreach
    rcases hout other hmem x hreach with ⟨hlt, hfree⟩
    exact hextends.kept x hlt hfree
  refine ⟨forest_cons_iff.mpr ⟨hunshared, fun other hmem x hreach hreach' => ?_,
    hothers.congr hkept⟩, hkept⟩
  rcases hout other hmem x ((reach_congr (hkept other hmem) x).mp hreach') with ⟨hlt, hfree⟩
  have hinside := hextends.region.reach (hextends.mono c (Or.inl ReflTransGen.refl)) hreach
  rcases hextends.fresh x hinside with hold | hnew
  · exact hfree hold
  · exact Nat.not_lt.mpr hnew hlt

theorem Sound.forest_child {value : Handle} (hs : s.Sound) (hchild : s.Child h c)
    (hforest : s.Forest [h, value]) : s.Forest [c, value] := by
  rcases forest_append_iff.mp (hs.forest_cons_iff_children.mp hforest).left with
    ⟨hchildren, hvalue, hapart⟩
  exact forest_cons_iff.mpr ⟨hchildren.unshared c hchild, hapart c hchild, hvalue⟩

end Forests

end Store
end Troupe
