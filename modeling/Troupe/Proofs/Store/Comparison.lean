import Troupe.Proofs.Store.Alike
import Troupe.Proofs.Store.Positions

/-!
# Comparing live and frozen values

The live comparison sees at every level whether it has come to one node twice, and then
asks no further; the frozen one has nothing but contents to look at.  Both take the same
step again and again, which is to ask whether two nodes are alike.

## Not-a-number

No comparison of contents finds a not-a-number equal to anything, itself included.  Whether
a value contains one is all that the two comparisons can differ by.
-/

namespace Troupe

open Number

namespace Store

open Relation

/-!
## Comparisons of nodes

A comparison goes by what it can see of two handles without looking at contents, which may
be that they are handles to one node and may be nothing, and otherwise by the contents.
-/

structure Compares (s : Store) (seen R : Handle -> Handle -> Prop) : Prop where
  one : forall a b : Handle, seen a b -> a = b
  unfolds : forall a b : Handle, a < s.size -> b < s.size ->
    (R a b <-> seen a b ∨ (s.node a).Alike R (s.node b))

section Comparisons

variable {s : Store} {seen seen' R R' : Handle -> Handle -> Prop}

theorem Compares.symm (hs : s.Sound) (hR : s.Compares seen R) {a b : Handle}
    (ha : a < s.size) (hb : b < s.size) (h : R a b) : R b a := by
  induction a using hs.wellFounded.induction generalizing b with
  | _ a ih =>
      apply (hR.unfolds b a hb ha).mpr
      rcases (hR.unfolds a b ha hb).mp h with hseen | halike
      · cases hR.one a b hseen
        exact Or.inl hseen
      · refine Or.inr (halike.symm.mono fun d c hd hc hcd => ?_)
        exact ih c hc (hs.closed a c hc) (hs.closed b d hd) hcd

/-- Steps that see one node twice and steps that go by contents may be mixed freely. -/
theorem Compares.trans (hs : s.Sound) (hR : s.Compares seen R) {a b c : Handle}
    (ha : a < s.size) (hb : b < s.size) (hc : c < s.size) (hab : R a b) (hbc : R b c) :
    R a c := by
  induction a using hs.wellFounded.induction generalizing b c with
  | _ a ih =>
      rcases (hR.unfolds a b ha hb).mp hab with hseen | halike
      · rw [hR.one a b hseen]
        exact hbc
      · rcases (hR.unfolds b c hb hc).mp hbc with hseen' | halike'
        · rw [← hR.one b c hseen']
          exact hab
        · apply (hR.unfolds a c ha hc).mpr
          refine Or.inr ((halike.trans halike').mono fun x z hx hz hxz => ?_)
          rcases hxz with ⟨y, hy, hxy, hyz⟩
          exact ih x hx (hs.closed a x hx) (hs.closed b y hy) (hs.closed c z hz) hxy hyz

theorem Compares.le (hs : s.Sound) (hR : s.Compares seen R) (hR' : s.Compares seen' R')
    (hseen : forall a b : Handle, seen a b -> seen' a b) {a b : Handle} (ha : a < s.size)
    (hb : b < s.size) (h : R a b) : R' a b := by
  induction a using hs.wellFounded.induction generalizing b with
  | _ a ih =>
      apply (hR'.unfolds a b ha hb).mpr
      rcases (hR.unfolds a b ha hb).mp h with h | halike
      · exact Or.inl (hseen a b h)
      · refine Or.inr (halike.mono fun c d hc hd hcd => ?_)
        exact ih c hc (hs.closed a c hc) (hs.closed b d hd) hcd

end Comparisons

/-!
## The two comparisons
-/

theorem Sound.compares_equal {s : Store} (hs : s.Sound) :
    s.Compares Eq (fun a b => s.equal a b = true) := by
  constructor
  · exact fun _ _ h => h
  · intro a b ha _
    rw [hs.equal_eq ha, Bool.or_eq_true, beq_iff_eq,
      Node.equalNodes_iff (hs.uniqueKeys a) (hs.uniqueKeys b)]

theorem equalItems_map (f : Handle -> Tree) (xs ys : List Handle) :
    Tree.equalItems (xs.map f) (ys.map f) = equalItems (fun a b => (f a).equal (f b)) xs ys := by
  induction xs generalizing ys with
  | nil =>
      cases ys with
      | nil => rw [List.map_nil, Tree.equalItems, equalItems]
      | cons y ys => simp only [List.map_nil, List.map_cons, Tree.equalItems, equalItems]
  | cons x xs ih =>
      cases ys with
      | nil => simp only [List.map_nil, List.map_cons, Tree.equalItems, equalItems]
      | cons y ys => rw [List.map_cons, List.map_cons, Tree.equalItems, equalItems, ih]

theorem equalEntries_map (f : Handle -> Tree) (es fs : Entries Handle) :
    Tree.equalEntries (es.map fun entry => (entry.1, f entry.2))
        (fs.map fun entry => (entry.1, f entry.2)) =
      equalEntries (fun a b => (f a).equal (f b)) es fs := by
  induction es with
  | nil => rw [List.map_nil, Tree.equalEntries, equalEntries, List.all_nil]
  | cons entry es ih =>
      rw [List.map_cons, Tree.equalEntries, ih, Entries.get?_map, equalEntries, equalEntries,
        List.all_cons]
      cases Entries.get? fs entry.1 <;> rfl

theorem equal_freezeNode (f : Handle -> Tree) (n m : Node) :
    (freezeNode f n).equal (freezeNode f m) = equalNodes (fun a b => (f a).equal (f b)) n m := by
  cases n <;> cases m <;> simp only [freezeNode, Tree.equal, equalNodes, equalItems_map,
    equalEntries_map, List.length_map]

theorem Sound.compares_freeze {s : Store} (hs : s.Sound) :
    s.Compares (fun _ _ => False) (fun a b => (s.freeze a).equal (s.freeze b) = true) := by
  constructor
  · exact fun _ _ h => h.elim
  · intro a b ha hb
    rw [hs.freeze_eq ha, hs.freeze_eq hb, equal_freezeNode, false_or,
      Node.equalNodes_iff (hs.uniqueKeys a) (hs.uniqueKeys b)]

/-!
## Not-a-number
-/

/-- A not-a-number can be reached. -/
def HoldsNaN (s : Store) (h : Handle) : Prop :=
  exists x : Handle, s.Reach h x ∧ (s.node x).IsNaN

theorem holdsNaN_iff {s : Store} {h : Handle} :
    s.HoldsNaN h <->
      (s.node h).IsNaN ∨ exists child : Handle, s.Child h child ∧ s.HoldsNaN child := by
  constructor
  · rintro ⟨x, hreach, hnan⟩
    rcases hreach.cases_head with rfl | ⟨child, hchild, hbelow⟩
    · exact Or.inl hnan
    · exact Or.inr ⟨child, hchild, x, hbelow, hnan⟩
  · rintro (hnan | ⟨child, hchild, x, hbelow, hnan⟩)
    · exact ⟨h, ReflTransGen.refl, hnan⟩
    · exact ⟨x, ReflTransGen.head hchild hbelow, hnan⟩

section NotANumber

variable {s : Store} {seen R R' : Handle -> Handle -> Prop}

/-- By its contents alone a value is equal to itself unless it holds a not-a-number. -/
theorem Compares.self_iff (hs : s.Sound) (hR : s.Compares (fun _ _ => False) R) {a : Handle}
    (ha : a < s.size) : R a a <-> ¬ s.HoldsNaN a := by
  induction a using hs.wellFounded.induction with
  | _ a ih =>
      rw [hR.unfolds a a ha ha, false_or, Node.alike_self_iff (hs.uniqueKeys a), holdsNaN_iff,
        not_or, not_exists]
      apply and_congr_right
      intro _
      apply forall_congr'
      intro child
      rw [not_and]
      apply imp_congr_right
      intro hchild
      exact ih child hchild (hs.closed a child hchild)

theorem Compares.of_seeing (hs : s.Sound) (hR : s.Compares (fun _ _ => False) R)
    (hR' : s.Compares seen R') {a b : Handle} (ha : a < s.size) (hb : b < s.size)
    (hnumbers : ¬ s.HoldsNaN a) (h : R' a b) : R a b := by
  induction a using hs.wellFounded.induction generalizing b with
  | _ a ih =>
      rcases (hR'.unfolds a b ha hb).mp h with hseen | halike
      · rw [← hR'.one a b hseen]
        exact (hR.self_iff hs ha).mpr hnumbers
      · apply (hR.unfolds a b ha hb).mpr
        refine Or.inr (halike.mono fun c d hc hd hcd => ?_)
        have hbelow : ¬ s.HoldsNaN c :=
          fun hnan => hnumbers (holdsNaN_iff.mpr (Or.inr ⟨c, hc, hnan⟩))
        exact ih c hc (hs.closed a c hc) (hs.closed b d hd) hbelow hcd

end NotANumber

end Store

namespace Tree

def HoldsNaN (t : Tree) : Prop :=
  exists (path : List Nat) (x : Binary64),
    t.descend? path = some (float x) ∧ x.isNaN = true

end Tree

namespace Store

open Relation

theorem Sound.isNaN_iff {s : Store} (hs : s.Sound) {h : Handle} (hsize : h < s.size) :
    (s.node h).IsNaN <-> exists x : Binary64, s.freeze h = Tree.float x ∧ x.isNaN = true := by
  rw [hs.freeze_eq hsize]
  constructor
  · intro hnan
    cases hnode : s.node h with
    | float x =>
        rw [hnode] at hnan
        exact ⟨x, rfl, hnan⟩
    | _ =>
        rw [hnode] at hnan
        exact hnan.elim
  · rintro ⟨x, hshown, hnan⟩
    cases hnode : s.node h with
    | float y =>
        rw [hnode] at hshown
        cases hshown
        exact hnan
    | _ =>
        rw [hnode] at hshown
        cases hshown

theorem Sound.holdsNaN_freeze {s : Store} (hs : s.Sound) {h : Handle} (hsize : h < s.size) :
    (s.freeze h).HoldsNaN <-> s.HoldsNaN h := by
  constructor
  · rintro ⟨path, x, hpath, hnan⟩
    rw [hs.descend?_freeze hsize] at hpath
    rcases Option.map_eq_some_iff.mp hpath with ⟨c, hwalk, hshown⟩
    have hreach : s.Reach h c := reach_iff_descend?.mpr ⟨path, hwalk⟩
    exact ⟨c, hreach, (hs.isNaN_iff (hs.reach_lt hsize hreach)).mpr ⟨x, hshown, hnan⟩⟩
  · rintro ⟨c, hreach, hnan⟩
    rcases (hs.isNaN_iff (hs.reach_lt hsize hreach)).mp hnan with ⟨x, hshown, hnan'⟩
    rcases reach_iff_descend?.mp hreach with ⟨path, hwalk⟩
    refine ⟨path, x, ?_, hnan'⟩
    rw [hs.descend?_freeze hsize, hwalk, Option.map_some, hshown]

/-!
## Order of entries
-/

theorem Sound.equal_self {s : Store} (hs : s.Sound) {a : Handle} (ha : a < s.size) :
    s.equal a a = true :=
  (hs.compares_equal.unfolds a a ha ha).mpr (Or.inl rfl)

theorem Sound.equal_of_perm {s : Store} (hs : s.Sound) {a b : Handle} {es fs : Entries Handle}
    (ha : a < s.size) (hb : b < s.size) (hes : s.node a = Node.map es)
    (hfs : s.node b = Node.map fs) (hperm : es.Perm fs) : s.equal a b = true := by
  have hkeys : (Node.map es).UniqueKeys := hes ▸ hs.uniqueKeys a
  have hchildren : forall c : Handle, c ∈ (Node.map es).children -> s.equal c c = true := by
    intro c hmem
    rw [← hes] at hmem
    exact hs.equal_self (hs.closed a c hmem)
  have hsame : (Node.map es).Alike (fun a b => s.equal a b = true) (Node.map es) :=
    (Node.alike_self_iff hkeys).mpr ⟨not_false, hchildren⟩
  have hreordered : (Node.map es).Reordered (Node.map fs) := Node.Reordered.entries hperm
  apply (hs.compares_equal.unfolds a b ha hb).mpr
  rw [hes, hfs]
  exact Or.inr ((Node.Reordered.same _).alike hreordered hkeys hkeys hsame)

structure Reordered (s s' : Store) : Prop where
  size_eq : s'.size = s.size
  nodes : forall h : Handle, (s.node h).Reordered (s'.node h)

section Reordering

variable {s s' : Store}

theorem Reordered.sound (hs : s.Sound) (hsame : s.Reordered s') : s'.Sound := by
  have hchild : forall {parent child : Handle}, s'.Child parent child -> s.Child parent child :=
    fun {parent child} h => ((hsame.nodes parent).mem_children_iff child).mp h
  constructor
  · intro parent child h
    rw [hsame.size_eq]
    exact hs.closed parent child (hchild h)
  · rcases hs.ranked with ⟨rank, hrank⟩
    exact ⟨rank, fun parent child h => hrank parent child (hchild h)⟩
  · exact fun h => (hsame.nodes h).uniqueKeys (hs.uniqueKeys h)

theorem Reordered.equal_eq (hs : s.Sound) (hsame : s.Reordered s') {a b : Handle}
    (ha : a < s.size) (hb : b < s.size) : s'.equal a b = s.equal a b := by
  have hs' := hsame.sound hs
  have hother : s.Compares Eq (fun a b => s'.equal a b = true) := by
    constructor
    · exact fun _ _ h => h
    · intro a b ha hb
      rw [← hsame.size_eq] at ha hb
      rw [hs'.compares_equal.unfolds a b ha hb]
      have hback := fun h : Handle => (hsame.nodes h).symm
      apply or_congr_right
      constructor
      · exact (hback a).alike (hback b) (hs'.uniqueKeys a) (hs'.uniqueKeys b)
      · exact (hsame.nodes a).alike (hsame.nodes b) (hs.uniqueKeys a) (hs.uniqueKeys b)
  rw [Bool.eq_iff_iff]
  constructor
  · exact hother.le hs hs.compares_equal (fun _ _ h => h) ha hb
  · exact hs.compares_equal.le hs hother (fun _ _ h => h) ha hb

end Reordering

/-!
## Trees in stores

Any trees without repeated keys are shown by nodes of one store, so what holds of the
frozen comparison in stores holds of trees.
-/

theorem exists_shown (items : List Tree) (hunique : Tree.UniqueKeysItems items) :
    exists s : Store, s.Sound ∧
      forall t : Tree, t ∈ items -> exists h : Handle, h < s.size ∧ s.freeze h = t := by
  have hall := yieldsAll_thawItems sound_empty hunique
  have hshown := freeze_thawItems sound_empty hunique
  refine ⟨(empty.thawItems items).2, hall.sound, fun t hmem => ?_⟩
  rw [← hshown] at hmem
  rcases List.mem_map.mp hmem with ⟨h, hin, hfrozen⟩
  exact ⟨h, hall.valid h hin, hfrozen⟩

end Store

namespace Tree

variable {t u v : Tree}

theorem equal_symm (ht : t.UniqueKeys) (hu : u.UniqueKeys) (h : t.equal u = true) :
    u.equal t = true := by
  rcases Store.exists_shown [t, u] ⟨ht, hu, trivial⟩ with ⟨s, hs, hshown⟩
  rcases hshown t (by simp) with ⟨a, ha, rfl⟩
  rcases hshown u (by simp) with ⟨b, hb, rfl⟩
  exact hs.compares_freeze.symm hs ha hb h

theorem equal_trans (ht : t.UniqueKeys) (hu : u.UniqueKeys) (hv : v.UniqueKeys)
    (h : t.equal u = true) (h' : u.equal v = true) : t.equal v = true := by
  rcases Store.exists_shown [t, u, v] ⟨ht, hu, hv, trivial⟩ with ⟨s, hs, hshown⟩
  rcases hshown t (by simp) with ⟨a, ha, rfl⟩
  rcases hshown u (by simp) with ⟨b, hb, rfl⟩
  rcases hshown v (by simp) with ⟨c, hc, rfl⟩
  exact hs.compares_freeze.trans hs ha hb hc h h'

theorem equal_self_iff (ht : t.UniqueKeys) : t.equal t = true <-> ¬ t.HoldsNaN := by
  rcases Store.exists_shown [t] ⟨ht, trivial⟩ with ⟨s, hs, hshown⟩
  rcases hshown t (by simp) with ⟨a, ha, rfl⟩
  rw [hs.holdsNaN_freeze ha, hs.compares_freeze.self_iff hs ha]

end Tree

namespace Store

open Relation

/-- The live comparison is an equivalence that no order of entries matters to.  What is equal
when frozen is equal when live, and conversely where there is no not-a-number.  Trees are
compared symmetrically and transitively, and only trees without a not-a-number are equal
to copies of themselves. -/
theorem comparisons_fit {s : Store} (hreachable : s.Reachable) :
    (Equivalence fun a b : Fin s.size => s.equal a b = true) ∧
      (forall (a b : Handle) (es fs : Entries Handle), a < s.size -> b < s.size ->
        s.node a = Node.map es -> s.node b = Node.map fs -> es.Perm fs ->
          s.equal a b = true) ∧
      (forall s' : Store, s.Reordered s' -> forall a b : Handle, a < s.size -> b < s.size ->
        s'.equal a b = s.equal a b) ∧
      (forall a b : Handle, a < s.size -> b < s.size ->
        (s.freeze a).equal (s.freeze b) = true -> s.equal a b = true) ∧
      (forall a b : Handle, a < s.size -> b < s.size -> ¬ s.HoldsNaN a ->
        s.equal a b = true -> (s.freeze a).equal (s.freeze b) = true) ∧
      (forall t u : Tree, t.UniqueKeys -> u.UniqueKeys ->
        t.equal u = true -> u.equal t = true) ∧
      (forall t u v : Tree, t.UniqueKeys -> u.UniqueKeys -> v.UniqueKeys ->
        t.equal u = true -> u.equal v = true -> t.equal v = true) ∧
      forall t : Tree, t.UniqueKeys ->
        (t.equal ((s.thaw t).2.freeze (s.thaw t).1) = true <-> ¬ t.HoldsNaN) := by
  have hs := hreachable.sound
  have hlive := hs.compares_equal
  have hfrozen := hs.compares_freeze
  refine ⟨⟨?_, ?_, ?_⟩, ?_, ?_, ?_, ?_, ?_, ?_, ?_⟩
  · exact fun a => hs.equal_self a.isLt
  · exact fun {a b} h => hlive.symm hs a.isLt b.isLt h
  · exact fun {a b c} h h' => hlive.trans hs a.isLt b.isLt c.isLt h h'
  · exact fun a b es fs ha hb hes hfs hperm => hs.equal_of_perm ha hb hes hfs hperm
  · exact fun s' hsame a b ha hb => hsame.equal_eq hs ha hb
  · exact fun a b ha hb h => hfrozen.le hs hlive (fun _ _ h => h.elim) ha hb h
  · exact fun a b ha hb hnumbers h => hfrozen.of_seeing hs hlive ha hb hnumbers h
  · exact fun t u ht hu => Tree.equal_symm ht hu
  · exact fun t u v ht hu hv => Tree.equal_trans ht hu hv
  · intro t ht
    rw [freeze_thaw hs ht]
    exact Tree.equal_self_iff ht

/-- Two maps share a not-a-number and have their entries in different orders. -/
theorem comparisons_fit_shared_nan :
    let nan : Binary64 := { bits := 0x7ff8000000000000 }
    let s := (((Store.empty.alloc (Node.float nan)).2.ofPairs [("x", 0), ("y", 0)]).2.ofPairs
      [("y", 0), ("x", 0)]).2
    s.Reachable ∧ s.HoldsNaN 1 ∧ s.equal 1 2 = true ∧ s.equal 2 1 = true ∧
      (s.freeze 1).equal (s.freeze 2) = false ∧ ¬ (Tree.integer 1).HoldsNaN := by
  intro nan s
  have hreachable : s.Reachable :=
    ((reachable_empty.step (Step.leaf rfl)).step (Step.ofPairs (by decide))).step
      (Step.ofPairs (by decide))
  rcases comparisons_fit hreachable with ⟨hequivalence, hperm, -, -, -, -, -, hself⟩
  have hequal : s.equal 1 2 = true :=
    hperm 1 2 _ _ (by decide) (by decide) rfl rfl (List.Perm.swap ..)
  have hchild : (0 : Handle) ∈ s.children 1 := by decide
  have hnan : s.HoldsNaN 1 := ⟨0, ReflTransGen.single hchild, rfl⟩
  have hback : s.equal 2 1 = true :=
    hequivalence.symm (x := ⟨1, by decide⟩) (y := ⟨2, by decide⟩) hequal
  refine ⟨hreachable, hnan, hequal, hback, by decide, ?_⟩
  exact (hself (Tree.integer 1) trivial).mp (by decide)

end Store
end Troupe
