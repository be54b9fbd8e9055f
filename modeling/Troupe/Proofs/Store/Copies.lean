import Troupe.Proofs.Store.Steps

/-!
# Copies

Thawing a tree makes new nodes that show the tree, and each of them can be reached
in one way only.  A deep copy of a live value is the thawed form of what the value
shows, so all of this holds of it, however the nodes of the value are shared.
-/

namespace Troupe

/-!
## Trees without repeated keys
-/

namespace Tree

theorem uniqueKeysItems_iff {items : List Tree} :
    UniqueKeysItems items <-> forall t : Tree, t ∈ items -> t.UniqueKeys := by
  induction items with
  | nil => exact ⟨fun _ => nofun, fun _ => trivial⟩
  | cons item rest ih =>
      rw [List.forall_mem_cons, <- ih]
      exact Iff.rfl

theorem uniqueKeysEntries_iff {entries : List (String × Tree)} :
    UniqueKeysEntries entries <-> forall t : Tree, t ∈ Entries.values entries -> t.UniqueKeys := by
  induction entries with
  | nil => exact ⟨fun _ => nofun, fun _ => trivial⟩
  | cons entry rest ih =>
      rcases entry with ⟨name, value⟩
      have hcons : Entries.values ((name, value) :: rest) = value :: Entries.values rest := rfl
      rw [hcons, List.forall_mem_cons, <- ih]
      exact Iff.rfl

end Tree

namespace Store

open Relation

/-!
## Ways down

A way down is the list of the positions that lead from a node to one below it.  A
child that a node holds twice is reached in two ways.
-/

def descend? (s : Store) (h : Handle) : List Nat -> Option Handle
  | [] => some h
  | i :: path =>
      match (s.children h)[i]? with
      | some child => descend? s child path
      | none => none

theorem descend?_cons_eq_some_iff {s : Store} {h x : Handle} {i : Nat} {path : List Nat} :
    s.descend? h (i :: path) = some x <->
      exists child : Handle,
        (s.children h)[i]? = some child ∧ s.descend? child path = some x := by
  rw [descend?]
  cases (s.children h)[i]? with
  | none => simp
  | some child => simp

theorem reach_iff_descend? {s : Store} {h x : Handle} :
    s.Reach h x <-> exists path : List Nat, s.descend? h path = some x := by
  constructor
  · intro hreach
    induction hreach using ReflTransGen.head_induction_on with
    | refl => exact ⟨[], rfl⟩
    | head hchild _ ih =>
        rcases ih with ⟨path, hpath⟩
        rcases List.getElem?_of_mem hchild with ⟨i, hi⟩
        exact ⟨i :: path, descend?_cons_eq_some_iff.mpr ⟨_, hi, hpath⟩⟩
  · rintro ⟨path, hpath⟩
    induction path generalizing h with
    | nil =>
        cases hpath
        exact ReflTransGen.refl
    | cons i path ih =>
        rcases descend?_cons_eq_some_iff.mp hpath with ⟨child, hchild, hbelow⟩
        exact ReflTransGen.head (List.mem_of_getElem? hchild) (ih hbelow)

theorem descend?_congr {s s' : Store} {h : Handle}
    (hsame : forall x : Handle, s.Reach h x -> s'.node x = s.node x) (path : List Nat) :
    s'.descend? h path = s.descend? h path := by
  induction path generalizing h with
  | nil => rfl
  | cons i path ih =>
      have hnode : s'.children h = s.children h := by
        rw [children, hsame h ReflTransGen.refl, children]
      rw [descend?, descend?, hnode]
      cases hchild : (s.children h)[i]? with
      | none => rfl
      | some child =>
          apply ih
          intro x hreach
          exact hsame x (ReflTransGen.head (List.mem_of_getElem? hchild) hreach)

theorem reach_congr {s s' : Store} {h : Handle}
    (hsame : forall x : Handle, s.Reach h x -> s'.node x = s.node x) (x : Handle) :
    s'.Reach h x <-> s.Reach h x := by
  rw [reach_iff_descend?, reach_iff_descend?]
  apply exists_congr
  intro path
  rw [descend?_congr hsame]

theorem Grows.descend?_eq {s s' : Store} (hgrows : s.Grows s') {h : Handle}
    (hvalid : forall x : Handle, s.Reach h x -> x < s.size) (path : List Nat) :
    s'.descend? h path = s.descend? h path :=
  descend?_congr (fun x hreach => hgrows.node_eq x (hvalid x hreach)) path

/-!
## New trees

Nodes that were made together: each lies below one of them, at a single place.
-/

/-- What lies below some nodes of a later store is new and is reached in one way. -/
structure Planted (s s' : Store) (roots : List Handle) : Prop where
  size_le : s.size ≤ s'.size
  fresh : forall root : Handle, root ∈ roots -> forall x : Handle, s'.Reach root x ->
    s.size ≤ x ∧ x < s'.size
  once : forall (i j : Nat) (root root' x : Handle) (path path' : List Nat),
    roots[i]? = some root -> s'.descend? root path = some x ->
      roots[j]? = some root' -> s'.descend? root' path' = some x -> i = j ∧ path = path'

theorem planted_nil (s : Store) : s.Planted s [] := by
  constructor
  · exact Nat.le_refl _
  · intro root hmem
    cases hmem
  · intro i j root root' x path path' hroot
    cases hroot

theorem Planted.cons {s s' s'' : Store} {root : Handle} {rest : List Handle}
    (hfirst : s.Planted s' [root]) (hgrows : s'.Grows s'') (hrest : s'.Planted s'' rest) :
    s.Planted s'' (root :: rest) := by
  have hbelow := hfirst.fresh root List.mem_cons_self
  have hsame : forall path : List Nat, s''.descend? root path = s'.descend? root path :=
    hgrows.descend?_eq fun x hreach => (hbelow x hreach).right
  have hearly : forall (x : Handle) (path : List Nat), s''.descend? root path = some x ->
      s.size ≤ x ∧ x < s'.size := by
    intro x path hpath
    rw [hsame] at hpath
    exact hbelow x (reach_iff_descend?.mpr ⟨path, hpath⟩)
  have hlate : forall (i : Nat) (root' x : Handle) (path : List Nat), rest[i]? = some root' ->
      s''.descend? root' path = some x -> s'.size ≤ x ∧ x < s''.size := by
    intro i root' x path hroot hpath
    exact hrest.fresh root' (List.mem_of_getElem? hroot) x (reach_iff_descend?.mpr ⟨path, hpath⟩)
  constructor
  · exact hfirst.size_le.trans hrest.size_le
  · intro root' hmem x hreach
    rcases List.mem_cons.mp hmem with heq | hmem
    · rcases reach_iff_descend?.mp hreach with ⟨path, hpath⟩
      rw [heq] at hpath
      have hx := hearly x path hpath
      exact ⟨hx.left, Nat.lt_of_lt_of_le hx.right hgrows.size_le⟩
    · have hx := hrest.fresh root' hmem x hreach
      exact ⟨hfirst.size_le.trans hx.left, hx.right⟩
  · intro i j root' root'' x path path' hroot hpath hroot' hpath'
    cases i with
    | zero =>
        cases hroot
        have hx := hearly x path hpath
        cases j with
        | zero =>
            cases hroot'
            rw [hsame] at hpath hpath'
            exact hfirst.once 0 0 root root x path path' rfl hpath rfl hpath'
        | succ j =>
            have hx' := hlate j root'' x path' hroot' hpath'
            exact absurd hx.right (Nat.not_lt.mpr hx'.left)
    | succ i =>
        have hx := hlate i root' x path hroot hpath
        cases j with
        | zero =>
            cases hroot'
            have hx' := hearly x path' hpath'
            exact absurd hx'.right (Nat.not_lt.mpr hx.left)
        | succ j =>
            rcases hrest.once i j root' root'' x path path' hroot hpath hroot' hpath' with
              ⟨hindex, hsteps⟩
            exact ⟨congrArg Nat.succ hindex, hsteps⟩

theorem Planted.descend?_alloc {s s' : Store} {n : Node} (hchildren : s.Planted s' n.children)
    {x : Handle} {path : List Nat} (h : (s'.alloc n).2.descend? s'.size path = some x) :
    (path = [] ∧ x = s'.size) ∨
      exists (i : Nat) (rest : List Nat) (child : Handle), path = i :: rest ∧
        n.children[i]? = some child ∧ s'.descend? child rest = some x ∧
          s.size ≤ x ∧ x < s'.size := by
  cases path with
  | nil =>
      cases h
      exact Or.inl ⟨rfl, rfl⟩
  | cons i rest =>
      rcases descend?_cons_eq_some_iff.mp h with ⟨child, hchild, hbelow⟩
      rw [children, node_alloc_self] at hchild
      have hfresh := hchildren.fresh child (List.mem_of_getElem? hchild)
      have hsame := (grows_alloc s' n).descend?_eq (fun y hreach => (hfresh y hreach).right) rest
      rw [hsame] at hbelow
      have hx := hfresh x (reach_iff_descend?.mpr ⟨rest, hbelow⟩)
      exact Or.inr ⟨i, rest, child, rfl, hchild, hbelow, hx⟩

theorem Planted.alloc_once {s s' : Store} {n : Node} (hchildren : s.Planted s' n.children)
    {x : Handle} {path path' : List Nat}
    (hwalk : (s'.alloc n).2.descend? s'.size path = some x)
    (hwalk' : (s'.alloc n).2.descend? s'.size path' = some x) : path = path' := by
  rcases hchildren.descend?_alloc hwalk with
    ⟨hnil, heq⟩ | ⟨k, rest, child, hcons, hchild, hbelow, _, hlt⟩
  · rcases hchildren.descend?_alloc hwalk' with ⟨hnil', _⟩ | ⟨_, _, _, _, _, _, _, hlt⟩
    · rw [hnil, hnil']
    · exact absurd heq (Nat.ne_of_lt hlt)
  · rcases hchildren.descend?_alloc hwalk' with
      ⟨_, heq⟩ | ⟨k', rest', child', hcons', hchild', hbelow', _, _⟩
    · exact absurd heq (Nat.ne_of_lt hlt)
    · rcases hchildren.once k k' child child' x rest rest' hchild hbelow hchild' hbelow' with
        ⟨hk, hrest⟩
      rw [hcons, hcons', hk, hrest]

theorem Planted.alloc {s s' : Store} {n : Node} (hchildren : s.Planted s' n.children) :
    s.Planted (s'.alloc n).2 [s'.size] := by
  constructor
  · exact hchildren.size_le.trans (grows_alloc s' n).size_le
  · intro root hmem x hreach
    rw [List.mem_singleton.mp hmem] at hreach
    rcases reach_iff_descend?.mp hreach with ⟨path, hwalk⟩
    rw [size_alloc]
    rcases hchildren.descend?_alloc hwalk with ⟨_, heq⟩ | ⟨_, _, _, _, _, _, hle, hlt⟩
    · rw [heq]
      exact ⟨hchildren.size_le, Nat.lt_succ_self _⟩
    · exact ⟨hle, Nat.lt_succ_of_lt hlt⟩
  · intro i j root root' x path path' hroot hwalk hroot' hwalk'
    rcases List.getElem?_eq_some_iff.mp hroot with ⟨hi, hr⟩
    rcases List.getElem?_eq_some_iff.mp hroot' with ⟨hj, hr'⟩
    have hfirst : i = 0 := Nat.lt_one_iff.mp hi
    have hfirst' : j = 0 := Nat.lt_one_iff.mp hj
    subst hfirst hfirst'
    obtain rfl : s'.size = root := hr
    obtain rfl : s'.size = root' := hr'
    exact ⟨rfl, hchildren.alloc_once hwalk hwalk'⟩

/-!
## What nodes show

What a node shows depends on the nodes below it alone.
-/

theorem Sound.freeze_congr {s s' : Store} (hs : s.Sound) (hs' : s'.Sound)
    (hle : s.size ≤ s'.size) {h : Handle} (hsize : h < s.size)
    (hsame : forall x : Handle, s.Reach h x -> s'.node x = s.node x) :
    s'.freeze h = s.freeze h := by
  induction h using hs.wellFounded.induction with
  | _ h ih =>
      rw [hs'.freeze_eq (Nat.lt_of_lt_of_le hsize hle), hs.freeze_eq hsize,
        hsame h ReflTransGen.refl]
      apply freezeNode_congr
      intro child hchild
      apply ih child hchild (hs.closed h child hchild)
      intro x hreach
      exact hsame x (ReflTransGen.head hchild hreach)

theorem Sound.reach_lt {s : Store} (hs : s.Sound) {h x : Handle} (hsize : h < s.size)
    (hreach : s.Reach h x) : x < s.size := by
  induction hreach with
  | refl => exact hsize
  | tail _ hchild _ => exact hs.closed _ _ hchild

theorem Sound.freeze_grows {s s' : Store} (hs : s.Sound) (hs' : s'.Sound)
    (hgrows : s.Grows s') {h : Handle} (hsize : h < s.size) : s'.freeze h = s.freeze h := by
  apply hs.freeze_congr hs' hgrows.size_le hsize
  intro x hreach
  exact hgrows.node_eq x (hs.reach_lt hsize hreach)

theorem Sound.freeze_write {s : Store} (hs : s.Sound) {h : Handle} (hsize : h < s.size) {n : Node}
    (hclosed : forall c : Handle, c ∈ n.children -> c < s.size)
    (hfree : forall c : Handle, c ∈ n.children -> ¬ s.Reach c h) (hkeys : n.UniqueKeys) :
    (s.write h n).freeze h = freezeNode s.freeze n := by
  have hwritten : (s.write h n).Sound := hs.write hclosed hfree hkeys
  rw [hwritten.freeze_eq (by rw [size_write]; exact hsize), node_write_self hsize]
  apply freezeNode_congr
  intro child hmem
  apply hs.freeze_congr hwritten (by rw [size_write]) (hclosed child hmem)
  intro x hreach
  apply node_write_of_ne
  rintro rfl
  exact hfree child hmem hreach

theorem uniqueKeys_freezeNode {f : Handle -> Tree} {n : Node} (hkeys : n.UniqueKeys)
    (hchildren : forall child : Handle, child ∈ n.children -> (f child).UniqueKeys) :
    (freezeNode f n).UniqueKeys := by
  cases n with
  | map entries =>
      refine ⟨?_, Tree.uniqueKeysEntries_iff.mpr fun t hmem => ?_⟩
      · rw [Entries.Unique, Entries.keys_map]
        exact hkeys
      · rcases List.mem_map.mp hmem with ⟨_, hshown, rfl⟩
        rcases List.mem_map.mp hshown with ⟨entry, hentry, rfl⟩
        exact hchildren entry.2 (List.mem_map_of_mem hentry)
  | array items =>
      refine Tree.uniqueKeysItems_iff.mpr fun t hmem => ?_
      rcases List.mem_map.mp hmem with ⟨item, hitem, rfl⟩
      exact hchildren item hitem
  | _ => exact trivial

theorem Sound.uniqueKeys_freeze {s : Store} (hs : s.Sound) {h : Handle} (hsize : h < s.size) :
    (s.freeze h).UniqueKeys := by
  induction h using hs.wellFounded.induction with
  | _ h ih =>
      rw [hs.freeze_eq hsize]
      apply uniqueKeys_freezeNode (hs.uniqueKeys h)
      intro child hchild
      exact ih child hchild (hs.closed h child hchild)

/-!
## Thawing
-/

mutual

theorem planted_thaw :
    forall {s : Store} {t : Tree}, s.Sound -> t.UniqueKeys ->
      s.Planted (s.thaw t).2 [(s.thaw t).1]
  | s, Tree.null, _, _ => Planted.alloc (planted_nil s)
  | s, Tree.bool _, _, _ => Planted.alloc (planted_nil s)
  | s, Tree.integer _, _, _ => Planted.alloc (planted_nil s)
  | s, Tree.float _, _, _ => Planted.alloc (planted_nil s)
  | s, Tree.string _, _, _ => Planted.alloc (planted_nil s)
  | s, Tree.bytes _, _, _ => Planted.alloc (planted_nil s)
  | _, Tree.array _, hs, hunique => Planted.alloc (planted_thawItems hs hunique)
  | _, Tree.map _, hs, ⟨_, hunique⟩ => Planted.alloc (planted_thawEntries hs hunique)

theorem planted_thawItems :
    forall {s : Store} {items : List Tree}, s.Sound -> Tree.UniqueKeysItems items ->
      s.Planted (s.thawItems items).2 (s.thawItems items).1
  | s, [], _, _ => planted_nil s
  | _, _ :: _, hs, ⟨hunique, hrest⟩ =>
      have hfirst := yields_thaw hs hunique
      (planted_thaw hs hunique).cons (yieldsAll_thawItems hfirst.sound hrest).grows
        (planted_thawItems hfirst.sound hrest)

theorem planted_thawEntries :
    forall {s : Store} {entries : List (String × Tree)}, s.Sound ->
      Tree.UniqueKeysEntries entries ->
        s.Planted (s.thawEntries entries).2 (Entries.values (s.thawEntries entries).1)
  | s, [], _, _ => planted_nil s
  | _, _ :: _, hs, ⟨hunique, hrest⟩ =>
      have hfirst := yields_thaw hs hunique
      (planted_thaw hs hunique).cons (yieldsAll_thawEntries hfirst.sound hrest).right.grows
        (planted_thawEntries hfirst.sound hrest)

end

theorem freeze_alloc {s : Store} {n : Node} (hs : s.Sound)
    (hclosed : forall c : Handle, c ∈ n.children -> c < s.size) (hkeys : n.UniqueKeys) :
    (s.alloc n).2.freeze s.size = freezeNode s.freeze n := by
  have hgrown : (s.alloc n).2.Sound := hs.alloc hclosed hkeys
  have hsize : s.size < (s.alloc n).2.size := by
    rw [size_alloc]
    exact Nat.lt_succ_self s.size
  rw [hgrown.freeze_eq hsize, node_alloc_self]
  apply freezeNode_congr
  intro child hmem
  exact hs.freeze_grows hgrown (grows_alloc s n) (hclosed child hmem)

mutual

/-- A thawed tree shows what it was thawed from. -/
theorem freeze_thaw :
    forall {s : Store} {t : Tree}, s.Sound -> t.UniqueKeys ->
      (s.thaw t).2.freeze (s.thaw t).1 = t
  | _, Tree.null, hs, _ => freeze_alloc hs (fun _ hmem => by cases hmem) trivial
  | _, Tree.bool _, hs, _ => freeze_alloc hs (fun _ hmem => by cases hmem) trivial
  | _, Tree.integer _, hs, _ => freeze_alloc hs (fun _ hmem => by cases hmem) trivial
  | _, Tree.float _, hs, _ => freeze_alloc hs (fun _ hmem => by cases hmem) trivial
  | _, Tree.string _, hs, _ => freeze_alloc hs (fun _ hmem => by cases hmem) trivial
  | _, Tree.bytes _, hs, _ => freeze_alloc hs (fun _ hmem => by cases hmem) trivial
  | s, Tree.array items, hs, hunique => by
      have hitems := yieldsAll_thawItems hs hunique
      have hnode : (s.thaw (Tree.array items)).2.freeze (s.thaw (Tree.array items)).1 =
          freezeNode (s.thawItems items).2.freeze (Node.array (s.thawItems items).1) :=
        freeze_alloc hitems.sound hitems.valid trivial
      rw [hnode, freezeNode, freeze_thawItems hs hunique]
  | s, Tree.map entries, hs, ⟨hkeys, hunique⟩ => by
      have hentries := yieldsAll_thawEntries hs hunique
      have hsame : Entries.Unique (s.thawEntries entries).1 := by
        rw [Entries.Unique, hentries.left]
        exact hkeys
      have hnode : (s.thaw (Tree.map entries)).2.freeze (s.thaw (Tree.map entries)).1 =
          freezeNode (s.thawEntries entries).2.freeze (Node.map (s.thawEntries entries).1) :=
        freeze_alloc hentries.right.sound hentries.right.valid hsame
      rw [hnode, freezeNode, freeze_thawEntries hs hunique]

theorem freeze_thawItems :
    forall {s : Store} {items : List Tree}, s.Sound -> Tree.UniqueKeysItems items ->
      (s.thawItems items).1.map (s.thawItems items).2.freeze = items
  | _, [], _, _ => rfl
  | s, t :: rest, hs, ⟨hunique, hrest⟩ => by
      have hfirst := yields_thaw hs hunique
      have hall := yieldsAll_thawItems hfirst.sound hrest
      have hhead : ((s.thaw t).2.thawItems rest).2.freeze (s.thaw t).1 = t := by
        rw [hfirst.sound.freeze_grows hall.sound hall.grows hfirst.valid, freeze_thaw hs hunique]
      exact congrArg₂ List.cons hhead (freeze_thawItems hfirst.sound hrest)

theorem freeze_thawEntries :
    forall {s : Store} {entries : List (String × Tree)}, s.Sound ->
      Tree.UniqueKeysEntries entries ->
        ((s.thawEntries entries).1.map fun entry =>
          (entry.1, (s.thawEntries entries).2.freeze entry.2)) = entries
  | _, [], _, _ => rfl
  | s, (k, t) :: rest, hs, ⟨hunique, hrest⟩ => by
      have hfirst := yields_thaw hs hunique
      have hall := (yieldsAll_thawEntries hfirst.sound hrest).right
      have hhead : ((s.thaw t).2.thawEntries rest).2.freeze (s.thaw t).1 = t := by
        rw [hfirst.sound.freeze_grows hall.sound hall.grows hfirst.valid, freeze_thaw hs hunique]
      exact congrArg₂ List.cons (congrArg (Prod.mk k) hhead) (freeze_thawEntries hfirst.sound hrest)

end

/-!
## Deep copies
-/

theorem thawItems_cons (s : Store) (t : Tree) (rest : List Tree) :
    s.thawItems (t :: rest) =
      ((s.thaw t).1 :: ((s.thaw t).2.thawItems rest).1, ((s.thaw t).2.thawItems rest).2) := by
  rfl

theorem thawEntries_cons (s : Store) (k : String) (t : Tree) (rest : List (String × Tree)) :
    s.thawEntries ((k, t) :: rest) =
      ((k, (s.thaw t).1) :: ((s.thaw t).2.thawEntries rest).1,
        ((s.thaw t).2.thawEntries rest).2) := by
  rfl

theorem thawItems_map (f : Handle -> Tree) (s : Store) (items : List Handle) :
    s.thawItems (items.map f) = copyAll (fun s h => s.thaw (f h)) s items := by
  induction items generalizing s with
  | nil => rfl
  | cons item rest ih => rw [List.map_cons, thawItems_cons, ih, copyAll_cons]

theorem thawEntries_map (f : Handle -> Tree) (s : Store) (entries : Entries Handle) :
    s.thawEntries (entries.map fun entry => (entry.1, f entry.2)) =
      ((entries.map Prod.fst).zip
          (copyAll (fun s h => s.thaw (f h)) s (entries.map Prod.snd)).1,
        (copyAll (fun s h => s.thaw (f h)) s (entries.map Prod.snd)).2) := by
  induction entries generalizing s with
  | nil => rfl
  | cons entry rest ih =>
      rw [List.map_cons, thawEntries_cons, ih, List.map_cons, List.map_cons, copyAll_cons,
        List.zip_cons_cons]

theorem thaw_freezeNode (f : Handle -> Tree) (s : Store) (n : Node) :
    s.thaw (freezeNode f n) = cloneNode (fun s h => s.thaw (f h)) s n := by
  cases n with
  | map entries => rw [freezeNode, thaw, thawEntries_map, cloneNode]
  | array items => rw [freezeNode, thaw, thawItems_map, cloneNode]
  | _ => rfl

theorem Sound.deepCloneWith_eq_thaw {s s' : Store} (hs : s.Sound) {n m : Nat} {h : Handle}
    (hsize : h < s.size) (hwithin : s.Within n h) (hle : n ≤ m) (hgrows : s.Grows s') :
    deepCloneWith m s' h = s'.thaw (s.freeze h) := by
  induction n generalizing m h s' with
  | zero => exact hwithin.elim
  | succ n ih =>
      cases m with
      | zero => exact absurd hle (Nat.not_succ_le_zero n)
      | succ m =>
          rw [deepCloneWith_succ, hgrows.node_eq h hsize, hs.freeze_eq hsize, thaw_freezeNode]
          apply cloneNode_congr (grows_deepCloneWith m)
          intro s'' hgrows' child hchild
          exact ih (hs.closed h child hchild) (hwithin child hchild)
            (Nat.le_of_succ_le_succ hle) (hgrows.trans hgrows')

theorem Sound.deepClone_eq_thaw {s : Store} (hs : s.Sound) {h : Handle} (hsize : h < s.size) :
    s.deepClone h = s.thaw (s.freeze h) :=
  hs.deepCloneWith_eq_thaw hsize (hs.within hsize) (Nat.le_refl _) (Grows.refl s)

end Store
end Troupe
