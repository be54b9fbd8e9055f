import Troupe.Proofs.Store.PathWrites

/-!
# Places along paths

Making places along a path is not undone where it ends in a refusal, and need not be: all
that it does is to give nodes on the walk new children after those that they had.  Nothing
that was there is lost, moved or overwritten, so every walk along children that were there
still ends where it ended.
-/

namespace Troupe
namespace Store

open Relation

/-- A node that has got children during a walk: the walk comes to it, and the next key named
nothing in it and names the last of the new children now. -/
structure Extended (s : Store) (root : Handle) (front : List Key) (key : Key) (s' : Store)
    (x : Handle) (more : List Handle) : Prop where
  walk : s'.walk? root front = some x
  old : x < s.size -> s.walk? root front = some x
  missing : s.child? x key = none
  gains : ((s.node x).openedBy key).Gains key more (s'.node x)
  fresh : forall c : Handle, c ∈ more -> s.size ≤ c ∧ c < s'.size

/-- What a walk that makes places has done to a store.  A new node has one place only: there
is one node that holds it, at one position. -/
structure Outgrown (s : Store) (root : Handle) (keys : List Key) (s' : Store) : Prop where
  size_le : s.size ≤ s'.size
  nodes : forall x : Handle, s'.node x = s.node x ∨
    exists (front back : List Key) (key : Key) (more : List Handle),
      keys = front ++ key :: back ∧ s.Extended root front key s' x more
  once : forall (x y c : Handle) (i j : Nat), s.size ≤ c ->
    (s'.children x)[i]? = some c -> (s'.children y)[j]? = some c -> x = y ∧ i = j
  kept : forall (x : Handle) (key : Key) (c : Handle), x < s.size ->
    s.child? x key = some c -> s'.child? x key = some c

section Growth

variable {s s' s'' : Store} {h c : Handle} {key : Key} {keys rest : List Key}

theorem Sound.outgrown_self (hs : s.Sound) : s.Outgrown h keys s := by
  constructor
  · exact Nat.le_refl _
  · exact fun _ => Or.inl rfl
  · intro x y c i j hnew hx
    have hold := hs.closed x c (List.mem_of_getElem? hx)
    exact absurd hold (Nat.not_lt.mpr hnew)
  · exact fun _ _ _ _ hchild => hchild

theorem Outgrown.found (hsize : h < s.size) (hchild : s.child? h key = some c)
    (hrest : s.Outgrown c rest s') : s.Outgrown h (key :: rest) s' := by
  have hlater := hrest.kept h key c hsize hchild
  constructor
  · exact hrest.size_le
  · intro x
    rcases hrest.nodes x with hsame | ⟨front, back, k, more, hsplit, hextended⟩
    · exact Or.inl hsame
    · refine Or.inr ⟨key :: front, back, k, more, congrArg (List.cons key) hsplit, ?_⟩
      constructor
      · exact walk?_cons_eq_some_iff.mpr ⟨c, hlater, hextended.walk⟩
      · exact fun hx => walk?_cons_eq_some_iff.mpr ⟨c, hchild, hextended.old hx⟩
      · exact hextended.missing
      · exact hextended.gains
      · exact hextended.fresh
  · exact hrest.once
  · exact hrest.kept

theorem Outgrown.position_eq (hgrown : s.Outgrown h keys s') {x : Handle} {i : Nat}
    (hchild : (s'.children x)[i]? = some c) (hold : c < s.size) :
    (s.children x)[i]? = some c := by
  rcases hgrown.nodes x with hsame | ⟨_, _, _, _, _, hextended⟩
  · rw [children, hsame] at hchild
    exact hchild
  · rw [children, hextended.gains.children_eq, Node.children_openedBy] at hchild
    by_cases hi : i < (s.node x).children.length
    · rw [List.getElem?_append_left hi] at hchild
      exact hchild
    · rw [List.getElem?_append_right (Nat.not_lt.mp hi)] at hchild
      have hmem := hextended.fresh c (List.mem_of_getElem? hchild)
      exact absurd hold (Nat.not_lt.mpr hmem.left)

theorem Placed.position (hs : s.Sound) (hplaced : s.Placed h key s' c) {x d : Handle} {i : Nat}
    (hchild : (s'.children x)[i]? = some d) (hnew : s.size ≤ d) :
    x = h ∧ i = (s.children h).length + (d - s.size) := by
  have hself : x = h := by
    by_contra hne
    rw [children, hplaced.others x hne] at hchild
    have hold := hs.closed x d (List.mem_of_getElem? hchild)
    exact Nat.not_lt.mpr hnew hold
  rcases hplaced.made with ⟨padding, -, -, hgains⟩
  rw [hself, children, hgains.children_eq, Node.children_openedBy] at hchild
  refine ⟨hself, ?_⟩
  by_cases hi : i < (s.node h).children.length
  · rw [List.getElem?_append_left hi] at hchild
    have hold := hs.closed h d (List.mem_of_getElem? hchild)
    exact absurd hold (Nat.not_lt.mpr hnew)
  · rw [List.getElem?_append_right (Nat.not_lt.mp hi)] at hchild
    rcases List.getElem?_eq_some_iff.mp hchild with ⟨hlt, heq⟩
    rw [List.getElem_range'] at heq
    rw [children, ← heq]
    omega

theorem Placed.node_after (hplaced : s.Placed h key s' c) (hrest : s'.Outgrown c rest s'')
    {x : Handle} (hsize : x < s'.size) (hne : x ≠ c) : s''.node x = s'.node x := by
  rcases hrest.nodes x with hsame | ⟨_, _, _, _, _, hextended⟩
  · exact hsame
  · exact absurd (hplaced.eq_of_reach (reach_of_walk? (hextended.old hsize))) hne

theorem Outgrown.made (hs : s.Sound) (hplaced : s.Placed h key s' c)
    (hrest : s'.Outgrown c rest s'') : s.Outgrown h (key :: rest) s'' := by
  have hlater : forall {x : Handle}, x < s.size -> x < s'.size :=
    fun hx => Nat.lt_of_lt_of_le hx hplaced.size_le
  have hother : forall {x : Handle}, x < s.size -> x ≠ c :=
    fun hx => Nat.ne_of_lt (Nat.lt_of_lt_of_le hx hplaced.fresh.size_le)
  have hself := hplaced.node_after hrest (hlater hplaced.old) (hother hplaced.old)
  have hchild := hrest.kept h key c (hlater hplaced.old) hplaced.child
  constructor
  · exact hplaced.size_le.trans hrest.size_le
  · intro x
    by_cases heq : x = h
    · rcases hplaced.made with ⟨padding, hsize, -, hgains⟩
      rw [heq]
      refine Or.inr ⟨[], rest, key, List.range' s.size (padding + 1), rfl, ?_⟩
      constructor
      · rfl
      · exact fun _ => rfl
      · exact hplaced.missing
      · rw [hself]
        exact hgains
      · intro d hmem
        rcases List.mem_range'_1.mp hmem with ⟨hle, hlt⟩
        rw [← Nat.add_assoc, ← hsize] at hlt
        exact ⟨hle, Nat.lt_of_lt_of_le hlt hrest.size_le⟩
    · have hbefore := hplaced.others x heq
      rcases hrest.nodes x with hsame | ⟨front, back, k, more, hsplit, hextended⟩
      · exact Or.inl (hsame.trans hbefore)
      · refine Or.inr ⟨key :: front, back, k, more, congrArg (List.cons key) hsplit, ?_⟩
        constructor
        · exact walk?_cons_eq_some_iff.mpr ⟨c, hchild, hextended.walk⟩
        · intro hx
          have hreach := reach_of_walk? (hextended.old (hlater hx))
          exact absurd (hplaced.eq_of_reach hreach) (hother hx)
        · rw [← child?_congr hbefore]
          exact hextended.missing
        · rw [← hbefore]
          exact hextended.gains
        · intro d hmem
          have hd := hextended.fresh d hmem
          exact ⟨hplaced.size_le.trans hd.left, hd.right⟩
  · intro x y d i j hnew hx hy
    by_cases hd : d < s'.size
    · have hfirst := hplaced.position hs (hrest.position_eq hx hd) hnew
      have hsecond := hplaced.position hs (hrest.position_eq hy hd) hnew
      exact ⟨hfirst.left.trans hsecond.left.symm, hfirst.right.trans hsecond.right.symm⟩
    · exact hrest.once x y d i j (Nat.not_lt.mp hd) hx hy
  · intro x k d hx hd
    exact hrest.kept x k d (hlater hx) (hplaced.child?_kept hd)

/-- Whether it succeeds or is refused on its way, a walk that makes places only adds. -/
theorem Sound.outgrown (hs : s.Sound) (hsize : h < s.size) (keys : List Key) :
    s.Outgrown h keys (s.placeKeys h keys).2 := by
  induction keys generalizing s h with
  | nil => exact hs.outgrown_self
  | cons key rest ih =>
      have hhands := hands_place hs hsize key
      have hplaces := places_place hsize key
      rw [placeKeys]
      cases hfirst : s.place h key with
      | mk result s₁ =>
          rw [hfirst] at hhands hplaces
          cases hplaces with
          | refused fault _ => exact hs.outgrown_self
          | found hchild =>
              exact Outgrown.found hsize hchild (ih hs (hs.closed h _ (child_of_child? hchild)))
          | made hplaced =>
              exact Outgrown.made hs hplaced (ih hhands.sound (hhands.valid _ rfl))

end Growth

/-- Places along a path come after what was there, are new and apart from each other, and
leave all paths as they were that led somewhere; along such a path nothing is made. -/
theorem places_only_add {s : Store} (hreachable : s.Reachable) {root : Handle}
    (hroot : root < s.size) (path : Path) :
    let s' := (s.placePath root path).2
    s.Outgrown root path.keys s' ∧
      (forall c : Handle, (s.placePath root path).1 = .ok c ->
        s'.walk? root path.keys = some c) ∧
        (forall (h c : Handle) (other : Path), h < s.size -> s.walk? h other.keys = some c ->
          s'.getPath h other = (.ok c, s') ∧ s'.placePath h other = (.ok c, s')) ∧
          forall c : Handle, s.walk? root path.keys = some c ->
            s.placePath root path = (.ok c, s) ∧ s.getPath root path = (.ok c, s) := by
  intro s'
  have hs := hreachable.sound
  have hhands := hands_placeKeys hs hroot path.keys
  have hgrown := hs.outgrown hroot path.keys
  refine ⟨hgrown, fun c hok => ?_, fun h c other hsize hwalk => ?_, fun c hwalk => ?_⟩
  · exact (hs.leads hroot (Prod.ext hok rfl)).walk
  · have hsize' : h < s'.size := Nat.lt_of_lt_of_le hsize hgrown.size_le
    have hwalk' : s'.walk? h other.keys = some c := hs.walk?_kept hgrown.kept hsize hwalk
    exact ⟨getKeys_of_walk? hwalk', hhands.sound.placeKeys_of_walk? hsize' hwalk'⟩
  · exact ⟨hs.placeKeys_of_walk? hroot hwalk, getKeys_of_walk? hwalk⟩

/-- The last key is too far out for an array, when the places before it are made. -/
theorem places_only_add_refused_late :
    let s := (((Store.empty.alloc (Node.integer 1)).2.ofItems [0, 0]).2.ofPairs [("a", 1)]).2
    let path : Path := { segments := ["a", "3", "b", "2000"] }
    let s' := (s.placePath 2 path).2
    s.Reachable ∧ 2 < s.size ∧
      (s.placePath 2 path).1 = .error (ValueError.invalidAccess (AccessFault.gap 2000 0)) ∧
        s'.freeze 2 = Tree.map [("a", Tree.array [Tree.integer 1, Tree.integer 1, Tree.null,
          Tree.map [("b", Tree.null)]])] ∧
          s.Outgrown 2 path.keys s' ∧ s'.getPath 2 { segments := ["a", "1"] } = (.ok 0, s') := by
  intro s path s'
  have hreachable : s.Reachable :=
    ((reachable_empty.step (Step.leaf rfl)).step (Step.ofItems (by decide))).step
      (Step.ofPairs (by decide))
  have hsize : 2 < s.size := by decide
  rcases places_only_add hreachable hsize path with ⟨hgrown, -, hothers, -⟩
  have hold := hothers 2 0 { segments := ["a", "1"] } hsize (by decide)
  exact ⟨hreachable, hsize, by decide, by decide, hgrown, hold.left⟩

end Store
end Troupe
