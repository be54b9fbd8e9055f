import Troupe.Proofs.Store.PathWrites

/-!
# Reading live and frozen values

A live value and the tree that it shows are read by the same keys.  Where a walk along
children comes to its end, both readings end at the same place.  Where it breaks off, the
tree has nothing there, and what the live value answers depends on the node at which the
next key is to be taken: a node that bars the key is an error, any other one hands out a
null that belongs to no tree.
-/

namespace Troupe

theorem Node.not_bars_of_child? {n : Node} {key : Key} {c : Handle}
    (h : n.child? key = some c) : ¬ n.Bars key := by
  cases n with
  | map entries => exact not_false
  | array items =>
      cases key with
      | field name => cases h
      | index position => exact not_false
  | _ => cases h

namespace Store

open Relation

/-!
## The frozen side
-/

theorem get?_freezeNode (f : Handle -> Tree) (n : Node) (key : Key) :
    (freezeNode f n).get? key = (n.child? key).map f := by
  cases n with
  | map entries => exact Entries.get?_map f entries key.fieldName
  | array items =>
      cases key with
      | field name => rfl
      | index position => exact List.getElem?_map
  | _ => rfl

theorem Sound.follow?_freeze {s : Store} (hs : s.Sound) {h : Handle} (hsize : h < s.size)
    (keys : List Key) : (s.freeze h).follow? keys = (s.walk? h keys).map s.freeze := by
  induction keys generalizing h with
  | nil => rfl
  | cons key rest ih =>
      have hfirst : (s.freeze h).get? key = (s.child? h key).map s.freeze := by
        rw [hs.freeze_eq hsize, get?_freezeNode]
        rfl
      rw [Tree.follow?, List.foldlM_cons, hfirst, walk?]
      cases hchild : s.child? h key with
      | none => rfl
      | some child => exact ih (hs.closed h child (child_of_child? hchild))

/-!
## The live side
-/

def Barred (s : Store) (h : Handle) (keys : List Key) : Prop :=
  exists (front back : List Key) (key : Key) (x : Handle),
    keys = front ++ key :: back ∧ s.walk? h front = some x ∧ (s.node x).Bars key

section Reading

variable {s : Store} {h : Handle} {key : Key} {keys rest : List Key}

theorem barred_cons_iff :
    s.Barred h (key :: rest) <->
      (s.node h).Bars key ∨
        exists child : Handle, s.child? h key = some child ∧ s.Barred child rest := by
  constructor
  · rintro ⟨front, back, k, x, hsplit, hwalk, hbars⟩
    cases front with
    | nil =>
        cases hsplit
        cases hwalk
        exact Or.inl hbars
    | cons first front =>
        cases hsplit
        rcases walk?_cons_eq_some_iff.mp hwalk with ⟨child, hchild, hbelow⟩
        exact Or.inr ⟨child, hchild, front, back, k, x, rfl, hbelow, hbars⟩
  · rintro (hbars | ⟨child, hchild, front, back, k, x, hsplit, hwalk, hbars⟩)
    · exact ⟨[], rest, key, h, rfl, rfl, hbars⟩
    · have hfurther : s.walk? h (key :: front) = some x :=
        walk?_cons_eq_some_iff.mpr ⟨child, hchild, hwalk⟩
      exact ⟨key :: front, back, k, x, congrArg (List.cons key) hsplit, hfurther, hbars⟩

theorem barred_of_child? {child : Handle} (hchild : s.child? h key = some child) :
    s.Barred h (key :: rest) <-> s.Barred child rest := by
  rw [barred_cons_iff, hchild]
  have hopen : ¬ (s.node h).Bars key := Node.not_bars_of_child? hchild
  simp [hopen]

theorem barred_of_child?_eq_none (hchild : s.child? h key = none) :
    s.Barred h (key :: rest) <-> (s.node h).Bars key := by
  rw [barred_cons_iff, hchild]
  simp

inductive Misses (s : Store) (h : Handle) (keys : List Key) : Outcome Handle -> Prop where
  | refused (fault : AccessFault) : s.Barred h keys -> Misses s h keys (s.refuse fault)
  | loose {c : Handle} {s' : Store} :
      ¬ s.Barred h keys -> Loose s s' c -> Misses s h keys (.ok c, s')

theorem Sound.misses (hs : s.Sound) (hwalk : s.walk? h keys = none) :
    s.Misses h keys (s.getKeys h keys) := by
  induction keys generalizing h with
  | nil => cases hwalk
  | cons key rest ih =>
      rw [getKeys]
      cases hchild : s.child? h key with
      | some child =>
          rw [walk?, hchild] at hwalk
          rw [get_of_child? hchild]
          have hbelow := ih hwalk
          dsimp only
          cases houtcome : s.getKeys child rest with
          | mk result s' =>
              rw [houtcome] at hbelow
              cases hbelow with
              | refused fault hbarred =>
                  exact Misses.refused fault ((barred_of_child? hchild).mpr hbarred)
              | loose hopen hloose =>
                  exact Misses.loose (fun hbarred => hopen ((barred_of_child? hchild).mp hbarred))
                    hloose
      | none =>
          rcases get_of_child?_eq_none hchild with ⟨hopen, hget⟩ | ⟨hbars, fault, hget⟩
          · have hnull : s.detachedNull = (.ok s.size, (s.alloc Node.null).2) := rfl
            rcases hs.loose_alloc.getKeys rest with ⟨c, s', hrest, hloose⟩
            rw [hget, hnull]
            dsimp only
            rw [hrest]
            apply Misses.loose
            · rw [barred_of_child?_eq_none hchild]
              exact hopen
            · exact hloose
          · rw [hget]
            exact Misses.refused fault ((barred_of_child?_eq_none hchild).mpr hbars)

theorem Loose.not_reach {s' : Store} {c : Handle} (hloose : Loose s s' c) (hsize : h < s.size) :
    ¬ s'.Reach h c := by
  intro hreach
  rcases hreach.cases_tail with heq | ⟨parent, _, hchild⟩
  · rw [← heq] at hsize
    exact Nat.lt_irrefl _ (Nat.lt_of_lt_of_le hsize hloose.fresh.size_le)
  · exact hloose.unheld parent hchild

end Reading

/-- What a path leads to in the tree that a value shows, it leads to in the value.  Where the
tree has nothing, the value refuses exactly the walks that come to a node that bars the
next key, and for all others it hands out a new null outside of itself. -/
theorem readings_agree {s : Store} (hreachable : s.Reachable) {h : Handle} (hsize : h < s.size)
    (path : Path) :
    (forall t : Tree, (s.freeze h).getPath? path = some t ->
      exists c : Handle, s.getPath h path = (.ok c, s) ∧ s.Reach h c ∧ s.freeze c = t) ∧
      ((s.freeze h).getPath? path = none ->
        ((exists fault : AccessFault, s.getPath h path = s.refuse fault) <->
          s.Barred h path.keys) ∧
          (¬ s.Barred h path.keys -> exists (c : Handle) (s' : Store),
            s.getPath h path = (.ok c, s') ∧ Loose s s' c ∧ ¬ s'.Reach h c)) := by
  have hs := hreachable.sound
  rw [Tree.getPath?, hs.follow?_freeze hsize, getPath]
  constructor
  · intro t hfound
    rcases Option.map_eq_some_iff.mp hfound with ⟨c, hwalk, hshown⟩
    exact ⟨c, getKeys_of_walk? hwalk, reach_of_walk? hwalk, hshown⟩
  · intro hmissing
    have hmisses := hs.misses (Option.map_eq_none_iff.mp hmissing)
    cases houtcome : s.getKeys h path.keys with
    | mk result s' =>
        rw [houtcome] at hmisses
        cases hmisses with
        | refused fault hbarred =>
            exact ⟨iff_of_true ⟨fault, rfl⟩ hbarred, fun hopen => absurd hbarred hopen⟩
        | loose hopen hloose =>
            constructor
            · apply iff_of_false _ hopen
              rintro ⟨fault, hrefused⟩
              cases hrefused
            · intro _
              exact ⟨_, s', rfl, hloose, hloose.not_reach hsize⟩

/-- An item that occurs twice, a name under which to look in an array, and a position
that the array does not have, with a further key after it. -/
theorem readings_agree_repeated_item :
    let s := (((Store.empty.alloc (Node.integer 1)).2.ofItems [0, 0]).2.ofPairs [("a", 1)]).2
    s.Reachable ∧ 2 < s.size ∧
      (exists c : Handle, s.getPath 2 { segments := ["a", "1"] } = (.ok c, s) ∧ s.Reach 2 c ∧
        s.freeze c = Tree.integer 1) ∧
        (exists fault : AccessFault,
          s.getPath 2 { segments := ["a", "x"] } = s.refuse fault) ∧
          exists (c : Handle) (s' : Store),
            s.getPath 2 { segments := ["a", "7", "x"] } = (.ok c, s') ∧ Loose s s' c ∧
              ¬ s'.Reach 2 c := by
  intro s
  have hreachable : s.Reachable :=
    ((reachable_empty.step (Step.leaf rfl)).step (Step.ofItems (by decide))).step
      (Step.ofPairs (by decide))
  have hsize : 2 < s.size := by decide
  have hname : s.child? 2 (Path.keyOfSegment "a") = some 1 := by decide
  rcases readings_agree hreachable hsize { segments := ["a", "1"] } with ⟨hfound, -⟩
  rcases readings_agree hreachable hsize { segments := ["a", "x"] } with ⟨-, hbarred⟩
  rcases readings_agree hreachable hsize { segments := ["a", "7", "x"] } with ⟨-, hopen⟩
  refine ⟨hreachable, hsize, hfound (Tree.integer 1) (by decide), ?_, ?_⟩
  · apply (hbarred (by decide)).left.mpr
    exact (barred_of_child? hname).mpr ((barred_of_child?_eq_none (by decide)).mpr trivial)
  · apply (hopen (by decide)).right
    intro hends
    exact (barred_of_child?_eq_none (by decide)).mp ((barred_of_child? hname).mp hends)

end Store
end Troupe
