import Troupe.Proofs.Store.Positions
import Troupe.Proofs.Store.Walks

/-!
# Writes along paths

A write along a path makes the places that are missing and then overwrites the last one
of them.  At most one node that was there before comes to be changed by making places,
and the value does not lie above that node, or it would lie above the place as well.
So the value still shows what it showed, and the same path leads to the same place
afterwards.
-/

namespace Troupe
namespace Store

open Relation

section Walking

variable {s s' : Store} {h t : Handle}

theorem Sound.placeKeys_of_walk? (hs : s.Sound) (hsize : h < s.size) {keys : List Key}
    (hwalk : s.walk? h keys = some t) : s.placeKeys h keys = (.ok t, s) := by
  induction keys generalizing h with
  | nil =>
      cases hwalk
      rfl
  | cons key rest ih =>
      rcases walk?_cons_eq_some_iff.mp hwalk with ⟨child, hchild, hbelow⟩
      rw [placeKeys, place_of_child? hsize hchild]
      exact ih (hs.closed h child (child_of_child? hchild)) hbelow

theorem Sound.walk?_to (hs : s.Sound)
    (hnode : forall x : Handle, x < s.size -> x ≠ t -> s'.node x = s.node x)
    (hsize : h < s.size) {keys : List Key} (hwalk : s.walk? h keys = some t) :
    s'.walk? h keys = some t := by
  induction keys generalizing h with
  | nil => exact hwalk
  | cons key rest ih =>
      rcases walk?_cons_eq_some_iff.mp hwalk with ⟨child, hchild, hbelow⟩
      have hlink := child_of_child? hchild
      have hne : h ≠ t := by
        rintro rfl
        exact hs.not_reach_parent hlink (reach_of_walk? hbelow)
      refine walk?_cons_eq_some_iff.mpr ⟨child, ?_, ih (hs.closed h child hlink) hbelow⟩
      rw [child?_congr (hnode h hsize hne)]
      exact hchild

end Walking

/-!
## Making places along a path
-/

/-- What was made beneath a node so that a place can be reached from there. -/
structure Beneath (s : Store) (n : Handle) (s' : Store) (target : Handle) : Prop where
  old : n < s.size
  new : s.size ≤ target
  node_eq : forall x : Handle, x < s.size -> x ≠ n -> s'.node x = s.node x
  reach : s'.Reach n target

structure Leads (s : Store) (h : Handle) (keys : List Key) (s' : Store) (target : Handle) :
    Prop where
  walk : s'.walk? h keys = some target
  kept : forall (x : Handle) (key : Key) (c : Handle), x < s.size ->
    s.child? x key = some c -> s'.child? x key = some c
  made : s' = s ∨ exists n : Handle, s.Reach h n ∧ s.Beneath n s' target

section Making

variable {s s' s'' : Store} {h c target : Handle} {key : Key} {rest : List Key}

theorem Leads.found (hsize : h < s.size) (hchild : s.child? h key = some c)
    (hrest : s.Leads c rest s' target) : s.Leads h (key :: rest) s' target := by
  constructor
  · exact walk?_cons_eq_some_iff.mpr ⟨c, hrest.kept h key c hsize hchild, hrest.walk⟩
  · exact hrest.kept
  · rcases hrest.made with hsame | ⟨n, hreach, hbeneath⟩
    · exact Or.inl hsame
    · exact Or.inr ⟨n, ReflTransGen.head (child_of_child? hchild) hreach, hbeneath⟩

theorem Leads.made_first (hsize : h < s.size) (hplaced : s.Placed h key s' c)
    (hrest : s'.Leads c rest s'' target) : s.Leads h (key :: rest) s'' target := by
  have hlater : forall x : Handle, x < s.size -> x < s'.size :=
    fun x hx => Nat.lt_of_lt_of_le hx hplaced.size_le
  have hwalk : s''.walk? h (key :: rest) = some target :=
    walk?_cons_eq_some_iff.mpr
      ⟨c, hrest.kept h key c (hlater h hsize) hplaced.child, hrest.walk⟩
  have hbeneath : s.size ≤ target ∧
      forall x : Handle, x < s.size -> s''.node x = s'.node x := by
    rcases hrest.made with rfl | ⟨n, hreach, hbelow⟩
    · refine ⟨?_, fun _ _ => rfl⟩
      rw [hplaced.eq_of_reach (reach_of_walk? hrest.walk)]
      exact hplaced.fresh.size_le
    · refine ⟨hplaced.size_le.trans hbelow.new, fun x hx => ?_⟩
      apply hbelow.node_eq x (hlater x hx)
      rw [hplaced.eq_of_reach hreach]
      exact Nat.ne_of_lt (Nat.lt_of_lt_of_le hx hplaced.fresh.size_le)
  constructor
  · exact hwalk
  · intro x k d hx hchild
    exact hrest.kept x k d (hlater x hx) (hplaced.child?_kept hchild)
  · refine Or.inr ⟨h, ReflTransGen.refl, hsize, hbeneath.left, fun x hx hne => ?_, ?_⟩
    · rw [hbeneath.right x hx, hplaced.node_eq x hx hne]
    · exact reach_of_walk? hwalk

theorem Sound.leads (hs : s.Sound) (hsize : h < s.size) {keys : List Key}
    (hplace : s.placeKeys h keys = (.ok target, s')) : s.Leads h keys s' target := by
  induction keys generalizing s h with
  | nil =>
      cases hplace
      exact ⟨rfl, fun _ _ _ _ hchild => hchild, Or.inl rfl⟩
  | cons key rest ih =>
      have hhands := hands_place hs hsize key
      have hplaces := places_place hsize key
      rw [placeKeys] at hplace
      cases hfirst : s.place h key with
      | mk result s₁ =>
          rw [hfirst] at hhands hplaces hplace
          cases hplaces with
          | refused fault _ => cases hplace
          | found hchild =>
              exact Leads.found hsize hchild
                (ih hs (hs.closed h _ (child_of_child? hchild)) hplace)
          | made hplaced =>
              exact Leads.made_first hsize hplaced
                (ih hhands.sound (hhands.valid _ rfl) hplace)

end Making

/-!
## Writing the place
-/

section Writing

variable {s s' : Store} {n target value : Handle}

theorem Beneath.not_reach (hs : s.Sound) (hbeneath : s.Beneath n s' target)
    (hsize : value < s.size) (hfree : ¬ s'.Reach value target) : ¬ s.Reach value n := by
  intro hreach
  rcases reach_iff_descend?.mp hreach with ⟨path, hpath⟩
  have hpath' := hs.descend?_to hbeneath.node_eq hsize hpath
  exact hfree ((reach_iff_descend?.mpr ⟨path, hpath'⟩).trans hbeneath.reach)

theorem Leads.freeze_value {h : Handle} {keys : List Key} (hs : s.Sound) (hs' : s'.Sound)
    (hle : s.size ≤ s'.size) (hleads : s.Leads h keys s' target) (hsize : value < s.size)
    (hfree : ¬ s'.Reach value target) : s'.freeze value = s.freeze value := by
  rcases hleads.made with rfl | ⟨n, -, hbeneath⟩
  · rfl
  · have hlocal := hs.localized hs' hle hbeneath.node_eq
    exact hlocal.elsewhere value hsize (hbeneath.not_reach hs hsize hfree)

theorem Sound.freeze_set (hs : s.Sound) (htarget : target < s.size) (hvalue : value < s.size)
    (hset : s.set target value = (.ok (), s')) :
    (value = target ∧ s' = s) ∨
      (¬ s.Reach value target ∧ s'.freeze target = s.freeze value ∧
        s'.freeze value = s.freeze value ∧
          forall x : Handle, x < s.size -> x ≠ target -> s'.node x = s.node x) := by
  have hwritten := sound_set (h := target) hs hvalue
  rw [hset] at hwritten
  unfold Store.set at hset
  split at hset
  · next hself =>
      cases hset
      exact Or.inl ⟨hself, rfl⟩
  · split at hset
    · cases hset
    · next hself hsearch =>
        cases hset
        have hfree := not_reach_of_reaches hs hvalue hsearch
        have hnode : forall x : Handle, x < s.size -> x ≠ target ->
            (s.write target (s.node value)).node x = s.node x :=
          fun _ _ hne => node_write_of_ne hne
        have hle : s.size ≤ (s.write target (s.node value)).size :=
          Nat.le_of_eq (size_write ..).symm
        have hkept := (hs.localized hwritten hle hnode).elsewhere value hvalue hfree
        refine Or.inr ⟨hfree, ?_, hkept, hnode⟩
        rw [← hkept, hwritten.freeze_eq (Nat.lt_of_lt_of_le htarget hle), node_write_self htarget,
          hwritten.freeze_eq (Nat.lt_of_lt_of_le hvalue hle), hnode value hvalue hself]

end Writing

/-- A value that was written along a path is read back along the same path, at the
place that the path leads to, and is itself as it was. -/
theorem path_writes_read_back {s s' : Store} (hreachable : s.Reachable) {root value : Handle}
    (hroot : root < s.size) (hvalue : value < s.size) {path : Path}
    (hset : s.setPath root path value = (.ok (), s')) :
    exists target : Handle,
      (s.placePath root path).1 = .ok target ∧ s'.placePath root path = (.ok target, s') ∧
        s'.getPath root path = (.ok target, s') ∧ s'.freeze target = s.freeze value ∧
          s'.freeze value = s.freeze value := by
  have hs := hreachable.sound
  have hhands := hands_placeKeys hs hroot path.keys
  have hfinal := sound_setPath hs path hroot hvalue
  have hfinalLe := size_le_setPath hs hroot path value
  rw [hset] at hfinal hfinalLe
  unfold setPath at hset
  unfold placePath getPath at *
  cases hplace : s.placeKeys root path.keys with
  | mk result s₁ =>
      rw [hplace] at hhands hset
      cases result with
      | error error => cases hset
      | ok target =>
          have hleads := hs.leads hroot hplace
          have htarget := hhands.valid target rfl
          have hroot' := Nat.lt_of_lt_of_le hroot hhands.size_le
          have hvalue' := Nat.lt_of_lt_of_le hvalue hhands.size_le
          have hback : s'.walk? root path.keys = some target ->
              s'.placeKeys root path.keys = (.ok target, s') ∧
                s'.getKeys root path.keys = (.ok target, s') := fun hwalk =>
            ⟨hfinal.placeKeys_of_walk? (Nat.lt_of_lt_of_le hroot hfinalLe) hwalk,
              getKeys_of_walk? hwalk⟩
          refine ⟨target, rfl, ?_⟩
          rcases hhands.sound.freeze_set htarget hvalue' hset with
            ⟨rfl, rfl⟩ | ⟨hfree, hshown, hkept, hnode⟩
          · have hsame : s' = s := by
              rcases hleads.made with hsame | ⟨n, -, hbeneath⟩
              · exact hsame
              · exact absurd hvalue (Nat.not_lt.mpr hbeneath.new)
            rcases hback hleads.walk with ⟨hplaced, hgot⟩
            rw [hsame] at hplaced hgot ⊢
            exact ⟨hplaced, hgot, rfl, rfl⟩
          · have hbefore := hleads.freeze_value hs hhands.sound hhands.size_le hvalue hfree
            rcases hback (hhands.sound.walk?_to hnode hroot' hleads.walk) with ⟨hplaced, hgot⟩
            refine ⟨hplaced, hgot, ?_, ?_⟩
            · rw [hshown, hbefore]
            · rw [hkept, hbefore]

/-- The value is below the root already, and it is so twice. -/
theorem path_writes_read_back_shared :
    let s := (((Store.empty.alloc (Node.integer 1)).2.ofPairs [("a", 0)]).2.ofItems [1, 1]).2
    let path : Path := { segments := ["3", "b"] }
    let s' := (s.setPath 2 path 1).2
    s.Reachable ∧ (s.setPath 2 path 1).1 = .ok () ∧
      s'.freeze 2 = Tree.array [s.freeze 1, s.freeze 1, Tree.null, Tree.map [("b", s.freeze 1)]] ∧
        exists target : Handle, s'.getPath 2 path = (.ok target, s') ∧
          s'.freeze target = s.freeze 1 := by
  intro s path s'
  have hreachable : s.Reachable := by
    have hleaf : Step Store.empty (Store.empty.alloc (Node.integer 1)).2 := Step.leaf rfl
    have hpairs : Step (Store.empty.alloc (Node.integer 1)).2
        ((Store.empty.alloc (Node.integer 1)).2.ofPairs [("a", 0)]).2 := Step.ofPairs (by decide)
    have hitems : Step ((Store.empty.alloc (Node.integer 1)).2.ofPairs [("a", 0)]).2 s :=
      Step.ofItems (by decide)
    exact ((ReflTransGen.single hleaf).tail hpairs).tail hitems
  have hset : s.setPath 2 path 1 = (.ok (), s') := Prod.ext (by decide) rfl
  rcases path_writes_read_back hreachable (by decide) (by decide) hset with
    ⟨target, -, -, hget, hshown, -⟩
  exact ⟨hreachable, by decide, by decide, target, hget, hshown⟩

end Store
end Troupe
