import Troupe.Proofs.Store.Regions

/-!
# Isolation of copies

Two sides that hold handles into disjoint regions of a store never see each other's
changes, however long each of them goes on.  A copy and the store it was made from
are two such sides.
-/

namespace Troupe
namespace Store

open Relation

/-!
## Two sides
-/

inductive Side where
  | original
  | copy
deriving DecidableEq

def Side.other : Side -> Side
  | original => copy
  | copy => original

/-- A store with the handles that each of two sides holds into it. -/
structure Sides where
  store : Store
  held : Side -> Handle -> Prop

namespace Sides

def receive (σ : Sides) (side : Side) (s : Store) (out : List Handle) : Sides :=
  { store := s, held := fun holder h => σ.held holder h ∨ (holder = side ∧ h ∈ out) }

inductive Step (side : Side) (σ : Sides) : Sides -> Prop where
  | act {s : Store} {out : List Handle} :
      σ.store.Act (σ.held side) s out -> Step side σ (σ.receive side s out)

def Run (side : Side) : Sides -> Sides -> Prop :=
  ReflTransGen (Step side)

def MixedRun : Sides -> Sides -> Prop :=
  ReflTransGen fun σ σ' => exists side : Side, Step side σ σ'

/-- Both sides keep to regions of their own. -/
structure Apart (σ : Sides) (regions : Side -> Handle -> Prop) : Prop where
  sound : σ.store.Sound
  region : forall side : Side, σ.store.Region (regions side)
  held : forall (side : Side) (h : Handle), σ.held side h -> regions side h
  disjoint : forall (side : Side) (h : Handle), regions side h -> ¬ regions side.other h

theorem eq_or_eq_other (side holder : Side) : holder = side ∨ holder = side.other := by
  cases side <;> cases holder <;> decide

def withRegion (regions : Side -> Handle -> Prop) (side : Side) (r : Handle -> Prop) :
    Side -> Handle -> Prop :=
  fun holder => if holder = side then r else regions holder

theorem withRegion_self (regions : Side -> Handle -> Prop) (side : Side) (r : Handle -> Prop) :
    withRegion regions side r side = r :=
  if_pos rfl

theorem withRegion_other (regions : Side -> Handle -> Prop) (side : Side) (r : Handle -> Prop) :
    withRegion regions side r side.other = regions side.other := by
  cases side <;> rfl

theorem Apart.extend {σ : Sides} {regions : Side -> Handle -> Prop} (h : σ.Apart regions)
    {side : Side} {s : Store} {r : Handle -> Prop} {out : List Handle} (hs : s.Sound)
    (hextends : σ.store.Extends (regions side) s r)
    (hout : forall x : Handle, x ∈ out -> r x) :
    (σ.receive side s out).Apart (withRegion regions side r) := by
  have hother := hextends.keeps_region (h.region side.other) (h.disjoint side)
  constructor
  · exact hs
  · intro holder
    rcases eq_or_eq_other side holder with rfl | rfl
    · rw [withRegion_self]
      exact hextends.region
    · rw [withRegion_other]
      exact hother.left
  · rintro holder x (hold | ⟨rfl, hnew⟩)
    · rcases eq_or_eq_other side holder with rfl | rfl
      · rw [withRegion_self]
        exact hextends.mono x (h.held _ x hold)
      · rw [withRegion_other]
        exact h.held _ x hold
    · rw [withRegion_self]
      exact hout x hnew
  · intro holder x hx hx'
    rcases eq_or_eq_other side holder with rfl | rfl
    · rw [withRegion_self] at hx
      rw [withRegion_other] at hx'
      exact hother.right x hx hx'
    · have hback : side.other.other = side := by cases side <;> rfl
      rw [withRegion_other] at hx
      rw [hback, withRegion_self] at hx'
      exact hother.right x hx' hx

/-- What a side does changes nothing in the other one's region. -/
theorem Apart.step {σ σ' : Sides} {regions : Side -> Handle -> Prop} (h : σ.Apart regions)
    {side : Side} (hstep : Step side σ σ') :
    (exists regions' : Side -> Handle -> Prop, σ'.Apart regions') ∧
      (forall x : Handle, σ.held side.other x -> σ'.held side.other x) ∧
        forall x : Handle, σ.held side.other x -> σ'.store.freeze x = σ.store.freeze x := by
  cases hstep with
  | @act s out hact =>
      have hvalid : forall x : Handle, σ.held side x -> x < σ.store.size :=
        fun x hx => (h.region side).valid x (h.held side x hx)
      have hsound : s.Sound := h.sound.step (hact.step hvalid)
      rcases hact.confined h.sound (h.region side) (h.held side) with ⟨r, hextends, hout⟩
      refine ⟨⟨_, h.extend hsound hextends hout⟩, fun x => Or.inl, fun x hx => ?_⟩
      have hmem := h.held side.other x hx
      apply h.sound.freeze_congr hsound hextends.size_le ((h.region side.other).valid x hmem)
      intro y hreach
      exact hextends.keeps_node (h.region side.other) (h.disjoint side)
        ((h.region side.other).reach hmem hreach)

theorem Apart.run {σ σ' : Sides} {regions : Side -> Handle -> Prop} (h : σ.Apart regions)
    {side : Side} (hrun : Run side σ σ') {x : Handle} (hx : σ.held side.other x) :
    σ'.store.freeze x = σ.store.freeze x := by
  induction hrun using ReflTransGen.head_induction_on generalizing regions with
  | refl => rfl
  | head hstep _ ih =>
      rcases h.step hstep with ⟨⟨regions', hnext⟩, hheld, hsame⟩
      rw [ih hnext (hheld x hx), hsame x hx]

theorem Apart.mixedRun {σ σ' : Sides} {regions : Side -> Handle -> Prop} (h : σ.Apart regions)
    (hrun : MixedRun σ σ') : exists regions' : Side -> Handle -> Prop, σ'.Apart regions' := by
  induction hrun with
  | refl => exact ⟨regions, h⟩
  | tail _ hstep ih =>
      rcases ih with ⟨regions', hnow⟩
      rcases hstep with ⟨side, hstep⟩
      exact (hnow.step hstep).left

/-- A copy on one side, and whatever there was before it was made on the other. -/
def ofCopy (s : Store) (copy : Handle × Store) : Sides :=
  { store := copy.2
    held := fun side h =>
      match side with
      | Side.original => h < s.size
      | Side.copy => h = copy.1 }

end Sides

/-!
## Copies
-/

theorem Sound.apart_thaw {s : Store} (hs : s.Sound) {t : Tree} (hunique : t.UniqueKeys) :
    exists regions : Side -> Handle -> Prop, (Sides.ofCopy s (s.thaw t)).Apart regions := by
  have hcopy := yields_thaw hs hunique
  have hplanted := planted_thaw hs hunique
  refine ⟨fun side h =>
    match side with
    | Side.original => h < s.size
    | Side.copy => (s.thaw t).2.Reach (s.thaw t).1 h, ?_⟩
  constructor
  · exact hcopy.sound
  · intro side
    cases side with
    | original =>
        constructor
        · intro h hsize
          exact Nat.lt_of_lt_of_le hsize hcopy.grows.size_le
        · intro h child hsize hchild
          rw [Child, children, Sides.ofCopy, hcopy.grows.node_eq h hsize] at hchild
          exact hs.closed h child hchild
    | copy =>
        constructor
        · intro h hreach
          exact (hplanted.fresh _ List.mem_cons_self h hreach).right
        · intro h child hreach hchild
          exact ReflTransGen.tail hreach hchild
  · intro side h hheld
    cases side with
    | original => exact hheld
    | copy =>
        have heq : h = (s.thaw t).1 := hheld
        rw [heq]
        exact ReflTransGen.refl
  · intro side h hmem hmem'
    cases side with
    | original =>
        have hnew := (hplanted.fresh _ List.mem_cons_self h hmem').left
        exact Nat.not_lt.mpr hnew hmem
    | copy =>
        have hnew := (hplanted.fresh _ List.mem_cons_self h hmem).left
        exact Nat.not_lt.mpr hnew hmem'

/-- A copy is made of new nodes without sharing, shows what its original shows, and
from then on neither side sees anything of what the other one does. -/
theorem copies_isolated {s : Store} (hreachable : s.Reachable) {a : Handle} (hsize : a < s.size)
    {copy : Handle × Store} (hcopy : copy = s.deepClone a ∨ copy = s.thaw (s.freeze a)) :
    (forall x : Handle, copy.2.Reach copy.1 x ->
      (s.size ≤ x ∧ x < copy.2.size) ∧
        ∃! path : List Nat, copy.2.descend? copy.1 path = some x) ∧
      copy.2.freeze copy.1 = s.freeze a ∧
        (forall h : Handle, h < s.size -> copy.2.freeze h = s.freeze h) ∧
          forall (σ σ' : Sides) (side : Side), Sides.MixedRun (Sides.ofCopy s copy) σ ->
            Sides.Run side σ σ' -> forall h : Handle, σ.held side.other h ->
              σ'.store.freeze h = σ.store.freeze h := by
  have hs := hreachable.sound
  have hthaw : copy = s.thaw (s.freeze a) := by
    rcases hcopy with hclone | hthaw
    · rw [hclone, hs.deepClone_eq_thaw hsize]
    · exact hthaw
  rw [hthaw]
  have hunique := hs.uniqueKeys_freeze hsize
  have hmade := yields_thaw hs hunique
  have hplanted := planted_thaw hs hunique
  refine ⟨?_, freeze_thaw hs hunique, ?_, ?_⟩
  · intro x hreach
    refine ⟨hplanted.fresh _ List.mem_cons_self x hreach, ?_⟩
    rcases reach_iff_descend?.mp hreach with ⟨path, hpath⟩
    refine ⟨path, hpath, ?_⟩
    intro path' hpath'
    exact (hplanted.once 0 0 _ _ x path' path rfl hpath' rfl hpath).right
  · intro h hold
    exact hs.freeze_grows hmade.sound hmade.grows hold
  · intro σ σ' side hmixed hrun h hheld
    rcases hs.apart_thaw hunique with ⟨regions, hstart⟩
    rcases hstart.mixedRun hmixed with ⟨regions', hnow⟩
    exact hnow.run hrun hheld

/-- Two items that are one node become two nodes, and the copy grows by itself. -/
theorem copies_isolated_shared_item :
    let s := ((Store.empty.alloc (Node.integer 1)).2.ofItems [0, 0]).2
    let copy := s.deepClone 1
    (s.Reachable ∧ 1 < s.size ∧ copy.2.Reach copy.1 3) ∧
      (∃! path : List Nat, copy.2.descend? copy.1 path = some 3) ∧
        copy.2.freeze copy.1 = Tree.array [Tree.integer 1, Tree.integer 1] ∧
          (copy.2.place copy.1 (Key.index 3)).2.freeze 1 = copy.2.freeze 1 := by
  intro s copy
  have hreachable : s.Reachable := by
    have hleaf : Step Store.empty (Store.empty.alloc (Node.integer 1)).2 := Step.leaf rfl
    have hitems : Step (Store.empty.alloc (Node.integer 1)).2 s :=
      Step.ofItems (by decide)
    exact (ReflTransGen.single hleaf).tail hitems
  have hsize : 1 < s.size := by decide
  have hitem : copy.2.Reach copy.1 3 := by
    have hchild : copy.2.Child copy.1 3 := show 3 ∈ copy.2.children copy.1 by decide
    exact ReflTransGen.single hchild
  have hclone : copy = s.deepClone 1 ∨ copy = s.thaw (s.freeze 1) := Or.inl rfl
  rcases copies_isolated hreachable hsize hclone with ⟨hnodes, hshows, _, hruns⟩
  have hplace : Sides.Run Side.copy (Sides.ofCopy s copy) _ :=
    ReflTransGen.single (Sides.Step.act (Act.place (Key.index 3) rfl))
  refine ⟨⟨hreachable, hsize, hitem⟩, (hnodes 3 hitem).right, ?_, ?_⟩
  · rw [hshows]
    decide
  · exact hruns (Sides.ofCopy s copy) _ Side.copy ReflTransGen.refl hplace 1 hsize

end Store
end Troupe
