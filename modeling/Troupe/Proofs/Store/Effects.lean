import Troupe.Proofs.Store.Isolation
import Troupe.Proofs.Store.Positions
import Troupe.Proofs.Store.Walks
import Troupe.Store.Session

/-!
# Effects

An operation that writes changes the node behind its handle and no other, or nothing
at all if it is refused; what other handles see of that is at the positions where the
node occurs in them.  Operations that read change nothing, and a null that one of them
hands out for want of a child is out of sight of all other handles; an exact reading,
`readExact?`, does not even hand back a store.
-/

namespace Troupe

def Operation.reads : Operation -> Bool
  | get _ | getPath _ | deepClone | share | freeze | length | isEmpty | kind | keys | entries
  | items | canonical | pretty | diagnostic | sameNode _ | equal _ | read _ => true
  | _ => false

namespace Store

open Relation

/-- The operations that write a node, apart from those along paths. -/
inductive Mutation where
  | place (key : Key)
  | set (value : Handle)
  | insert (name : String) (value : Handle)
  | push (value : Handle)
  | remove (key : Key)

namespace Mutation

def Valid (s : Store) : Mutation -> Prop
  | set value => value < s.size
  | insert _ value => value < s.size
  | push value => value < s.size
  | _ => True

def done {α : Type} (outcome : Outcome α) : Outcome Unit :=
  (outcome.1.map fun _ => (), outcome.2)

def run (s : Store) (t : Handle) : Mutation -> Outcome Unit
  | place key => done (s.place t key)
  | set value => s.set t value
  | insert name value => done (s.insert t name value)
  | push value => s.push t value
  | remove key => done (s.remove t key)

end Mutation

/-!
## Writing
-/

/-- What an operation comes to that may write one node. -/
inductive Effect (s : Store) (t : Handle) : Outcome Unit -> Prop where
  | refused (error : ValueError) : Effect s t (.error error, s)
  | changed {s' : Store} : s'.Sound -> s.size ≤ s'.size ->
      (forall x : Handle, x < s.size -> x ≠ t -> s'.node x = s.node x) -> Effect s t (.ok (), s')

section Writing

variable {s : Store} {t value : Handle}

theorem Sound.effect_unchanged (hs : s.Sound) : s.Effect t (.ok (), s) :=
  Effect.changed hs (Nat.le_refl _) fun _ _ _ => rfl

theorem effect_write {n : Node} (hwritten : (s.write t n).Sound) :
    s.Effect t (.ok (), s.write t n) := by
  apply Effect.changed hwritten
  · rw [size_write]
  · intro x _ hne
    exact node_write_of_ne hne

theorem Sound.effect_place (hs : s.Sound) (hsize : t < s.size) (key : Key) :
    s.Effect t (Mutation.done (s.place t key)) := by
  have hhands := hands_place hs hsize key
  have hplaces := places_place hsize key
  cases hplace : s.place t key with
  | mk result s' =>
      rw [hplace] at hhands hplaces
      cases hplaces with
      | refused fault _ => exact Effect.refused _
      | found hchild => exact hs.effect_unchanged
      | made hplaced => exact Effect.changed hhands.sound hplaced.size_le hplaced.node_eq

theorem Sound.effect_set (hs : s.Sound) (hvalue : value < s.size) :
    s.Effect t (s.set t value) := by
  have hwritten := sound_set (h := t) hs hvalue
  unfold Store.set at hwritten ⊢
  by_cases hself : value = t
  · rw [if_pos hself]
    exact hs.effect_unchanged
  · by_cases hsearch : s.reaches value t = true
    · rw [if_neg hself, if_pos hsearch]
      exact Effect.refused _
    · rw [if_neg hself, if_neg hsearch] at hwritten ⊢
      exact effect_write hwritten

theorem Sound.effect_insert (hs : s.Sound) (name : String) (hvalue : value < s.size) :
    s.Effect t (Mutation.done (s.insert t name value)) := by
  have hwritten := sound_insert (h := t) hs name hvalue
  unfold Store.insert at hwritten ⊢
  by_cases hsearch : s.reaches value t = true
  · rw [if_pos hsearch]
    exact Effect.refused _
  · rw [if_neg hsearch] at hwritten ⊢
    cases hnode : s.node t with
    | null =>
        rw [hnode] at hwritten
        exact effect_write hwritten
    | map entries =>
        rw [hnode] at hwritten
        exact effect_write hwritten
    | _ => exact Effect.refused _

theorem Sound.effect_push (hs : s.Sound) (hvalue : value < s.size) :
    s.Effect t (s.push t value) := by
  have hwritten := sound_push (h := t) hs hvalue
  unfold Store.push at hwritten ⊢
  by_cases hsearch : s.reaches value t = true
  · rw [if_pos hsearch]
    exact Effect.refused _
  · rw [if_neg hsearch] at hwritten ⊢
    cases hnode : s.node t with
    | null =>
        rw [hnode] at hwritten
        exact effect_write hwritten
    | array items =>
        rw [hnode] at hwritten
        exact effect_write hwritten
    | _ => exact Effect.refused _

theorem Sound.effect_remove (hs : s.Sound) (key : Key) :
    s.Effect t (Mutation.done (s.remove t key)) := by
  have hwritten := sound_remove hs t key
  unfold Store.remove at hwritten ⊢
  cases hnode : s.node t with
  | null => exact hs.effect_unchanged
  | map entries =>
      rw [hnode] at hwritten
      exact effect_write hwritten
  | array items =>
      cases key with
      | field name => exact Effect.refused _
      | index position =>
          rw [hnode] at hwritten
          exact effect_write hwritten
  | _ => exact Effect.refused _

theorem Sound.effect (hs : s.Sound) (hsize : t < s.size) {m : Mutation} (hm : m.Valid s) :
    s.Effect t (m.run s t) := by
  cases m with
  | place key => exact hs.effect_place hsize key
  | set value => exact hs.effect_set hm
  | insert name value => exact hs.effect_insert name hm
  | push value => exact hs.effect_push hm
  | remove key => exact hs.effect_remove key

theorem Effect.eq_of_error {outcome : Outcome Unit} (heffect : s.Effect t outcome)
    {error : ValueError} (herror : outcome.1 = .error error) : outcome.2 = s := by
  cases heffect with
  | refused => rfl
  | changed => cases herror

theorem Effect.localized {outcome : Outcome Unit} (hs : s.Sound) (heffect : s.Effect t outcome) :
    s.Localized t outcome.2 := by
  cases heffect with
  | refused => exact hs.localized hs (Nat.le_refl _) fun _ _ _ => rfl
  | changed hsound hle hnode => exact hs.localized hsound hle hnode

end Writing

/-!
## Reading
-/

structure Preserves (s s' : Store) : Prop where
  grows : s.Grows s'
  shows : forall h : Handle, h < s.size -> s'.freeze h = s.freeze h

theorem Sound.preserves {s s' : Store} (hs : s.Sound) (hs' : s'.Sound) (hgrows : s.Grows s') :
    s.Preserves s' := by
  constructor
  · exact hgrows
  · intro h hsize
    exact hs.freeze_grows hs' hgrows hsize

theorem Preserves.refl (s : Store) : s.Preserves s := by
  constructor
  · exact Grows.refl s
  · intro h _
    rfl

end Store

namespace Session

open Store

variable {σ : Session}

theorem store_keepIn (name : Option String) (r : Register) :
    (σ.keepIn name r).store = σ.store := by
  cases name <;> rfl

theorem store_yieldHandle (keep : Option String) (outcome : Store.Outcome Handle) :
    (σ.yieldHandle keep outcome).2.store = outcome.2 := by
  unfold yieldHandle
  split
  · exact store_keepIn keep _
  · rfl

theorem preserves_handle (hs : σ.store.Sound)
    (hfrozen : forall (name : String) (t : Tree),
      σ.register? name = some (Register.frozen t) -> t.UniqueKeys) (name : String) :
    σ.store.Preserves (σ.handle name).2.store := by
  have hthaw : forall t : Tree, t.UniqueKeys -> σ.store.Preserves (σ.thaw t).2.store := by
    intro t ht
    have hyields := yields_thaw hs ht
    exact hs.preserves hyields.sound hyields.grows
  unfold handle
  split
  · exact Preserves.refl _
  · next t hregister => exact hthaw t (hfrozen name t hregister)
  · exact hthaw Tree.null trivial

theorem preserves_reading (hs : σ.store.Sound) {h : Handle} (hsize : h < σ.store.size)
    (hfrozen : forall (name : String) (t : Tree),
      σ.register? name = some (Register.frozen t) -> t.UniqueKeys)
    (register : String) (keep : Option String) {operation : Operation}
    (hreads : operation.reads = true) :
    σ.store.Preserves (σ.operateLive register keep h operation).2.store := by
  cases operation with
  | get key =>
      rw [operateLive, store_yieldHandle]
      exact hs.preserves (hands_get hs h key).sound (grows_get σ.store h key)
  | getPath text =>
      rw [operateLive, withPath]
      split
      · next path _ =>
          have hread := hands_getKeys hs hsize path.keys
          rw [store_yieldHandle]
          exact hs.preserves hread.sound (grows_getKeys σ.store h path.keys)
      · exact Preserves.refl _
  | deepClone =>
      have hclone := yields_deepCloneWith σ.store.size hs hsize
      rw [operateLive, store_yieldHandle]
      exact hs.preserves hclone.sound hclone.grows
  | share =>
      rw [operateLive, store_yieldHandle]
      exact Preserves.refl _
  | freeze =>
      rw [operateLive, answer, store_keepIn]
      exact Preserves.refl _
  | equal other => exact preserves_handle hs hfrozen other
  | place | placePath | setPath | set | push | insert | remove | thaw | drop => cases hreads
  | _ => exact Preserves.refl _

end Session

namespace Store

open Relation

/-!
## Nulls that nothing holds
-/

/-- Any handle but one on one side, that one on the other. -/
def Sides.apartFrom (s : Store) (c : Handle) : Sides :=
  { store := s
    held := fun side h =>
      match side with
      | Side.original => h < s.size ∧ h ≠ c
      | Side.copy => h = c }

theorem Sides.Run.held {side holder : Side} {σ σ' : Sides} (hrun : Sides.Run side σ σ')
    {h : Handle} (hheld : σ.held holder h) : σ'.held holder h := by
  induction hrun with
  | refl => exact hheld
  | tail _ hstep ih =>
      cases hstep with
      | act => exact Or.inl ih

section Detachment

variable {s s' : Store} {c : Handle}

theorem Loose.apart (hloose : Loose s s' c) : exists regions : Side -> Handle -> Prop,
    (Sides.apartFrom s' c).Apart regions := by
  refine ⟨(Sides.apartFrom s' c).held, ?_⟩
  constructor
  case sound => exact hloose.sound
  case region =>
    intro side
    cases side with
    | original =>
        constructor
        · intro h hheld
          exact hheld.left
        · rintro h child - hchild
          refine ⟨hloose.sound.closed h child hchild, ?_⟩
          rintro rfl
          exact hloose.unheld h hchild
    | copy =>
        constructor
        · rintro h rfl
          exact hloose.fresh.valid
        · rintro h child rfl hchild
          rw [Child, children, Sides.apartFrom, hloose.fresh.null] at hchild
          cases hchild
  case held => exact fun _ _ hheld => hheld
  case disjoint =>
    intro side h hheld hother
    cases side with
    | original => exact hheld.right hother
    | copy => exact hother.right hheld

/-- A new null that no other handle sees anything of, whatever is done with it and
with what is made below it, and in the end written into one of these nodes. -/
structure Detached (s s' : Store) (c : Handle) : Prop where
  loose : Loose s s' c
  unseen : forall σ : Sides, Sides.Run Side.copy (Sides.apartFrom s' c) σ ->
    forall (t : Handle) (m : Mutation), σ.held Side.copy t -> m.Valid σ.store ->
      forall x : Handle, x < s'.size -> x ≠ c -> (m.run σ.store t).2.freeze x = s'.freeze x

theorem Loose.detached (hloose : Loose s s' c) : s.Detached s' c := by
  constructor
  · exact hloose
  · intro σ hrun t m ht hm x hsize hne
    rcases hloose.apart with ⟨regions, hstart⟩
    have hmixed : Sides.MixedRun (Sides.apartFrom s' c) σ :=
      ReflTransGen.mono (fun _ _ hstep => ⟨Side.copy, hstep⟩) _ _ hrun
    rcases hstart.mixedRun hmixed with ⟨regions', hnow⟩
    have hx : (Sides.apartFrom s' c).held Side.original x := ⟨hsize, hne⟩
    have hregion := hnow.region Side.original
    have hmem := hnow.held Side.original x (hrun.held hx)
    have hfree : ¬ σ.store.Reach x t := fun hreach =>
      hnow.disjoint Side.original t (hregion.reach hmem hreach) (hnow.held Side.copy t ht)
    have hvalid := (hnow.region Side.copy).valid t (hnow.held Side.copy t ht)
    have hlocal := (hnow.sound.effect hvalid hm).localized hnow.sound
    rw [hlocal.elsewhere x (hregion.valid x hmem) hfree]
    exact hstart.run hrun hx

end Detachment

/-- A write changes the node that it goes to, and a refused one nothing; reads change
nothing, and what they hand out for want of a child is seen by nobody else.  The reads
are those of a session, whose frozen trees repeat no keys. -/
theorem effects_local {s : Store} (hreachable : s.Reachable) :
    (forall (t : Handle) (m : Mutation), t < s.size -> m.Valid s ->
      (forall (error : ValueError) (s' : Store), m.run s t = (.error error, s') -> s' = s) ∧
        forall s' : Store, m.run s t = (.ok (), s') -> s.Localized t s') ∧
      (forall (σ : Session) (register : String) (h : Handle) (operation : Operation)
        (keep : Option String), σ.store = s ->
          (forall (name : String) (t : Tree),
            σ.register? name = some (Register.frozen t) -> t.UniqueKeys) ->
          σ.register? register = some (Register.live h) -> h < s.size ->
          operation.reads = true ->
            s.Preserves (σ.perform (Troupe.Step.operate register operation keep)).2.store) ∧
        forall (h c : Handle) (s' : Store), h < s.size ->
          (forall key : Key, s.child? h key = none -> s.get h key = (.ok c, s') ->
            s.Detached s' c) ∧
            forall path : Path, s.walk? h path.keys = none -> s.getPath h path = (.ok c, s') ->
              s.Detached s' c := by
  have hs := hreachable.sound
  refine ⟨fun t m hsize hm => ?_, ?_, fun h c s' hsize => ?_⟩
  · have heffect := hs.effect hsize hm
    constructor
    · intro error s' hrun
      rw [hrun] at heffect
      exact heffect.eq_of_error rfl
    · intro s' hrun
      rw [hrun] at heffect
      exact heffect.localized hs
  · rintro σ register h operation keep rfl hfrozen hregister hsize hreads
    simp only [Session.perform, hregister]
    exact Session.preserves_reading hs hsize hfrozen register keep hreads
  · constructor
    · intro key hchild hget
      exact (hs.loose_of_get hchild hget).detached
    · intro path hwalk hget
      exact (hs.loose_of_getKeys hwalk hget).detached

/-- An item that occurs twice changes at both places. -/
theorem effects_local_repeated_item :
    let s := (((Store.empty.alloc (Node.integer 1)).2.alloc (Node.integer 2)).2.ofItems
      [0, 1, 0]).2
    let σ : Session := { store := s, registers := [("all", Register.live 2)] }
    s.Reachable ∧ s.Localized 0 (s.set 0 1).2 ∧
      ((s.set 0 1).2.freeze 2).descend? [0] = some (Tree.integer 2) ∧
        ((s.set 0 1).2.freeze 2).descend? [2] = some (Tree.integer 2) ∧
          s.Preserves (σ.perform (Troupe.Step.operate "all" Operation.deepClone none)).2.store ∧
            s.Detached (s.get 2 (Key.index 7)).2 3 := by
  intro s σ
  have hreachable : s.Reachable := by
    have hfirst : Step Store.empty (Store.empty.alloc (Node.integer 1)).2 := Step.leaf rfl
    have hsecond : Step (Store.empty.alloc (Node.integer 1)).2
        ((Store.empty.alloc (Node.integer 1)).2.alloc (Node.integer 2)).2 := Step.leaf rfl
    have hitems : Step ((Store.empty.alloc (Node.integer 1)).2.alloc (Node.integer 2)).2 s :=
      Step.ofItems (by decide)
    exact ((ReflTransGen.single hfirst).tail hsecond).tail hitems
  have hfrozen : forall (name : String) (t : Tree),
      σ.register? name = some (Register.frozen t) -> t.UniqueKeys := by
    intro name t hregister
    unfold Session.register? at hregister
    rw [Entries.get?] at hregister
    split at hregister
    · cases hregister
    · cases hregister
  rcases effects_local hreachable with ⟨hwrites, hreads, hmissing⟩
  have hlocal := (hwrites 0 (Mutation.set 1) (by decide) (show 1 < s.size by decide)).right
    (s.set 0 1).2 rfl
  have hfirst := (hlocal.occurrence 2 [0] (by decide) rfl).right
  have hlast := (hlocal.occurrence 2 [2] (by decide) rfl).right
  refine ⟨hreachable, hlocal, hfirst.trans (by decide), hlast.trans (by decide), ?_, ?_⟩
  · exact hreads σ "all" 2 Operation.deepClone none rfl hfrozen rfl (by decide) rfl
  · exact (hmissing 2 3 (s.get 2 (Key.index 7)).2 (by decide)).left (Key.index 7) rfl rfl

end Store
end Troupe
