import Troupe.Proofs.Store.Steps

/-!
# Containment

The refusals of `set`, `insert`, and `push` are exact: each of them is given in
the one case in which carrying on would close a cycle.  Together with the
invariant of runs this says what stores look like that operations can lead to.
-/

namespace Troupe
namespace Store

open Relation

/-!
## Links that close cycles
-/

def Linked (s : Store) (target value : Handle) (parent child : Handle) : Prop :=
  s.Child parent child ∨ (parent = target ∧ child = value)

def Cyclic (link : Handle -> Handle -> Prop) : Prop :=
  exists h : Handle, TransGen link h h

theorem cyclic_linked_iff {s : Store} (hs : s.Sound) (target value : Handle) :
    Cyclic (s.Linked target value) <-> s.Reach value target := by
  constructor
  · intro hcyclic
    by_contra hfree
    have hlinks : forall c : Handle, c ∈ [value] -> ¬ s.Reach c target := by
      intro c hmem
      rw [List.mem_singleton.mp hmem]
      exact hfree
    rcases hs.ranked_with_links hlinks with ⟨rank, hrank⟩
    have hlinked : forall parent child : Handle,
        s.Linked target value parent child -> rank child < rank parent := by
      rintro parent child (hold | ⟨hparent, hchild⟩)
      · exact hrank parent child (Or.inl hold)
      · exact hrank parent child (Or.inr ⟨hparent, List.mem_singleton.mpr hchild⟩)
    rcases hcyclic with ⟨h, hloop⟩
    exact not_loop_of_ranked hlinked h hloop
  · intro hreach
    have hlink : s.Linked target value target value := Or.inr ⟨rfl, rfl⟩
    have hpath : ReflTransGen (s.Linked target value) value target :=
      ReflTransGen.mono (fun _ _ hchild => Or.inl hchild) _ _ hreach
    exact ⟨target, TransGen.head' hlink hpath⟩

theorem reach_to {s s' : Store} {h c : Handle}
    (hnode : forall x : Handle, x ≠ h -> s'.node x = s.node x) (hreach : s.Reach c h) :
    s'.Reach c h := by
  induction hreach using ReflTransGen.head_induction_on with
  | refl => exact ReflTransGen.refl
  | @head parent child hchild _ ih =>
      by_cases hparent : parent = h
      · rw [hparent]
        exact ReflTransGen.refl
      · have hchild' : s'.Child parent child := by
          rw [Child, children, hnode parent hparent]
          exact hchild
        exact ReflTransGen.head hchild' ih

theorem cyclic_overwritten_iff {s : Store} (hs : s.Sound) {target : Handle}
    (hsize : target < s.size) (value : Handle) :
    Cyclic (s.write target (s.node value)).Child <->
      value ≠ target ∧ s.Reach value target := by
  constructor
  · rintro ⟨h, hloop⟩
    constructor
    · intro heq
      have hsound : (s.write target (s.node value)).Sound := by
        rw [heq]
        exact hs.write_of_subset (fun _ hmem => Or.inl hmem) (hs.uniqueKeys target)
      exact hsound.not_transGen h hloop
    · by_contra hfree
      have hsound : (s.write target (s.node value)).Sound := by
        apply hs.write
        · exact hs.closed value
        · intro c hchild hreach
          exact hfree (ReflTransGen.head hchild hreach)
        · exact hs.uniqueKeys value
      exact hsound.not_transGen h hloop
  · rintro ⟨hne, hreach⟩
    rcases hreach.cases_head with heq | ⟨child, hchild, hbelow⟩
    · exact absurd heq hne
    · have hlink : (s.write target (s.node value)).Child target child := by
        rw [Child, children, node_write_self hsize]
        exact hchild
      exact ⟨target, TransGen.head' hlink (reach_to (fun _ => node_write_of_ne) hbelow)⟩

/-!
## Refusals
-/

theorem insert_refused_iff {s : Store} (hs : s.Sound) (target : Handle) (name : String)
    {value : Handle} (hsize : value < s.size) :
    (s.insert target name value).1 =
        .error (ValueError.invalidAccess AccessFault.placedBeneathItself) <->
      s.Reach value target := by
  rw [← hs.reaches_iff hsize]
  unfold insert
  constructor
  · intro h
    by_contra hsearch
    rw [if_neg hsearch] at h
    cases hnode : s.node target <;> rw [hnode] at h <;> cases h
  · intro hsearch
    rw [if_pos hsearch]
    rfl

theorem push_refused_iff {s : Store} (hs : s.Sound) (target : Handle) {value : Handle}
    (hsize : value < s.size) :
    (s.push target value).1 =
        .error (ValueError.invalidAccess AccessFault.placedBeneathItself) <->
      s.Reach value target := by
  rw [← hs.reaches_iff hsize]
  unfold push
  constructor
  · intro h
    by_contra hsearch
    rw [if_neg hsearch] at h
    cases hnode : s.node target <;> rw [hnode] at h <;> cases h
  · intro hsearch
    rw [if_pos hsearch]
    rfl

theorem set_self (s : Store) (h : Handle) : s.set h h = (.ok (), s) := by
  rw [set, if_pos rfl]

theorem set_refused_iff {s : Store} (hs : s.Sound) (target : Handle) {value : Handle}
    (hsize : value < s.size) :
    (s.set target value).1 =
        .error (ValueError.invalidAccess AccessFault.assignsOwnTarget) <->
      value ≠ target ∧ s.Reach value target := by
  rw [← hs.reaches_iff hsize]
  unfold set
  by_cases heq : value = target
  · rw [if_pos heq]
    constructor
    · intro h
      cases h
    · rintro ⟨hne, _⟩
      exact absurd heq hne
  · rw [if_neg heq]
    constructor
    · intro h
      refine ⟨heq, ?_⟩
      by_contra hsearch
      rw [if_neg hsearch] at h
      cases h
    · rintro ⟨_, hsearch⟩
      rw [if_pos hsearch]
      rfl

/-!
## Reachable stores
-/

/-- No node lies below itself, and no map repeats a key. -/
structure Treelike (s : Store) : Prop where
  wellFounded : WellFounded fun child parent : Handle => s.Child parent child
  acyclic : ¬ Cyclic s.Child
  uniqueKeys : forall (h : Handle) (entries : Entries Handle),
    s.node h = Node.map entries -> (Entries.keys entries).Nodup

/-- What follows children is the plain recursion over them. -/
structure Recurses (s : Store) : Prop where
  freeze : forall h : Handle, h < s.size -> s.freeze h = freezeNode s.freeze (s.node h)
  deepClone : forall h : Handle, h < s.size -> s.deepClone h = cloneNode deepClone s (s.node h)
  reaches : forall h target : Handle, h < s.size ->
    s.reaches h target =
      (h == target || (s.children h).any fun child => s.reaches child target)
  equal : forall a b : Handle, a < s.size ->
    s.equal a b = (a == b || equalNodes s.equal (s.node a) (s.node b))
  document : forall h : Handle, h < s.size ->
    (s.freeze h).toJson = nodeDocument (fun child => (s.freeze child).toJson) (s.node h)

/-- Links are refused exactly when they would close a cycle. -/
structure Guards (s : Store) (target value : Handle) : Prop where
  reaches : s.reaches value target = true <-> s.Reach value target
  insert : forall name : String,
    (s.insert target name value).1 =
        .error (ValueError.invalidAccess AccessFault.placedBeneathItself) <->
      s.Reach value target
  push :
    (s.push target value).1 =
        .error (ValueError.invalidAccess AccessFault.placedBeneathItself) <->
      s.Reach value target
  cyclic_linked : Cyclic (s.Linked target value) <-> s.Reach value target
  set :
    (s.set target value).1 =
        .error (ValueError.invalidAccess AccessFault.assignsOwnTarget) <->
      value ≠ target ∧ s.Reach value target
  cyclic_overwritten :
    Cyclic (s.write target (s.node value)).Child <-> value ≠ target ∧ s.Reach value target
  set_self : s.set target target = (.ok (), s)

theorem Sound.treelike {s : Store} (hs : s.Sound) : s.Treelike := by
  constructor
  · exact hs.wellFounded
  · rintro ⟨h, hloop⟩
    exact hs.not_transGen h hloop
  · intro h entries hnode
    have hkeys := hs.uniqueKeys h
    rw [hnode] at hkeys
    exact hkeys

theorem Sound.recurses {s : Store} (hs : s.Sound) : s.Recurses := by
  constructor
  · intro h hsize
    exact hs.freeze_eq hsize
  · intro h hsize
    exact hs.deepClone_eq hsize
  · intro h target hsize
    exact hs.reaches_eq hsize target
  · intro a b hsize
    exact hs.equal_eq hsize b
  · intro h hsize
    exact hs.document_eq hsize

theorem Sound.guards {s : Store} (hs : s.Sound) {target value : Handle}
    (htarget : target < s.size) (hvalue : value < s.size) : s.Guards target value := by
  constructor
  · exact hs.reaches_iff hvalue target
  · intro name
    exact insert_refused_iff hs target name hvalue
  · exact push_refused_iff hs target hvalue
  · exact cyclic_linked_iff hs target value
  · exact set_refused_iff hs target hvalue
  · exact cyclic_overwritten_iff hs htarget value
  · exact Store.set_self s target

/-- Whatever operations are performed in whatever order, and however their
arguments are shared, the store stays free of cycles. -/
theorem reachable_guarded {s : Store} (hreachable : s.Reachable) :
    s.Treelike ∧ s.Recurses ∧
      forall target value : Handle, target < s.size -> value < s.size ->
        s.Guards target value := by
  have hs := hreachable.sound
  refine ⟨hs.treelike, hs.recurses, ?_⟩
  intro target value htarget hvalue
  exact hs.guards htarget hvalue

theorem reachable_guarded_parent :
    ((Store.empty.alloc (Node.map [])).2.place 0 (Key.field "child")).2.Treelike ∧
      (((Store.empty.alloc (Node.map [])).2.place 0 (Key.field "child")).2.set 1 0).1 =
        .error (ValueError.invalidAccess AccessFault.assignsOwnTarget) := by
  have hreachable :
      ((Store.empty.alloc (Node.map [])).2.place 0 (Key.field "child")).2.Reachable := by
    have hfirst : Step Store.empty (Store.empty.alloc (Node.map [])).2 := Step.leaf rfl
    have hsecond : Step (Store.empty.alloc (Node.map [])).2
        ((Store.empty.alloc (Node.map [])).2.place 0 (Key.field "child")).2 :=
      Step.place (Key.field "child") (by decide)
    exact (ReflTransGen.single hfirst).tail hsecond
  rcases reachable_guarded hreachable with ⟨htree, _, hguards⟩
  refine ⟨htree, (hguards 1 0 (by decide) (by decide)).set.mpr ⟨by decide, ?_⟩⟩
  exact ReflTransGen.single (show 1 ∈ [1] by decide)

end Store
end Troupe
