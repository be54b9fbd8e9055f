import Troupe.Property.Props
import Troupe.Proofs.Entries
import Troupe.Proofs.Store.Copies
import Troupe.Proofs.Store.Walks

/-!
# The values of properties

What the operations that make up a write do to the tree of values.  Placing a fresh
copy of a tree under a name changes the value under that name and nothing else, so a
write of several names is an overlay, and putting the earlier values back undoes it.
-/

namespace Troupe
namespace Props

open Store

/-- The values lie in a sound store, below a root of it. -/
structure Valid (p : Props) : Prop where
  sound : p.store.Sound
  root : p.root < p.store.size

theorem Valid.tree_eq {p : Props} (hp : p.Valid) :
    p.tree = freezeNode p.store.freeze (p.store.node p.root) :=
  hp.sound.freeze_eq hp.root

theorem Valid.uniqueKeys {p : Props} (hp : p.Valid) : p.tree.UniqueKeys :=
  hp.sound.uniqueKeys_freeze hp.root

theorem Valid.uniqueKeys_of_tree {p : Props} (hp : p.Valid) {values : Entries Tree}
    (htree : p.tree = Tree.map values) : Entries.Unique values := by
  have hunique := hp.uniqueKeys
  rw [htree] at hunique
  exact hunique.left

theorem Valid.node_of_tree {p : Props} (hp : p.Valid) {values : Entries Tree}
    (htree : p.tree = Tree.map values) :
    exists entries : Entries Handle, p.store.node p.root = Node.map entries ∧
      values = entries.map fun entry => (entry.1, p.store.freeze entry.2) := by
  rw [hp.tree_eq] at htree
  cases hnode : p.store.node p.root with
  | map entries =>
      rw [hnode] at htree
      exact ⟨entries, rfl, (Tree.map.inj htree).symm⟩
  | _ =>
      rw [hnode] at htree
      cases htree

/-- From one state of the properties to another, at most the values under some names
have changed. -/
structure Touches (names : List String) (p p' : Props) : Prop where
  valid : p'.Valid
  root : p'.root = p.root
  declared : p'.declared = p.declared
  value : forall other : String, other ∉ names ->
    p'.tree.get? (Key.field other) = p.tree.get? (Key.field other)

theorem Touches.refl {p : Props} (hp : p.Valid) : Touches [] p p :=
  ⟨hp, rfl, rfl, fun _ _ => rfl⟩

theorem Touches.trans {p p' p'' : Props} {names names' : List String} (h : Touches names p p')
    (h' : Touches names' p' p'') : Touches (names ++ names') p p'' := by
  refine ⟨h'.valid, h'.root.trans h.root, h'.declared.trans h.declared, fun other hother => ?_⟩
  rw [List.mem_append, not_or] at hother
  exact (h'.value other hother.right).trans (h.value other hother.left)

theorem Touches.mono {p p' : Props} {names names' : List String} (h : Touches names p p')
    (hsubset : names ⊆ names') : Touches names' p p' :=
  ⟨h.valid, h.root, h.declared, fun other hother => h.value other fun hmem =>
    hother (hsubset hmem)⟩

/-!
## Placing a tree
-/

section InsertTree

variable {p : Props} {t : Tree}

/-- A fresh copy of a tree never holds the root. -/
theorem Valid.not_reach_thawed (hp : p.Valid) (ht : t.UniqueKeys) :
    ¬ (p.store.thaw t).2.Reach (p.store.thaw t).1 p.root := by
  intro hreach
  have hfresh := (planted_thaw hp.sound ht).fresh _ List.mem_cons_self p.root hreach
  exact absurd hp.root (Nat.not_lt.mpr hfresh.left)

theorem Valid.thaw (hp : p.Valid) (ht : t.UniqueKeys) :
    { p with store := (p.store.thaw t).2 }.Valid :=
  have hmade := yields_thaw hp.sound ht
  ⟨hmade.sound, Nat.lt_of_lt_of_le hp.root hmade.grows.size_le⟩

/-- Inserting a fresh copy is never refused for the sake of cycles. -/
theorem Valid.insertTree_eq (hp : p.Valid) (ht : t.UniqueKeys) (name : String) :
    p.insertTree name t =
      { p with store := (p.store.thaw t).2 }.update
        (match p.store.node p.root with
          | Node.null =>
              (.ok none,
                (p.store.thaw t).2.write p.root (Node.map [(name, (p.store.thaw t).1)]))
          | Node.map entries =>
              (.ok (Entries.get? entries name),
                (p.store.thaw t).2.write p.root
                  (Node.map (Entries.insert entries name (p.store.thaw t).1)))
          | leaf =>
              (p.store.thaw t).2.refuse (AccessFault.insertIntoLeaf name leaf.kind)) := by
  have hmade := yields_thaw hp.sound ht
  have hfree : ¬ (p.store.thaw t).2.reaches (p.store.thaw t).1 p.root = true := by
    rw [hmade.sound.reaches_iff hmade.valid]
    exact hp.not_reach_thawed ht
  change Props.update _ ((p.store.thaw t).2.insert p.root name (p.store.thaw t).1) = _
  have hroot := hmade.grows.node_eq p.root hp.root
  cases hnode : p.store.node p.root <;> rw [Store.insert, if_neg hfree, hroot, hnode]

theorem Valid.insert (hp : p.Valid) {value : Handle} (hvalue : value < p.store.size)
    (name : String) : (p.insert name value).2.Valid := by
  refine ⟨sound_insert hp.sound name hvalue, ?_⟩
  have hsize := size_insert p.store p.root name value
  exact hsize ▸ hp.root

theorem Valid.insertTree (hp : p.Valid) (ht : t.UniqueKeys) (name : String) :
    (p.insertTree name t).2.Valid :=
  (hp.thaw ht).insert (yields_thaw hp.sound ht).valid name

theorem Valid.tree_written (hp : p.Valid) (ht : t.UniqueKeys) {entries : Entries Handle}
    (hchild : forall c : Handle, c ∈ Entries.values entries -> p.store.Child p.root c)
    (hkeys : Entries.Unique entries) (name : String) :
    ((p.store.thaw t).2.write p.root
        (Node.map (Entries.insert entries name (p.store.thaw t).1))).freeze p.root =
      Tree.map (Entries.insert (entries.map fun entry => (entry.1, p.store.freeze entry.2))
        name t) := by
  have hmade := yields_thaw hp.sound ht
  have hroot := Nat.lt_of_lt_of_le hp.root hmade.grows.size_le
  have hclosed : forall c : Handle,
      c ∈ (Node.map (Entries.insert entries name (p.store.thaw t).1)).children ->
        c < (p.store.thaw t).2.size := by
    intro c hmem
    rcases Entries.mem_values_insert hmem with hold | rfl
    · exact Nat.lt_of_lt_of_le (hp.sound.closed _ _ (hchild c hold)) hmade.grows.size_le
    · exact hmade.valid
  have hfree : forall c : Handle,
      c ∈ (Node.map (Entries.insert entries name (p.store.thaw t).1)).children ->
        ¬ (p.store.thaw t).2.Reach c p.root := by
    intro c hmem
    rcases Entries.mem_values_insert hmem with hold | rfl
    · apply hmade.sound.not_reach_parent
      rw [Child, children, hmade.grows.node_eq p.root hp.root]
      exact hchild c hold
    · exact hp.not_reach_thawed ht
  rw [hmade.sound.freeze_write hroot hclosed hfree (hkeys.insert name _), freezeNode,
    Entries.insert_map, freeze_thaw hp.sound ht]
  have hold : entries.map (fun entry => (entry.1, (p.store.thaw t).2.freeze entry.2)) =
      entries.map fun entry => (entry.1, p.store.freeze entry.2) := by
    apply List.map_congr_left
    intro entry hmem
    have hsize := hp.sound.closed _ _ (hchild entry.2 (List.mem_map_of_mem hmem))
    rw [hp.sound.freeze_grows hmade.sound hmade.grows hsize]
  rw [hold]

theorem Valid.child_of_entries (hp : p.Valid) {entries : Entries Handle}
    (hnode : p.store.node p.root = Node.map entries) :
    (forall c : Handle, c ∈ Entries.values entries -> p.store.Child p.root c) ∧
      Entries.Unique entries := by
  refine ⟨fun c hmem => ?_, ?_⟩
  · rw [Child, children, hnode]
    exact hmem
  · have hunique := hp.sound.uniqueKeys p.root
    rwa [hnode] at hunique

theorem Valid.insertTree_map (hp : p.Valid) (ht : t.UniqueKeys) {values : Entries Tree}
    (htree : p.tree = Tree.map values) (name : String) :
    (exists old : Option Handle, (p.insertTree name t).1 = .ok old) ∧
      (p.insertTree name t).2.tree = Tree.map (Entries.insert values name t) := by
  rcases hp.node_of_tree htree with ⟨entries, hnode, rfl⟩
  rcases hp.child_of_entries hnode with ⟨hchild, hkeys⟩
  rw [hp.insertTree_eq ht name, hnode]
  exact ⟨⟨_, rfl⟩, hp.tree_written ht hchild hkeys name⟩

theorem Valid.insertTree_other (hp : p.Valid) (ht : t.UniqueKeys) {name other : String}
    (hne : name ≠ other) :
    (p.insertTree name t).2.tree.get? (Key.field other) = p.tree.get? (Key.field other) := by
  have hmade := yields_thaw hp.sound ht
  have hkept : (p.store.thaw t).2.freeze p.root = p.tree :=
    hp.sound.freeze_grows hmade.sound hmade.grows hp.root
  cases hnode : p.store.node p.root with
  | map entries =>
      have htree : p.tree =
          Tree.map (entries.map fun entry => (entry.1, p.store.freeze entry.2)) := by
        rw [hp.tree_eq, hnode, freezeNode]
      rw [(hp.insertTree_map ht htree name).right, htree]
      exact Entries.get?_insert_of_ne t hne
  | null =>
      have hwritten := hp.tree_written ht (nofun : forall c : Handle,
        c ∈ Entries.values [] -> p.store.Child p.root c) Entries.unique_nil name
      rw [hp.insertTree_eq ht name, hnode, hp.tree_eq, hnode]
      refine (congrArg (Tree.get? · (Key.field other)) hwritten).trans ?_
      exact Entries.get?_insert_of_ne t hne
  | _ =>
      rw [hp.insertTree_eq ht name, hnode]
      exact congrArg (Tree.get? · (Key.field other)) hkept

end InsertTree

/-!
## Reading a value
-/

theorem Valid.valueOf {p : Props} (hp : p.Valid) (name : String) :
    Touches [] p (p.valueOf name).2 ∧
      forall old : Tree, (p.valueOf name).1 = .ok old -> old.UniqueKeys := by
  have hhands := hands_get hp.sound p.root (Key.field name)
  have hgrows := grows_get p.store p.root (Key.field name)
  have hvalid : { p with store := (p.store.get p.root (Key.field name)).2 }.Valid :=
    ⟨hhands.sound, Nat.lt_of_lt_of_le hp.root hgrows.size_le⟩
  have htree : { p with store := (p.store.get p.root (Key.field name)).2 }.tree = p.tree :=
    hp.sound.freeze_grows hhands.sound hgrows hp.root
  unfold Props.valueOf Props.update
  rcases hget : p.store.get p.root (Key.field name) with ⟨error | h, s⟩
  · rw [hget] at hvalid htree
    exact ⟨⟨hvalid, rfl, rfl, fun _ _ => congrArg (Tree.get? · _) htree⟩, nofun⟩
  · rw [hget] at hvalid htree hhands
    refine ⟨⟨hvalid, rfl, rfl, fun _ _ => congrArg (Tree.get? · _) htree⟩, fun old hold => ?_⟩
    cases hold
    exact hvalid.sound.uniqueKeys_freeze (hhands.valid h rfl)

theorem Valid.valueOf_map {p : Props} (hp : p.Valid) {values : Entries Tree}
    (htree : p.tree = Tree.map values) {name : String} {value : Tree}
    (hvalue : Entries.get? values name = some value) : p.valueOf name = (.ok value, p) := by
  rcases hp.node_of_tree htree with ⟨entries, hnode, rfl⟩
  rw [Entries.get?_map] at hvalue
  rcases Option.map_eq_some_iff.mp hvalue with ⟨h, hfound, rfl⟩
  have hget : p.store.get p.root (Key.field name) = (.ok h, p.store) := by
    simp only [Store.get, hnode, Key.fieldName, hfound]
  simp only [Props.valueOf, Props.update, hget]
  rfl

/-!
## Writing several values
-/

theorem writeAll_cons {p p' : Props} {name : String} {value old : Tree} {before : Option Handle}
    {rest previous : List (String × Tree)} (hread : p.valueOf name = (.ok old, p))
    (hplaced : p.insertTree name value = (.ok before, p'))
    (hrest : (p'.writeAll rest).1 = .ok previous) :
    p.writeAll ((name, value) :: rest) = (.ok ((name, old) :: previous), (p'.writeAll rest).2) := by
  have hlast : p'.writeAll rest = (.ok previous, (p'.writeAll rest).2) := Prod.ext hrest rfl
  simp only [writeAll, hread, hplaced]
  rw [hlast]

theorem Valid.writeAll_map {p : Props} (hp : p.Valid) {values entries : Entries Tree}
    (htree : p.tree = Tree.map values)
    (hpresent : forall name : String, name ∈ Entries.keys entries -> name ∈ Entries.keys values)
    (hkeys : Entries.Unique entries) (hunique : Tree.UniqueKeysEntries entries) :
    (p.writeAll entries).1 = .ok (Entries.displaced Tree.null values entries) ∧
      (p.writeAll entries).2.Valid ∧
        (p.writeAll entries).2.tree = Tree.map (Entries.overlay values entries) := by
  induction entries generalizing p values with
  | nil =>
      rw [Entries.overlay_nil]
      exact ⟨rfl, hp, htree⟩
  | cons entry rest ih =>
      rcases entry with ⟨name, value⟩
      rcases hunique with ⟨hvalue, hrest⟩
      rcases List.nodup_cons.mp hkeys with ⟨hnot, hkeys⟩
      have hname : name ∈ Entries.keys values := hpresent name List.mem_cons_self
      have hlater := Entries.present_insert value hpresent
      rcases Option.isSome_iff_exists.mp (Entries.isSome_get?_iff.mpr hname) with ⟨old, hold⟩
      rcases hp.insertTree_map hvalue htree name with ⟨⟨before, hbefore⟩, hplaced⟩
      rcases ih (hp.insertTree hvalue name) hplaced hlater hkeys hrest with
        ⟨hprevious, hvalid, hwritten⟩
      rw [writeAll_cons (hp.valueOf_map htree hold) (Prod.ext hbefore rfl) hprevious]
      refine ⟨?_, hvalid, ?_⟩
      · rw [Entries.displaced_insert Tree.null value hnot]
        simp only [Entries.displaced, List.map_cons, hold]
        rfl
      · rw [hwritten, Entries.overlay_cons (hp.uniqueKeys_of_tree htree) hname hnot]

/-- The values that a write remembers are values of the map. -/
theorem uniqueKeysEntries_displaced {values : Entries Tree} (hvalues : (Tree.map values).UniqueKeys)
    (entries : List (String × Tree)) :
    Tree.UniqueKeysEntries (Entries.displaced Tree.null values entries) := by
  rw [Tree.uniqueKeysEntries_iff]
  intro t hmem
  rcases List.mem_map.mp hmem with ⟨_, hdisplaced, rfl⟩
  rcases List.mem_map.mp hdisplaced with ⟨entry, _, rfl⟩
  cases hfound : Entries.get? values entry.1 with
  | none => exact trivial
  | some old =>
      exact Tree.uniqueKeysEntries_iff.mp hvalues.right old (Entries.mem_values_of_get? hfound)

theorem Valid.restore_map {p : Props} (hp : p.Valid) {values previous : Entries Tree}
    (htree : p.tree = Tree.map values)
    (hpresent : forall name : String, name ∈ Entries.keys previous -> name ∈ Entries.keys values)
    (hkeys : Entries.Unique previous) (hunique : Tree.UniqueKeysEntries previous) :
    (p.restore previous).tree = Tree.map (Entries.overlay values previous) := by
  induction previous generalizing p values with
  | nil =>
      rw [Entries.overlay_nil]
      exact htree
  | cons entry rest ih =>
      rcases entry with ⟨name, old⟩
      rcases hunique with ⟨hold, hrest⟩
      rcases List.nodup_cons.mp hkeys with ⟨hnot, hkeys⟩
      have hname : name ∈ Entries.keys values := hpresent name List.mem_cons_self
      have hlater := Entries.present_insert old hpresent
      rcases hp.insertTree_map hold htree name with ⟨⟨before, hbefore⟩, hplaced⟩
      have hinsert : p.insertTree name old = (.ok before, (p.insertTree name old).2) :=
        Prod.ext hbefore rfl
      rw [restore, hinsert, Entries.overlay_cons (hp.uniqueKeys_of_tree htree) hname hnot]
      exact ih (hp.insertTree hold name) hplaced hlater hkeys hrest

/-!
## What a write touches

Whether or not a write goes through, and whatever the root is, names that do not
occur in the write keep their values.
-/

theorem Valid.touches_insertTree {p : Props} (hp : p.Valid) {t : Tree} (ht : t.UniqueKeys)
    (name : String) : Touches [name] p (p.insertTree name t).2 := by
  refine ⟨hp.insertTree ht name, rfl, rfl, fun other hother => ?_⟩
  exact hp.insertTree_other ht fun heq => hother (List.mem_singleton.mpr heq.symm)

theorem Valid.writeAll {p : Props} (hp : p.Valid) {entries : List (String × Tree)}
    (hunique : Tree.UniqueKeysEntries entries) :
    Touches (Entries.keys entries) p (p.writeAll entries).2 ∧
      forall previous : List (String × Tree), (p.writeAll entries).1 = .ok previous ->
        Entries.keys previous = Entries.keys entries ∧ Tree.UniqueKeysEntries previous := by
  induction entries generalizing p with
  | nil =>
      refine ⟨Touches.refl hp, fun previous hprevious => ?_⟩
      cases hprevious
      exact ⟨rfl, trivial⟩
  | cons entry rest ih =>
      rcases entry with ⟨name, value⟩
      rcases hunique with ⟨hvalue, hrest⟩
      have hread := hp.valueOf name
      rcases hold : p.valueOf name with ⟨error | old, p₁⟩
      · rw [hold] at hread
        simp only [Props.writeAll, hold]
        exact ⟨hread.left.mono (List.nil_subset _), nofun⟩
      · rw [hold] at hread
        have hplaced := hread.left.trans (hread.left.valid.touches_insertTree hvalue name)
        rcases hinsert : p₁.insertTree name value with ⟨error | before, p₂⟩
        · rw [hinsert] at hplaced
          simp only [Props.writeAll, hold, hinsert]
          exact ⟨hplaced.mono (by simp [Entries.keys]), nofun⟩
        · rw [hinsert] at hplaced
          rcases ih hplaced.valid hrest with ⟨htouches, hremembers⟩
          have hall := hplaced.trans htouches
          rcases hlast : p₂.writeAll rest with ⟨error | previous, p₃⟩
          · rw [hlast] at hall
            simp only [Props.writeAll, hold, hinsert, hlast]
            exact ⟨hall, nofun⟩
          · rw [hlast] at hall hremembers
            simp only [Props.writeAll, hold, hinsert, hlast]
            refine ⟨hall, fun remembered heq => ?_⟩
            cases heq
            rcases hremembers previous rfl with ⟨hkeys, htrees⟩
            exact ⟨congrArg (name :: ·) hkeys, hread.right old rfl, htrees⟩

theorem Valid.restore {p : Props} (hp : p.Valid) {previous : List (String × Tree)}
    (hunique : Tree.UniqueKeysEntries previous) :
    Touches (Entries.keys previous) p (p.restore previous) := by
  induction previous generalizing p with
  | nil => exact Touches.refl hp
  | cons entry rest ih =>
      rcases entry with ⟨name, old⟩
      rcases hunique with ⟨hold, hrest⟩
      have hplaced := hp.touches_insertTree hold name
      unfold Props.restore
      rcases hinsert : p.insertTree name old with ⟨error | before, p'⟩
      · rw [hinsert] at hplaced
        exact hplaced.mono (by simp [Entries.keys])
      · rw [hinsert] at hplaced
        exact hplaced.trans (ih hplaced.valid hrest)

end Props
end Troupe
