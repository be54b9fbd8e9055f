import Troupe.Proofs.Store.Forests
import Troupe.Proofs.Store.PathWrites
import Troupe.Proofs.Tree.FieldWrites

/-!
# Writes along names into unshared trees

Where each node of a value can be reached in one way only, a write along names does to the
tree that the value shows what it does to trees on their own.  Sharing is what could come in
between: a node that is written shows in every place where it occurs.  So the invariant of
the walk is that what lies below the children of a node, and below the value that is to be
written, are trees of nodes that have no node in common.
-/

namespace Troupe

theorem Node.eq_of_openedBy {n : Node} {key : Key} {entries : Entries Handle}
    (h : n.openedBy key = map entries) (hne : entries ≠ []) : n = map entries := by
  cases n with
  | null =>
      cases key with
      | field name =>
          cases h
          exact absurd rfl hne
      | index position => cases h
  | _ => exact h

namespace Store

open Relation

/-!
## One step of a write
-/

def shown (s : Store) (entries : Entries Handle) : Entries Tree :=
  entries.map fun entry => (entry.1, s.freeze entry.2)

section Steps

variable {s s' : Store} {h c value : Handle} {name : String} {entries : Entries Handle}

theorem shown_congr
    (hsame : forall child : Handle, child ∈ Entries.values entries ->
      s'.freeze child = s.freeze child) : s'.shown entries = s.shown entries := by
  apply List.map_congr_left
  intro entry hmem
  rw [hsame entry.2 (List.mem_map_of_mem hmem)]

theorem child_of_entry (hnode : s.node h = Node.map entries)
    (hchild : Entries.get? entries name = some c) : s.Child h c := by
  rw [Child, children, hnode]
  exact Entries.mem_values_of_get? hchild

theorem shown_middle {front back : Entries Handle} (hnot : name ∉ Entries.keys front)
    (hfront : s'.shown front = s.shown front) (hback : s'.shown back = s.shown back) :
    s'.shown (front ++ (name, c) :: back) =
      Entries.insert (s.shown (front ++ (name, c) :: back)) name (s'.freeze c) := by
  have hnot' : name ∉ Entries.keys (s.shown front) := by
    rw [shown, Entries.keys_map]
    exact hnot
  have happend : forall s : Store, s.shown (front ++ (name, c) :: back) =
      s.shown front ++ (name, s.freeze c) :: s.shown back := fun s => List.map_append
  rw [happend s, happend s', Entries.insert_append_cons hnot', hfront, hback]

/-- Only the entry on the way shows something else after a write below it. -/
theorem Sound.written_below {r' : Handle -> Prop} (hs : s.Sound) (hs' : s'.Sound)
    (hsize : h < s.size) (hforest : s.Forest [h, value])
    (hnode : s.node h = Node.map entries) (hchild : Entries.get? entries name = some c)
    (hextends : s.Extends (fun x => s.Reach c x ∨ s.Reach value x) s' r')
    (hunshared : s'.Unshared c) :
    s'.Unshared h ∧
      s'.freeze h = Tree.map (Entries.insert (s.shown entries) name (s'.freeze c)) := by
  rcases Entries.exists_split_of_get? hchild with ⟨front, back, rfl, hnot⟩
  have hchildren : s.children h = Entries.values front ++ c :: Entries.values back := by
    rw [children, hnode]
    exact List.map_append
  have hperm : (s.children h).Perm (c :: (Entries.values front ++ Entries.values back)) := by
    rw [hchildren]
    exact List.perm_middle
  have hlink : s.Child h c := hperm.mem_iff.mpr List.mem_cons_self
  rcases hs.forest_cons_iff_children.mp hforest with ⟨hbelow, habove⟩
  have hall : s.Forest (c :: value :: (Entries.values front ++ Entries.values back)) := by
    apply (forest_perm_iff _).mp hbelow
    exact (hperm.append_right [value]).trans (List.perm_append_comm.trans (List.Perm.swap ..))
  have hvalid : forall other : Handle,
      other ∈ Entries.values front ++ Entries.values back -> other < s.size :=
    fun other hmem => hs.closed h other (hperm.mem_iff.mpr (List.mem_cons_of_mem _ hmem))
  rcases hall.extend hs hvalid hextends hunshared with ⟨hforest', hkept⟩
  have hself : s'.node h = Node.map (front ++ (name, c) :: back) := by
    rw [← hnode]
    apply hextends.kept h hsize
    rintro (hc | hv)
    · exact hs.not_reach_parent hlink hc
    · exact habove value (List.mem_singleton.mpr rfl) hv
  have hsame : forall other : Handle,
      other ∈ Entries.values front ++ Entries.values back -> s'.freeze other = s.freeze other :=
    fun other hmem => hs.freeze_congr hs' hextends.size_le (hvalid other hmem) (hkept other hmem)
  constructor
  · rw [hs'.unshared_iff, forest_perm_iff _]
    · exact hforest'
    · rw [children, hself, ← hnode]
      exact hperm
  · have hfront : s'.shown front = s.shown front :=
      shown_congr fun child hmem => hsame child (List.mem_append_left _ hmem)
    have hback : s'.shown back = s.shown back :=
      shown_congr fun child hmem => hsame child (List.mem_append_right _ hmem)
    rw [hs'.freeze_eq (Nat.lt_of_lt_of_le hsize hextends.size_le), hself,
      ← shown_middle hnot hfront hback]
    rfl

theorem Placed.forest {key : Key} (hs : s.Sound) (hs' : s'.Sound)
    (hplaced : s.Placed h key s' c) (hvalue : value < s.size) (hforest : s.Forest [h, value])
    (hchildren : s'.children h = s.children h ++ [c]) :
    s'.Forest [h, value] ∧
      forall root : Handle, root ∈ s.children h ++ [value] -> s'.freeze root = s.freeze root := by
  rcases hs.forest_cons_iff_children.mp hforest with ⟨hbelow, habove⟩
  have hold : forall root : Handle, root ∈ s.children h ++ [value] -> root < s.size := by
    intro root hmem
    rcases List.mem_append.mp hmem with hchild | hmem
    · exact hs.closed h root hchild
    · rw [List.mem_singleton.mp hmem]
      exact hvalue
  have hsame : forall root : Handle, root ∈ s.children h ++ [value] ->
      forall x : Handle, s.Reach root x -> s'.node x = s.node x := by
    intro root hmem x hreach
    apply hplaced.others
    rintro rfl
    rcases List.mem_append.mp hmem with hchild | hmem
    · exact hs.not_reach_parent hchild hreach
    · exact habove root hmem hreach
  have hleaf : s'.Unshared c := by
    have hnone : s'.children c = [] := by
      rw [children, hplaced.fresh.null]
      rfl
    rw [hs'.unshared_iff, hnone]
    exact ⟨fun _ hmem => (List.not_mem_nil hmem).elim, List.Pairwise.nil⟩
  have happart : forall root : Handle, root ∈ s.children h ++ [value] -> s'.Disjoint c root := by
    intro root hmem x hreach hreach'
    rw [hplaced.eq_of_reach hreach, reach_congr (hsame root hmem)] at hreach'
    exact Nat.not_lt.mpr hplaced.fresh.size_le (hs.reach_lt (hold root hmem) hreach')
  constructor
  · apply hs'.forest_cons_iff_children.mpr
    constructor
    · have hperm : (s.children h ++ [c] ++ [value]).Perm (c :: (s.children h ++ [value])) := by
        rw [List.append_assoc]
        exact List.perm_middle
      rw [hchildren, forest_perm_iff hperm]
      exact forest_cons_iff.mpr ⟨hleaf, happart, hbelow.congr hsame⟩
    · intro other hmem
      rw [reach_congr (hsame other (List.mem_append_right _ hmem))]
      exact habove other hmem
  · intro root hmem
    exact hs.freeze_congr hs' hplaced.size_le (hold root hmem) (hsame root hmem)

theorem Sound.place_field (hs : s.Sound) (hsize : h < s.size) (name : String) :
    (exists fault : AccessFault, s.place h (Key.field name) = s.refuse fault ∧
      (s.freeze h).fields name = .error fault) ∨
      exists entries : Entries Handle,
        (s.node h).openedBy (Key.field name) = Node.map entries ∧
          s.place h (Key.field name) = s.placeField h entries name ∧
            (s.freeze h).fields name = .ok (s.shown entries) := by
  rw [hs.freeze_eq hsize]
  unfold place
  cases s.node h with
  | null => exact Or.inr ⟨[], rfl, rfl, rfl⟩
  | map entries => exact Or.inr ⟨entries, rfl, rfl, rfl⟩
  | _ => exact Or.inl ⟨_, rfl, rfl⟩

/-- A map with an entry under a name, which shows the null if it has been made, and nothing
else that shows otherwise than before. -/
structure Opened (s : Store) (h value : Handle) (entries : Entries Handle) (name : String)
    (s' : Store) (c : Handle) : Prop where
  sound : s'.Sound
  size_le : s.size ≤ s'.size
  forest : s'.Forest [h, value]
  value_eq : s'.freeze value = s.freeze value
  shows : s'.freeze c = (Entries.get? (s.shown entries) name).getD Tree.null
  held : exists entries' : Entries Handle,
    s'.node h = Node.map entries' ∧ Entries.get? entries' name = some c ∧
      forall t : Tree, Entries.insert (s'.shown entries') name t =
        Entries.insert (s.shown entries) name t
  made : s' = s ∨ s'.freeze c = Tree.null

theorem Sound.opened (hs : s.Sound) (hforest : s.Forest [h, value])
    (hnode : s.node h = Node.map entries) (hchild : Entries.get? entries name = some c) :
    s.Opened h value entries name s c := by
  constructor
  · exact hs
  · exact Nat.le_refl _
  · exact hforest
  · rfl
  · rw [shown, Entries.get?_map, hchild]
    rfl
  · exact ⟨entries, hnode, hchild, fun _ => rfl⟩
  · exact Or.inl rfl

theorem Placed.opened (hs : s.Sound) (hs' : s'.Sound)
    (hplaced : s.Placed h (Key.field name) s' c) (hvalue : value < s.size)
    (hforest : s.Forest [h, value]) (hold : s.children h = Entries.values entries)
    (hmissing : Entries.get? entries name = none)
    (hnode : s'.node h = Node.map (Entries.insert entries name c)) :
    s.Opened h value entries name s' c := by
  have hchildren : s'.children h = s.children h ++ [c] := by
    rw [children, hnode, hold,
      Entries.insert_of_not_mem c (Entries.get?_eq_none_iff.mp hmissing)]
    exact List.map_append
  rcases hplaced.forest hs hs' hvalue hforest hchildren with ⟨hforest', hsame⟩
  have hnull : s'.freeze c = Tree.null := by
    rw [hs'.freeze_eq hplaced.fresh.valid, hplaced.fresh.null]
    rfl
  have hshown : s'.shown entries = s.shown entries := by
    apply shown_congr
    intro child hmem
    rw [← hold] at hmem
    exact hsame child (List.mem_append_left _ hmem)
  constructor
  · exact hs'
  · exact hplaced.size_le
  · exact hforest'
  · exact hsame value (List.mem_append_right _ List.mem_cons_self)
  · rw [hnull, shown, Entries.get?_map, hmissing]
    rfl
  · refine ⟨_, hnode, Entries.get?_insert_self .., fun t => ?_⟩
    -- the null of the new entry is gone once something is put there
    rw [← hshown, shown, Entries.insert_map, Entries.insert_insert_self, shown]
  · exact Or.inr hnull

theorem Sound.opens (hs : s.Sound) (hsize : h < s.size) (hvalue : value < s.size)
    (hforest : s.Forest [h, value])
    (hopened : (s.node h).openedBy (Key.field name) = Node.map entries)
    (hplace : s.place h (Key.field name) = s.placeField h entries name) :
    exists (c : Handle) (s' : Store),
      s.placeField h entries name = (.ok c, s') ∧ s.Opened h value entries name s' c := by
  cases hentry : Entries.get? entries name with
  | some c =>
      have hnode : s.node h = Node.map entries := by
        apply Node.eq_of_openedBy hopened
        rintro rfl
        cases hentry
      refine ⟨c, s, ?_, hs.opened hforest hnode hentry⟩
      rw [placeField, hentry]
  | none =>
      have hmade : s.placeField h entries name = (.ok s.size,
          (s.alloc Node.null).2.write h (Node.map (Entries.insert entries name s.size))) := by
        rw [placeField, hentry]
        rfl
      have hhands := hands_place hs hsize (Key.field name)
      rw [hplace, hmade] at hhands
      have hmissing : s.child? h (Key.field name) = none := by
        rw [child?, ← Node.child?_openedBy _ (Key.field name), hopened]
        exact hentry
      have hold : s.children h = Entries.values entries := by
        rw [children, ← Node.children_openedBy _ (Key.field name), hopened]
        rfl
      have hlater : h < (s.alloc Node.null).2.size :=
        Nat.lt_of_lt_of_le hsize (grows_alloc s Node.null).size_le
      have hplaced := placed_field hsize hopened rfl hmissing
        (Entries.get?_eq_none_iff.mp hentry)
      exact ⟨_, _, hmade, hplaced.opened hs hhands.sound hvalue hforest hold hentry
        (node_write_self hlater)⟩

end Steps

/-!
## Whole writes
-/

/-- A write does to the tree that a handle shows what it does to trees, and leaves everything
as it was if it is refused. -/
inductive Puts (s : Store) (h : Handle) : Except AccessFault Tree -> Outcome Unit -> Prop where
  | refused (fault : AccessFault) : Puts s h (.error fault) (s.refuse fault)
  | written {s' : Store} : s'.Unshared h -> Puts s h (.ok (s'.freeze h)) (.ok (), s')

section Writing

variable {s : Store} {h value : Handle}

theorem setPath_cons (s : Store) (h : Handle) (name : String) (rest : List String)
    (value : Handle) :
    s.setPath h { segments := name :: rest } value =
      match s.place h (Path.keyOfSegment name) with
      | (.ok child, s) => s.setPath child { segments := rest } value
      | (.error error, s) => (.error error, s) := by
  unfold setPath placePath Path.keys
  rw [List.map_cons, placeKeys]
  rcases s.place h (Path.keyOfSegment name) with ⟨error | child, s'⟩ <;> rfl

theorem Puts.of_ok {s' : Store} {t : Tree} {outcome : Outcome Unit}
    (hputs : s'.Puts h (.ok t) outcome) : s.Puts h (.ok t) outcome := by
  cases hputs with
  | written hunshared => exact Puts.written hunshared

theorem Sound.puts_root (hs : s.Sound) (hsize : h < s.size) (hvalue : value < s.size)
    (hforest : s.Forest [h, value]) : s.Puts h (.ok (s.freeze value)) (s.set h value) := by
  rcases forest_cons_iff.mp hforest with ⟨-, hapart, hbelow⟩
  have hfree : ¬ s.Reach value h :=
    hapart value List.mem_cons_self h ReflTransGen.refl
  have hne : value ≠ h := by
    rintro rfl
    exact hfree ReflTransGen.refl
  have hset : s.set h value = (.ok (), s.write h (s.node value)) := by
    rw [set, if_neg hne, if_neg]
    rw [hs.reaches_iff hvalue]
    exact hfree
  have hwritten : (s.write h (s.node value)).Sound := by
    have hsound := sound_set (h := h) hs hvalue
    rw [hset] at hsound
    exact hsound
  have hunshared : (s.write h (s.node value)).Unshared h := by
    have hchildren : (s.write h (s.node value)).children h = s.children value := by
      rw [children, node_write_self hsize, children]
    rw [hwritten.unshared_iff, hchildren]
    apply (hs.unshared_iff.mp (hbelow.unshared value List.mem_cons_self)).congr
    intro child hchild x hreach
    apply node_write_of_ne
    rintro rfl
    exact hfree (ReflTransGen.head hchild hreach)
  rcases hs.freeze_set hsize hvalue hset with ⟨heq, -⟩ | ⟨-, hshown, -, -⟩
  · exact absurd heq hne
  · rw [hset, ← hshown]
    exact Puts.written hunshared

theorem Sound.puts_entry (hs : s.Sound) (hsize : h < s.size) (hvalue : value < s.size)
    (hforest : s.Forest [h, value]) {entries : Entries Handle} {name : String} {c : Handle}
    (hnode : s.node h = Node.map entries) (hchild : Entries.get? entries name = some c)
    {result : Except AccessFault Tree} {path : Path}
    (hputs : s.Puts c result (s.setPath c path value)) :
    s.Puts h (result.map fun child => Tree.map (Entries.insert (s.shown entries) name child))
      (s.setPath c path value) := by
  have hlink : s.Child h c := child_of_entry hnode hchild
  have hregion := hs.region_below (hs.closed h c hlink) hvalue
  have hsound := sound_setPath hs path (hs.closed h c hlink) hvalue
  rcases hregion.setPath path (Or.inl ReflTransGen.refl) (Or.inr ReflTransGen.refl) with
    ⟨r', hextends, -⟩
  generalize s.setPath c path value = outcome at *
  cases hputs with
  | refused fault => exact Puts.refused fault
  | @written s' hunshared =>
      rcases hs.written_below hsound hsize hforest hnode hchild hextends hunshared with
        ⟨hunshared', hshown⟩
      rw [Except.map, ← hshown]
      exact Puts.written hunshared'

theorem Sound.puts (hs : s.Sound) (hsize : h < s.size) (hvalue : value < s.size)
    (hforest : s.Forest [h, value]) {names : List String}
    (hfields : forall name : String, name ∈ names -> Path.keyOfSegment name = Key.field name) :
    s.Puts h (Tree.put names (s.freeze h) (s.freeze value))
      (s.setPath h { segments := names } value) := by
  induction names generalizing s h with
  | nil => exact hs.puts_root hsize hvalue hforest
  | cons name rest ih =>
      have hrest : forall other : String, other ∈ rest ->
          Path.keyOfSegment other = Key.field other :=
        fun other hmem => hfields other (List.mem_cons_of_mem _ hmem)
      rw [setPath_cons, hfields name List.mem_cons_self]
      rcases hs.place_field hsize name with
        ⟨fault, hplace, hbarred⟩ | ⟨entries, hopened, hplace, hopen⟩
      · rw [hplace, Tree.put, hbarred]
        exact Puts.refused fault
      · rcases hs.opens hsize hvalue hforest hopened hplace with ⟨c, s', hplace', hopens⟩
        rcases hopens.held with ⟨entries', hnode, hchild, hinsert⟩
        have hs' := hopens.sound
        have hlink : s'.Child h c := child_of_entry hnode hchild
        have hsize' := Nat.lt_of_lt_of_le hsize hopens.size_le
        have hvalue' := Nat.lt_of_lt_of_le hvalue hopens.size_le
        have hbelow := ih hs' (hs'.closed h c hlink) hvalue'
          (hs'.forest_child hlink hopens.forest) hrest
        have habove := hs'.puts_entry hsize' hvalue' hopens.forest hnode hchild hbelow
        rw [hopens.value_eq, funext fun t => congrArg Tree.map (hinsert t)] at habove
        rw [hplace, hplace', Tree.put_cons hopen, ← hopens.shows]
        -- beneath a place that had to be made nothing is refused any more
        rcases hopens.made with rfl | hnull
        · exact habove
        · rcases Tree.exists_put_null rest (s.freeze value) with ⟨u, hu⟩
          rw [hnull, hu] at habove ⊢
          exact habove.of_ok

end Writing

end Store

/-!
## Writes of literals
-/

def Path.OfFields (path : Path) : Prop :=
  forall segment : String, segment ∈ path.segments ->
    Path.keyOfSegment segment = Key.field segment

instance (path : Path) : Decidable path.OfFields :=
  inferInstanceAs (Decidable (forall segment : String, segment ∈ path.segments ->
    Path.keyOfSegment segment = Key.field segment))

namespace Store

open Relation

def writeTree (s : Store) (root : Handle) (path : Path) (t : Tree) : Outcome Unit :=
  let (value, s) := s.thaw t
  s.setPath root path value

/-- A write that succeeds, or after which the store has the new value beside the rest and is
otherwise as it was. -/
def AllOrNothing (s : Store) (t : Tree) (outcome : Outcome Unit) : Prop :=
  outcome.1 = .ok () ∨ exists fault : AccessFault, outcome = (s.thaw t).2.refuse fault

structure Shows (s : Store) (root : Handle) (t : Tree) : Prop where
  sound : s.Sound
  valid : root < s.size
  unshared : s.Unshared root
  freeze_eq : s.freeze root = t

section Literals

variable {s : Store} {root : Handle} {t a : Tree}

theorem Shows.forest_thaw (hshows : s.Shows root t) (ha : a.UniqueKeys) :
    (s.thaw a).2.Forest [root, (s.thaw a).1] := by
  have hyields := yields_thaw hshows.sound ha
  have hplanted := planted_thaw hshows.sound ha
  have hold : forall x : Handle, s.Reach root x -> x < s.size :=
    fun x hreach => hshows.sound.reach_lt hshows.valid hreach
  have hsame : forall x : Handle, s.Reach root x -> (s.thaw a).2.node x = s.node x :=
    fun x hreach => hyields.grows.node_eq x (hold x hreach)
  apply forest_cons_iff.mpr
  refine ⟨fun x path path' hpath hpath' => ?_, fun value hmem x hreach hreach' => ?_, ?_⟩
  · rw [descend?_congr hsame] at hpath hpath'
    exact hshows.unshared x path path' hpath hpath'
  · have hnew := (hplanted.fresh value hmem x hreach').left
    exact Nat.not_lt.mpr hnew (hold x ((reach_congr hsame x).mp hreach))
  · constructor
    · intro value hmem x path path' hpath hpath'
      rw [List.mem_singleton.mp hmem] at hpath hpath'
      exact (hplanted.once 0 0 _ _ x path path' rfl hpath rfl hpath').right
    · exact List.pairwise_singleton ..

theorem Shows.writeTree (hshows : s.Shows root t) (ha : a.UniqueKeys) {path : Path}
    (hpath : path.OfFields) :
    (s.writeTree root path a).1 = (t.write path.segments a).1.mapError ValueError.invalidAccess ∧
      (s.writeTree root path a).2.Shows root (t.write path.segments a).2 ∧
        s.AllOrNothing a (s.writeTree root path a) := by
  have hyields := yields_thaw hshows.sound ha
  have hforest := hshows.forest_thaw ha
  have hvalid := Nat.lt_of_lt_of_le hshows.valid hyields.grows.size_le
  have hshown : (s.thaw a).2.freeze root = t := by
    rw [hshows.sound.freeze_grows hyields.sound hyields.grows hshows.valid, hshows.freeze_eq]
  have hputs := hyields.sound.puts hvalid hyields.valid hforest hpath
  have hsound := sound_setPath hyields.sound path hvalid hyields.valid
  have hle := size_le_setPath hyields.sound hvalid path (s.thaw a).1
  have hwrite : s.writeTree root path a = (s.thaw a).2.setPath root path (s.thaw a).1 := rfl
  rw [hshown, freeze_thaw hshows.sound ha] at hputs
  rw [hwrite]
  unfold AllOrNothing
  generalize (s.thaw a).2.setPath root path (s.thaw a).1 = outcome at *
  cases hput : Tree.put path.segments t a with
  | error fault =>
      rw [hput] at hputs
      rw [Tree.write_of_error hput]
      cases hputs with
      | refused =>
          have hunshared := hforest.unshared root List.mem_cons_self
          exact ⟨rfl, ⟨hyields.sound, hvalid, hunshared, hshown⟩, Or.inr ⟨fault, rfl⟩⟩
  | ok u =>
      rw [hput] at hputs
      rw [Tree.write_of_ok hput]
      cases hputs with
      | written hunshared =>
          exact ⟨rfl, ⟨hsound, Nat.lt_of_lt_of_le hvalid hle, hunshared, rfl⟩, Or.inl rfl⟩

end Literals

/-- A write of a literal along names does what it does to the tree.  Writes along names that
part do not depend on their order: each of them is refused or not, and with the same fault,
and the trees differ at most in the order of entries.  A write that is refused changes
nothing. -/
theorem parted_writes_commute {s : Store} (hreachable : s.Reachable) {root : Handle}
    (hroot : root < s.size) (hunshared : s.Unshared root) {p q : Path} (hp : p.OfFields)
    (hq : q.OfFields) (hpq : ¬ p.segments <+: q.segments) (hqp : ¬ q.segments <+: p.segments)
    {a b : Tree} (ha : a.UniqueKeys) (hb : b.UniqueKeys) :
    let first := s.writeTree root p a
    let second := first.2.writeTree root q b
    let first' := s.writeTree root q b
    let second' := first'.2.writeTree root p a
    let written := (s.freeze root).write p.segments a
    first.1 = written.1.mapError ValueError.invalidAccess ∧ first.2.freeze root = written.2 ∧
      first.1 = second'.1 ∧ second.1 = first'.1 ∧
        (second.2.freeze root).Reordered (second'.2.freeze root) ∧
          s.AllOrNothing a first ∧ first.2.AllOrNothing b second ∧
            s.AllOrNothing b first' ∧ first'.2.AllOrNothing a second' := by
  intro first second first' second' written
  have hshows : s.Shows root (s.freeze root) := ⟨hreachable.sound, hroot, hunshared, rfl⟩
  rcases hshows.writeTree ha hp with ⟨hfirst, hshows₁, hfirst'⟩
  rcases hshows₁.writeTree hb hq with ⟨hsecond, hshows₁₂, hsecond'⟩
  rcases hshows.writeTree hb hq with ⟨hother, hshows₂, hother'⟩
  rcases hshows₂.writeTree ha hp with ⟨hlast, hshows₂₁, hlast'⟩
  rcases (s.freeze root).write_comm a b hpq hqp with ⟨hoverall₁, hoverall₂, hreordered⟩
  refine ⟨hfirst, hshows₁.freeze_eq, ?_, ?_, ?_, hfirst', hsecond', hother', hlast'⟩
  · exact hfirst.trans ((congrArg _ hoverall₁.symm).trans hlast.symm)
  · exact hsecond.trans ((congrArg _ hoverall₂).trans hother.symm)
  · rw [hshows₁₂.freeze_eq, hshows₂₁.freeze_eq]
    exact hreordered

/-- Both writes need the same new parent; the one that makes it decides the order in it. -/
theorem parted_writes_commute_new_parent :
    let s := ((Store.empty.alloc (Node.integer 1)).2.ofPairs [("n", 0)]).2
    let p : Path := { segments := ["a", "x"] }
    let q : Path := { segments := ["a", "007"] }
    let t := ((s.writeTree 1 p (Tree.bool true)).2.writeTree 1 q (Tree.array [])).2.freeze 1
    let t' := ((s.writeTree 1 q (Tree.array [])).2.writeTree 1 p (Tree.bool true)).2.freeze 1
    s.Reachable ∧ s.Unshared 1 ∧
      t = Tree.map [("n", Tree.integer 1),
        ("a", Tree.map [("x", Tree.bool true), ("007", Tree.array [])])] ∧
        t' = Tree.map [("n", Tree.integer 1),
          ("a", Tree.map [("007", Tree.array []), ("x", Tree.bool true)])] ∧
          t.Reordered t' := by
  intro s p q t t'
  have hreachable : s.Reachable :=
    (reachable_empty.step (Step.leaf rfl)).step (Step.ofPairs (by decide))
  have hunshared : s.Unshared 1 := by
    have hs := hreachable.sound
    have hleaf : s.Unshared 0 := hs.unshared_iff.mpr ⟨nofun, List.Pairwise.nil⟩
    exact hs.unshared_iff.mpr (forest_cons_iff.mpr ⟨hleaf, nofun, nofun, List.Pairwise.nil⟩)
  rcases parted_writes_commute hreachable (by decide) hunshared (p := p) (q := q) (by decide)
    (by decide) (by decide) (by decide) (a := Tree.bool true) (b := Tree.array []) trivial
    trivial with ⟨-, -, -, -, hreordered, -⟩
  exact ⟨hreachable, hunshared, by decide, by decide, hreordered⟩

end Store
end Troupe
