import Mathlib.Data.List.Zip
import Troupe.Proofs.Entries
import Troupe.Proofs.Store.Recursion
import Troupe.Store.Access

/-!
# Steps keep stores sound

What each operation on live values does to a sound store: new nodes hold handles
that exist already, and a node that is written gets children that cannot reach
it.  For a write of made places that holds since the new nodes are nulls, for
`set`, `insert`, and `push` since they search before they write.

`Step` is one operation on handles of a store, whatever they are shared with, and
`Reachable` any sequence of them.
-/

namespace Troupe
namespace Store

open Relation

/-!
## New nodes
-/

/-- A handle into a sound store that came from another by growing. -/
structure Yields (s : Store) (result : Handle × Store) : Prop where
  sound : result.2.Sound
  grows : s.Grows result.2
  valid : result.1 < result.2.size

structure YieldsAll (s : Store) (result : List Handle × Store) : Prop where
  sound : result.2.Sound
  grows : s.Grows result.2
  valid : forall h : Handle, h ∈ result.1 -> h < result.2.size

theorem yields_alloc {s s' : Store} {n : Node} (hgrows : s.Grows s') (hs : s'.Sound)
    (hclosed : forall c : Handle, c ∈ n.children -> c < s'.size) (hkeys : n.UniqueKeys) :
    s.Yields (s'.alloc n) := by
  constructor
  · exact hs.alloc hclosed hkeys
  · exact hgrows.trans (grows_alloc s' n)
  · rw [size_alloc]
    exact Nat.lt_succ_self s'.size

theorem yields_leaf {s : Store} {n : Node} (hs : s.Sound) (hleaf : n.children = [])
    (hkeys : n.UniqueKeys) : s.Yields (s.alloc n) := by
  apply yields_alloc (Grows.refl s) hs
  · intro c hmem
    rw [hleaf] at hmem
    cases hmem
  · exact hkeys

theorem yieldsAll_nil {s : Store} (hs : s.Sound) : s.YieldsAll ([], s) := by
  constructor
  · exact hs
  · exact Grows.refl s
  · intro h hmem
    cases hmem

theorem Yields.cons {s : Store} {first : Handle × Store} {rest : List Handle × Store}
    (hfirst : s.Yields first) (hrest : first.2.YieldsAll rest) :
    s.YieldsAll (first.1 :: rest.1, rest.2) := by
  constructor
  · exact hrest.sound
  · exact hfirst.grows.trans hrest.grows
  · intro h hmem
    rcases List.mem_cons.mp hmem with heq | hmem
    · rw [heq]
      exact Nat.lt_of_lt_of_le hfirst.valid hrest.grows.size_le
    · exact hrest.valid h hmem

theorem yields_ofItems {s : Store} {items : List Handle} (hs : s.Sound)
    (hitems : forall h : Handle, h ∈ items -> h < s.size) : s.Yields (s.ofItems items) :=
  yields_alloc (Grows.refl s) hs hitems trivial

theorem yields_ofPairs {s : Store} {pairs : List (String × Handle)} (hs : s.Sound)
    (hpairs : forall pair : String × Handle, pair ∈ pairs -> pair.2 < s.size) :
    s.Yields (s.ofPairs pairs) := by
  apply yields_alloc (Grows.refl s) hs
  · intro c hmem
    rcases List.mem_map.mp (Entries.mem_values_ofList hmem) with ⟨pair, hpair, heq⟩
    rw [← heq]
    exact hpairs pair hpair
  · exact Entries.unique_ofList pairs

/-!
## Thawing and copying
-/

mutual

theorem yields_thaw :
    forall {s : Store} {t : Tree}, s.Sound -> t.UniqueKeys -> s.Yields (s.thaw t)
  | _, Tree.null, hs, _ => yields_leaf hs rfl trivial
  | _, Tree.bool _, hs, _ => yields_leaf hs rfl trivial
  | _, Tree.integer _, hs, _ => yields_leaf hs rfl trivial
  | _, Tree.float _, hs, _ => yields_leaf hs rfl trivial
  | _, Tree.string _, hs, _ => yields_leaf hs rfl trivial
  | _, Tree.bytes _, hs, _ => yields_leaf hs rfl trivial
  | _, Tree.array _, hs, hunique =>
      have hitems := yieldsAll_thawItems hs hunique
      yields_alloc hitems.grows hitems.sound hitems.valid trivial
  | _, Tree.map entries, hs, ⟨hkeys, hunique⟩ =>
      have hentries := yieldsAll_thawEntries hs hunique
      have hsame : Entries.Unique (thawEntries _ entries).1 := by
        rw [Entries.Unique, hentries.left]
        exact hkeys
      yields_alloc hentries.right.grows hentries.right.sound hentries.right.valid hsame

theorem yieldsAll_thawItems :
    forall {s : Store} {items : List Tree}, s.Sound -> Tree.UniqueKeysItems items ->
      s.YieldsAll (s.thawItems items)
  | _, [], hs, _ => yieldsAll_nil hs
  | _, _ :: _, hs, ⟨hunique, hrest⟩ =>
      have hfirst := yields_thaw hs hunique
      hfirst.cons (yieldsAll_thawItems hfirst.sound hrest)

theorem yieldsAll_thawEntries :
    forall {s : Store} {entries : List (String × Tree)}, s.Sound ->
      Tree.UniqueKeysEntries entries ->
        Entries.keys (s.thawEntries entries).1 = Entries.keys entries ∧
          s.YieldsAll (Entries.values (s.thawEntries entries).1, (s.thawEntries entries).2)
  | _, [], hs, _ => ⟨rfl, yieldsAll_nil hs⟩
  | _, (k, _) :: _, hs, ⟨hunique, hrest⟩ =>
      have hfirst := yields_thaw hs hunique
      have hentries := yieldsAll_thawEntries hfirst.sound hrest
      ⟨congrArg (List.cons k) hentries.left, hfirst.cons hentries.right⟩

end

theorem length_copyAll (copy : Store -> Handle -> Handle × Store) (s : Store)
    (hs : List Handle) : (copyAll copy s hs).1.length = hs.length := by
  induction hs generalizing s with
  | nil => rfl
  | cons h rest ih => rw [copyAll_cons, List.length_cons, ih, List.length_cons]

section Copying

variable {copy : Store -> Handle -> Handle × Store}

theorem yieldsAll_copyAll
    (hcopy : forall {s : Store} {h : Handle}, s.Sound -> h < s.size -> s.Yields (copy s h))
    {s : Store} {hs : List Handle} (hsound : s.Sound)
    (hsize : forall h : Handle, h ∈ hs -> h < s.size) : s.YieldsAll (copyAll copy s hs) := by
  induction hs generalizing s with
  | nil => exact yieldsAll_nil hsound
  | cons h rest ih =>
      have hfirst : s.Yields (copy s h) := hcopy hsound (hsize h List.mem_cons_self)
      have hrest : (copy s h).2.YieldsAll (copyAll copy (copy s h).2 rest) := by
        apply ih hfirst.sound
        intro h' hmem
        exact Nat.lt_of_lt_of_le (hsize h' (List.mem_cons_of_mem _ hmem)) hfirst.grows.size_le
      exact hfirst.cons hrest

theorem yields_cloneNode
    (hcopy : forall {s : Store} {h : Handle}, s.Sound -> h < s.size -> s.Yields (copy s h))
    {s : Store} {n : Node} (hs : s.Sound)
    (hclosed : forall c : Handle, c ∈ n.children -> c < s.size) (hkeys : n.UniqueKeys) :
    s.Yields (cloneNode copy s n) := by
  cases n with
  | map entries =>
      have hall : s.YieldsAll (copyAll copy s (entries.map Prod.snd)) :=
        yieldsAll_copyAll hcopy hs hclosed
      have hlength := length_copyAll copy s (entries.map Prod.snd)
      rw [List.length_map] at hlength
      apply yields_alloc hall.grows hall.sound
      · intro c hmem
        rcases List.mem_map.mp hmem with ⟨⟨k, c'⟩, hentry, heq⟩
        rw [← heq]
        exact hall.valid c' (List.of_mem_zip hentry).right
      · have hsame : Entries.keys ((entries.map Prod.fst).zip
            (copyAll copy s (entries.map Prod.snd)).1) = Entries.keys entries :=
          List.map_fst_zip (by rw [List.length_map, hlength])
        rw [Node.UniqueKeys, Entries.Unique, hsame]
        exact hkeys
  | array items =>
      have hall : s.YieldsAll (copyAll copy s items) := yieldsAll_copyAll hcopy hs hclosed
      exact yields_alloc hall.grows hall.sound hall.valid trivial
  | _ => exact yields_leaf hs rfl trivial

end Copying

theorem yields_deepCloneWith (n : Nat) {s : Store} {h : Handle} (hs : s.Sound)
    (hsize : h < s.size) : s.Yields (deepCloneWith n s h) := by
  induction n generalizing s h with
  | zero => exact yields_leaf hs rfl trivial
  | succ n ih =>
      rw [deepCloneWith_succ]
      exact yields_cloneNode ih hs (hs.closed h) (hs.uniqueKeys h)

/-!
## Reading
-/

theorem entries_of_node {s : Store} {h : Handle} {entries : Entries Handle}
    (hnode : s.node h = Node.map entries) : s.entries h = entries := by
  rw [Store.entries, hnode]

theorem items_of_node {s : Store} {h : Handle} {items : List Handle}
    (hnode : s.node h = Node.array items) : s.items h = items := by
  rw [Store.items, hnode]

structure Hands (s : Store) (outcome : Outcome Handle) : Prop where
  sound : outcome.2.Sound
  size_le : s.size ≤ outcome.2.size
  valid : forall h : Handle, outcome.1 = .ok h -> h < outcome.2.size

theorem hands_refuse {s : Store} (hs : s.Sound) (fault : AccessFault) :
    s.Hands (s.refuse fault) := by
  constructor
  · exact hs
  · exact Nat.le_refl _
  · intro h hok
    cases hok

theorem hands_ok {s s' : Store} {h : Handle} (hs : s'.Sound) (hle : s.size ≤ s'.size)
    (hsize : h < s'.size) : s.Hands (.ok h, s') := by
  constructor
  · exact hs
  · exact hle
  · intro h' hok
    cases hok
    exact hsize

theorem Hands.trans {s s' : Store} {outcome : Outcome Handle} (hle : s.size ≤ s'.size)
    (h : s'.Hands outcome) : s.Hands outcome := by
  constructor
  · exact h.sound
  · exact hle.trans h.size_le
  · exact h.valid

theorem hands_detachedNull {s : Store} (hs : s.Sound) : s.Hands s.detachedNull := by
  have hnull : s.Yields (s.alloc Node.null) := yields_leaf hs rfl trivial
  exact hands_ok hnull.sound hnull.grows.size_le hnull.valid

theorem hands_get {s : Store} (hs : s.Sound) (h : Handle) (key : Key) :
    s.Hands (s.get h key) := by
  have hclosed := hs.closed h
  unfold Child children at hclosed
  unfold get
  cases hnode : s.node h with
  | null => exact hands_detachedNull hs
  | map entries =>
      rw [hnode] at hclosed
      dsimp only
      split
      next child hfound =>
        exact hands_ok hs (Nat.le_refl _) (hclosed child (Entries.mem_values_of_get? hfound))
      next => exact hands_detachedNull hs
  | array items =>
      rw [hnode] at hclosed
      cases key with
      | field name => exact hands_refuse hs _
      | index position =>
          dsimp only
          split
          next child hfound =>
            exact hands_ok hs (Nat.le_refl _) (hclosed child (List.mem_of_getElem? hfound))
          next => exact hands_detachedNull hs
  | _ => exact hands_refuse hs _

theorem hands_getKeys {s : Store} (hs : s.Sound) {h : Handle} (hsize : h < s.size)
    (keys : List Key) : s.Hands (s.getKeys h keys) := by
  induction keys generalizing s h with
  | nil => exact hands_ok hs (Nat.le_refl _) hsize
  | cons key rest ih =>
      have hfirst := hands_get hs h key
      rw [getKeys]
      rcases hget : s.get h key with ⟨result, s'⟩
      rw [hget] at hfirst
      cases result with
      | ok child => exact Hands.trans hfirst.size_le (ih hfirst.sound (hfirst.valid child rfl))
      | error error =>
          constructor
          · exact hfirst.sound
          · exact hfirst.size_le
          · intro h' hok
            cases hok

/-!
## Making places
-/

structure Fresh (s s' : Store) (c : Handle) : Prop where
  size_le : s.size ≤ c
  valid : c < s'.size
  null : s'.node c = Node.null

theorem Fresh.mono {s s' s'' : Store} {c : Handle} (hfresh : Fresh s s' c)
    (hgrows : s'.Grows s'') : Fresh s s'' c := by
  constructor
  · exact hfresh.size_le
  · exact Nat.lt_of_lt_of_le hfresh.valid hgrows.size_le
  · rw [hgrows.node_eq c hfresh.valid]
    exact hfresh.null

theorem Fresh.of_grows {s s' s'' : Store} {c : Handle} (hgrows : s.Grows s')
    (hfresh : Fresh s' s'' c) : Fresh s s'' c := by
  constructor
  · exact hgrows.size_le.trans hfresh.size_le
  · exact hfresh.valid
  · exact hfresh.null

theorem fresh_alloc (s : Store) : Fresh s (s.alloc Node.null).2 s.size := by
  constructor
  · exact Nat.le_refl _
  · rw [size_alloc]
    exact Nat.lt_succ_self s.size
  · exact node_alloc_self s Node.null

theorem sound_alloc_null {s : Store} (hs : s.Sound) : (s.alloc Node.null).2.Sound := by
  have hnull : s.Yields (s.alloc Node.null) := yields_leaf hs rfl trivial
  exact hnull.sound

theorem sound_allocNulls (count : Nat) {s : Store} (hs : s.Sound) :
    (allocNulls count s).2.Sound ∧ s.Grows (allocNulls count s).2 ∧
      forall c : Handle, c ∈ (allocNulls count s).1 -> Fresh s (allocNulls count s).2 c := by
  induction count generalizing s with
  | zero =>
      refine ⟨hs, Grows.refl s, ?_⟩
      intro c hmem
      cases hmem
  | succ count ih =>
      rcases ih (sound_alloc_null hs) with ⟨hsound, hgrows, hfresh⟩
      refine ⟨hsound, (grows_alloc s Node.null).trans hgrows, ?_⟩
      intro c hmem
      rcases List.mem_cons.mp hmem with heq | hmem
      · rw [heq]
        exact (fresh_alloc s).mono hgrows
      · exact Fresh.of_grows (grows_alloc s Node.null) (hfresh c hmem)

theorem sound_write_fresh {s s' : Store} {h : Handle} {n : Node} (hs : s'.Sound)
    (hgrows : s.Grows s') (hsize : h < s.size)
    (hchildren : forall c : Handle, c ∈ n.children -> s.Child h c ∨ Fresh s s' c)
    (hkeys : n.UniqueKeys) : (s'.write h n).Sound := by
  apply hs.write_of_subset
  · intro c hmem
    rcases hchildren c hmem with hold | hfresh
    · left
      rw [Child, children, hgrows.node_eq h hsize]
      exact hold
    · right
      refine ⟨hfresh.valid, not_reach_of_leaf ?_ ?_⟩
      · rw [children, hfresh.null]
        rfl
      · exact (Nat.lt_of_lt_of_le hsize hfresh.size_le).ne'
  · exact hkeys

theorem hands_placePosition {s : Store} (hs : s.Sound) {h : Handle} (hsize : h < s.size)
    {items : List Handle} (hitems : forall c : Handle, c ∈ items -> s.Child h c)
    (position : Nat) : s.Hands (s.placePosition h items position) := by
  unfold placePosition
  split
  next child hfound =>
    have hchild := hitems child (List.mem_of_getElem? hfound)
    exact hands_ok hs (Nat.le_refl _) (hs.closed h child hchild)
  next =>
    split
    case isFalse => exact hands_refuse hs _
    case isTrue =>
      rcases sound_allocNulls (position - items.length) hs with ⟨hsound, hgrows, hfresh⟩
      rcases hnulls : allocNulls (position - items.length) s with ⟨padding, s'⟩
      rw [hnulls] at hsound hgrows hfresh
      have hlast : Fresh s (s'.alloc Node.null).2 s'.size :=
        Fresh.of_grows hgrows (fresh_alloc s')
      have hgrows' : s.Grows (s'.alloc Node.null).2 := hgrows.trans (grows_alloc s' Node.null)
      have hwritten : ((s'.alloc Node.null).2.write h
          (Node.array (items ++ padding ++ [s'.size]))).Sound := by
        apply sound_write_fresh (sound_alloc_null hsound) hgrows' hsize
        · intro c hmem
          rcases List.mem_append.mp hmem with hmem | hmem
          · rcases List.mem_append.mp hmem with hmem | hmem
            · exact Or.inl (hitems c hmem)
            · exact Or.inr ((hfresh c hmem).mono (grows_alloc s' Node.null))
          · rw [List.mem_singleton.mp hmem]
            exact Or.inr hlast
        · exact trivial
      apply hands_ok hwritten
      · rw [size_write]
        exact hgrows'.size_le
      · rw [size_write]
        exact hlast.valid

theorem hands_placeField {s : Store} (hs : s.Sound) {h : Handle} (hsize : h < s.size)
    {entries : Entries Handle}
    (hentries : forall c : Handle, c ∈ Entries.values entries -> s.Child h c)
    (hkeys : Entries.Unique entries) (name : String) :
    s.Hands (s.placeField h entries name) := by
  unfold placeField
  split
  next child hfound =>
    have hchild := hentries child (Entries.mem_values_of_get? hfound)
    exact hands_ok hs (Nat.le_refl _) (hs.closed h child hchild)
  next =>
    have hwritten : ((s.alloc Node.null).2.write h
        (Node.map (Entries.insert entries name s.size))).Sound := by
      apply sound_write_fresh (sound_alloc_null hs) (grows_alloc s Node.null) hsize
      · intro c hmem
        rcases Entries.mem_values_insert hmem with hold | hnew
        · exact Or.inl (hentries c hold)
        · rw [hnew]
          exact Or.inr (fresh_alloc s)
      · exact hkeys.insert name s.size
    apply hands_ok hwritten
    · rw [size_write]
      exact (grows_alloc s Node.null).size_le
    · rw [size_write]
      exact (fresh_alloc s).valid

theorem hands_place {s : Store} (hs : s.Sound) {h : Handle} (hsize : h < s.size) (key : Key) :
    s.Hands (s.place h key) := by
  have hkeys := hs.uniqueKeys h
  have hchild : forall c : Handle, c ∈ (s.node h).children -> s.Child h c := fun _ hmem => hmem
  unfold place
  cases hnode : s.node h with
  | null =>
      cases key with
      | field name =>
          exact hands_placeField hs hsize (fun c hmem => by cases hmem) Entries.unique_nil name
      | index position =>
          exact hands_placePosition hs hsize (fun c hmem => by cases hmem) position
  | map entries =>
      rw [hnode] at hkeys hchild
      exact hands_placeField hs hsize hchild hkeys key.fieldName
  | array items =>
      rw [hnode] at hchild
      cases key with
      | field name => exact hands_refuse hs _
      | index position => exact hands_placePosition hs hsize hchild position
  | _ => exact hands_refuse hs _

theorem hands_placeKeys {s : Store} (hs : s.Sound) {h : Handle} (hsize : h < s.size)
    (keys : List Key) : s.Hands (s.placeKeys h keys) := by
  induction keys generalizing s h with
  | nil => exact hands_ok hs (Nat.le_refl _) hsize
  | cons key rest ih =>
      have hfirst := hands_place hs hsize key
      rw [placeKeys]
      rcases hplace : s.place h key with ⟨result, s'⟩
      rw [hplace] at hfirst
      cases result with
      | ok child => exact Hands.trans hfirst.size_le (ih hfirst.sound (hfirst.valid child rfl))
      | error error =>
          constructor
          · exact hfirst.sound
          · exact hfirst.size_le
          · intro h' hok
            cases hok

/-!
## Writing
-/

theorem not_reach_of_reaches {s : Store} (hs : s.Sound) {value h : Handle}
    (hsize : value < s.size) (hsearch : ¬ s.reaches value h = true) : ¬ s.Reach value h := by
  intro hreach
  exact hsearch ((hs.reaches_iff hsize h).mpr hreach)

theorem sound_set {s : Store} (hs : s.Sound) {h value : Handle} (hsize : value < s.size) :
    (s.set h value).2.Sound := by
  unfold set
  split
  · exact hs
  · split
    · exact hs
    · next hsearch =>
        have hfree := not_reach_of_reaches hs hsize hsearch
        apply hs.write
        · exact hs.closed value
        · intro c hchild hreach
          exact hfree (ReflTransGen.head hchild hreach)
        · exact hs.uniqueKeys value

theorem sound_insert {s : Store} (hs : s.Sound) {h value : Handle} (name : String)
    (hsize : value < s.size) : (s.insert h name value).2.Sound := by
  have hkeys := hs.uniqueKeys h
  have hchild : forall c : Handle, c ∈ (s.node h).children -> s.Child h c := fun _ hmem => hmem
  unfold insert
  split
  · exact hs
  · next hsearch =>
      have hfree := not_reach_of_reaches hs hsize hsearch
      cases hnode : s.node h with
      | null =>
          apply hs.write_of_subset
          · intro c hmem
            rw [List.mem_singleton.mp hmem]
            exact Or.inr ⟨hsize, hfree⟩
          · exact List.nodup_singleton name
      | map entries =>
          rw [hnode] at hkeys hchild
          apply hs.write_of_subset
          · intro c hmem
            rcases Entries.mem_values_insert hmem with hold | hnew
            · exact Or.inl (hchild c hold)
            · rw [hnew]
              exact Or.inr ⟨hsize, hfree⟩
          · exact Entries.Unique.insert hkeys name value
      | _ => exact hs

theorem sound_push {s : Store} (hs : s.Sound) {h value : Handle} (hsize : value < s.size) :
    (s.push h value).2.Sound := by
  have hchild : forall c : Handle, c ∈ (s.node h).children -> s.Child h c := fun _ hmem => hmem
  unfold push
  split
  · exact hs
  · next hsearch =>
      have hfree := not_reach_of_reaches hs hsize hsearch
      cases hnode : s.node h with
      | null =>
          apply hs.write_of_subset
          · intro c hmem
            rw [List.mem_singleton.mp hmem]
            exact Or.inr ⟨hsize, hfree⟩
          · exact trivial
      | array items =>
          rw [hnode] at hchild
          apply hs.write_of_subset
          · intro c hmem
            rcases List.mem_append.mp hmem with hold | hnew
            · exact Or.inl (hchild c hold)
            · rw [List.mem_singleton.mp hnew]
              exact Or.inr ⟨hsize, hfree⟩
          · exact trivial
      | _ => exact hs

theorem sound_remove {s : Store} (hs : s.Sound) (h : Handle) (key : Key) :
    (s.remove h key).2.Sound := by
  have hkeys := hs.uniqueKeys h
  have hchild : forall c : Handle, c ∈ (s.node h).children -> s.Child h c := fun _ hmem => hmem
  unfold remove
  cases hnode : s.node h with
  | null => exact hs
  | map entries =>
      rw [hnode] at hkeys hchild
      apply hs.write_of_subset
      · intro c hmem
        exact Or.inl (hchild c (Entries.mem_values_erase hmem))
      · exact Entries.Unique.erase hkeys key.fieldName
  | array items =>
      rw [hnode] at hchild
      cases key with
      | field name => exact hs
      | index position =>
          apply hs.write_of_subset
          · intro c hmem
            exact Or.inl (hchild c (List.mem_of_mem_eraseIdx hmem))
          · exact trivial
  | _ => exact hs

theorem sound_setPath {s : Store} (hs : s.Sound) {h value : Handle} (path : Path)
    (hsize : h < s.size) (hvalue : value < s.size) : (s.setPath h path value).2.Sound := by
  have hplaced := hands_placeKeys hs hsize path.keys
  unfold setPath placePath
  rcases hplace : s.placeKeys h path.keys with ⟨result, s'⟩
  rw [hplace] at hplaced
  cases result with
  | ok target =>
      exact sound_set hplaced.sound (Nat.lt_of_lt_of_le hvalue hplaced.size_le)
  | error error => exact hplaced.sound

/-!
## Sizes

Nodes are never given up.
-/

theorem size_set (s : Store) (h value : Handle) : (s.set h value).2.size = s.size := by
  unfold set
  split
  · rfl
  · split
    · rfl
    · exact size_write ..

theorem size_insert (s : Store) (h : Handle) (name : String) (value : Handle) :
    (s.insert h name value).2.size = s.size := by
  unfold insert
  split
  · rfl
  · split
    · exact size_write ..
    · exact size_write ..
    · rfl

theorem size_push (s : Store) (h value : Handle) : (s.push h value).2.size = s.size := by
  unfold push
  split
  · rfl
  · split
    · exact size_write ..
    · exact size_write ..
    · rfl

theorem size_remove (s : Store) (h : Handle) (key : Key) : (s.remove h key).2.size = s.size := by
  unfold remove
  split
  · rfl
  · exact size_write ..
  · split
    · exact size_write ..
    · rfl
  · rfl

theorem size_le_setPath {s : Store} (hs : s.Sound) {h : Handle} (hsize : h < s.size) (path : Path)
    (value : Handle) : s.size ≤ (s.setPath h path value).2.size := by
  have hplaced := (hands_placeKeys hs hsize path.keys).size_le
  unfold setPath placePath
  split
  · next target s' heq =>
      rw [heq] at hplaced
      rw [size_set]
      exact hplaced
  · next error s' heq =>
      rw [heq] at hplaced
      exact hplaced

/-!
## Runs
-/

/-- One operation on handles of a store.  Reading a node, freezing it and sharing
its handle change nothing; the arguments of the others are any handles there are. -/
inductive Step (s : Store) : Store -> Prop where
  | read : Step s s
  | leaf {n : Node} : n.children = [] -> Step s (s.alloc n).2
  | ofItems {items : List Handle} :
      (forall h : Handle, h ∈ items -> h < s.size) -> Step s (s.ofItems items).2
  | ofPairs {pairs : List (String × Handle)} :
      (forall pair : String × Handle, pair ∈ pairs -> pair.2 < s.size) ->
        Step s (s.ofPairs pairs).2
  | thaw {t : Tree} : t.UniqueKeys -> Step s (s.thaw t).2
  | deepClone {h : Handle} : h < s.size -> Step s (s.deepClone h).2
  | get {h : Handle} (key : Key) : h < s.size -> Step s (s.get h key).2
  | getPath {h : Handle} (path : Path) : h < s.size -> Step s (s.getPath h path).2
  | place {h : Handle} (key : Key) : h < s.size -> Step s (s.place h key).2
  | placePath {h : Handle} (path : Path) : h < s.size -> Step s (s.placePath h path).2
  | set {h value : Handle} : h < s.size -> value < s.size -> Step s (s.set h value).2
  | setPath {h value : Handle} (path : Path) :
      h < s.size -> value < s.size -> Step s (s.setPath h path value).2
  | insert {h value : Handle} (name : String) :
      h < s.size -> value < s.size -> Step s (s.insert h name value).2
  | push {h value : Handle} : h < s.size -> value < s.size -> Step s (s.push h value).2
  | remove {h : Handle} (key : Key) : h < s.size -> Step s (s.remove h key).2

def Reachable (s : Store) : Prop :=
  ReflTransGen Step Store.empty s

theorem uniqueKeys_of_leaf {n : Node} (h : n.children = []) : n.UniqueKeys := by
  cases n with
  | map entries =>
      rw [Node.UniqueKeys, List.map_eq_nil_iff.mp h]
      exact Entries.unique_nil
  | _ => exact trivial

theorem Sound.step {s s' : Store} (hs : s.Sound) (hstep : s.Step s') : s'.Sound := by
  cases hstep with
  | read => exact hs
  | leaf hleaf => exact (yields_leaf hs hleaf (uniqueKeys_of_leaf hleaf)).sound
  | ofItems hitems => exact (yields_ofItems hs hitems).sound
  | ofPairs hpairs => exact (yields_ofPairs hs hpairs).sound
  | thaw hunique => exact (yields_thaw hs hunique).sound
  | deepClone hsize => exact (yields_deepCloneWith s.size hs hsize).sound
  | get key hsize => exact (hands_get hs _ key).sound
  | getPath path hsize => exact (hands_getKeys hs hsize path.keys).sound
  | place key hsize => exact (hands_place hs hsize key).sound
  | placePath path hsize => exact (hands_placeKeys hs hsize path.keys).sound
  | set hsize hvalue => exact sound_set hs hvalue
  | setPath path hsize hvalue => exact sound_setPath hs path hsize hvalue
  | insert name hsize hvalue => exact sound_insert hs name hvalue
  | push hsize hvalue => exact sound_push hs hvalue
  | remove key hsize => exact sound_remove hs _ key

theorem Sound.size_le {s s' : Store} (hs : s.Sound) (hstep : s.Step s') : s.size ≤ s'.size := by
  cases hstep with
  | read => exact Nat.le_refl _
  | leaf _ => exact (grows_alloc s _).size_le
  | ofItems hitems => exact (yields_ofItems hs hitems).grows.size_le
  | ofPairs hpairs => exact (yields_ofPairs hs hpairs).grows.size_le
  | thaw hunique => exact (yields_thaw hs hunique).grows.size_le
  | deepClone hsize => exact (yields_deepCloneWith s.size hs hsize).grows.size_le
  | get key hsize => exact (hands_get hs _ key).size_le
  | getPath path hsize => exact (hands_getKeys hs hsize path.keys).size_le
  | place key hsize => exact (hands_place hs hsize key).size_le
  | placePath path hsize => exact (hands_placeKeys hs hsize path.keys).size_le
  | set => exact Nat.le_of_eq (size_set ..).symm
  | setPath path hsize => exact size_le_setPath hs hsize path _
  | insert name => exact Nat.le_of_eq (size_insert ..).symm
  | push => exact Nat.le_of_eq (size_push ..).symm
  | remove key => exact Nat.le_of_eq (size_remove ..).symm

theorem Sound.run {s s' : Store} (hs : s.Sound) (hrun : ReflTransGen Step s s') :
    s'.Sound ∧ s.size ≤ s'.size := by
  induction hrun with
  | refl => exact ⟨hs, Nat.le_refl _⟩
  | tail _ hstep ih =>
      exact ⟨ih.left.step hstep, Nat.le_trans ih.right (ih.left.size_le hstep)⟩

theorem reachable_empty : Store.empty.Reachable :=
  ReflTransGen.refl

theorem Reachable.step {s s' : Store} (h : s.Reachable) (hstep : s.Step s') : s'.Reachable :=
  ReflTransGen.tail h hstep

theorem Reachable.sound {s : Store} (h : s.Reachable) : s.Sound :=
  (sound_empty.run h).left

end Store
end Troupe
