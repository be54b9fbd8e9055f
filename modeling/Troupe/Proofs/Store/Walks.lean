import Troupe.Proofs.Store.Steps

/-!
# Walks along keys

A key names a child of a node or none.  Where it names one, reading and making places
hand out that child and change nothing.  Where it names none, a read hands out a new
null that nothing holds, and making a place adds new nulls to the node, the last of
which the key names from then on.
-/

namespace Troupe

def Node.child? : Node -> Key -> Option Handle
  | map entries, key => Entries.get? entries key.fieldName
  | array items, Key.index position => items[position]?
  | _, _ => none

/-- A leaf other than the null bars every key, and an array bars names. -/
def Node.Bars : Node -> Key -> Prop
  | null, _ => False
  | map _, _ => False
  | array _, Key.index _ => False
  | _, _ => True

/-- The node as it counts when a place is made in it: a null is an empty container of the
kind that the key demands. -/
def Node.openedBy : Node -> Key -> Node
  | null, Key.field _ => map []
  | null, Key.index _ => array []
  | n, _ => n

/-- A container gets new children after those that it has, so that a key names the last
of them: one entry of a map, or items of an array up to a position, with a bounded gap. -/
inductive Node.Gains : Node -> Key -> List Handle -> Node -> Prop where
  | entry {entries : Entries Handle} {key : Key} {c : Handle} :
      key.fieldName ∉ Entries.keys entries ->
        Gains (map entries) key [c] (map (entries ++ [(key.fieldName, c)]))
  | items {items padding : List Handle} {c : Handle} : padding.length ≤ maxArrayGap ->
      Gains (array items) (Key.index (items.length + padding.length)) (padding ++ [c])
        (array (items ++ padding ++ [c]))

theorem Node.mem_children_of_child? {n : Node} {key : Key} {c : Handle}
    (h : n.child? key = some c) : c ∈ n.children := by
  cases n with
  | map entries => exact Entries.mem_values_of_get? h
  | array items =>
      cases key with
      | field name => cases h
      | index position => exact List.mem_of_getElem? h
  | _ => cases h

/-!
## Nodes that gain children
-/

namespace Node

theorem child?_openedBy (n : Node) (key k : Key) : (n.openedBy key).child? k = n.child? k := by
  cases n <;> cases key <;> cases k <;> rfl

theorem children_openedBy (n : Node) (key : Key) : (n.openedBy key).children = n.children := by
  cases n <;> cases key <;> rfl

section Gaining

variable {n n' : Node} {key : Key} {more : List Handle}

theorem Gains.children_eq (h : n.Gains key more n') : n'.children = n.children ++ more := by
  cases h with
  | entry _ => exact List.map_append
  | items _ => exact List.append_assoc ..

theorem Gains.child?_key (h : n.Gains key more n') : n'.child? key = more.getLast? := by
  cases h with
  | entry hnew =>
      rw [Node.child?, ← Entries.insert_of_not_mem _ hnew, Entries.get?_insert_self]
      rfl
  | items _ =>
      rw [Node.child?, List.getLast?_concat, ← List.length_append]
      exact List.getElem?_concat_length

theorem Gains.child?_kept (h : n.Gains key more n') {k : Key} {x : Handle}
    (hchild : n.child? k = some x) : n'.child? k = some x := by
  cases h with
  | @entry entries key c hnew =>
      rw [Node.child?] at hchild
      have hne : key.fieldName ≠ k.fieldName := by
        intro heq
        rw [← heq, Entries.get?_eq_none_iff.mpr hnew] at hchild
        cases hchild
      rw [Node.child?, ← Entries.insert_of_not_mem _ hnew, Entries.get?_insert_of_ne _ hne]
      exact hchild
  | items _ =>
      cases k with
      | field name => cases hchild
      | index i =>
          rw [Node.child?] at hchild
          have hlt := (List.getElem?_eq_some_iff.mp hchild).choose
          rw [Node.child?, List.append_assoc, List.getElem?_append_left hlt]
          exact hchild

end Gaining

end Node

namespace Store

open Relation

def child? (s : Store) (h : Handle) (key : Key) : Option Handle :=
  (s.node h).child? key

def walk? (s : Store) (h : Handle) : List Key -> Option Handle
  | [] => some h
  | key :: rest => (s.child? h key).bind fun child => walk? s child rest

section Children

variable {s s' : Store} {h c : Handle} {key : Key}

theorem child_of_child? (hchild : s.child? h key = some c) : s.Child h c :=
  Node.mem_children_of_child? hchild

theorem child?_congr (hnode : s'.node h = s.node h) : s'.child? h key = s.child? h key := by
  rw [child?, child?, hnode]

theorem walk?_cons_eq_some_iff {rest : List Key} {x : Handle} :
    s.walk? h (key :: rest) = some x <->
      exists child : Handle, s.child? h key = some child ∧ s.walk? child rest = some x := by
  rw [walk?, Option.bind_eq_some_iff]

theorem reach_of_walk? {keys : List Key} (hwalk : s.walk? h keys = some c) : s.Reach h c := by
  induction keys generalizing h with
  | nil =>
      cases hwalk
      exact ReflTransGen.refl
  | cons key rest ih =>
      rcases walk?_cons_eq_some_iff.mp hwalk with ⟨child, hchild, hbelow⟩
      exact ReflTransGen.head (child_of_child? hchild) (ih hbelow)

theorem Sound.walk?_kept (hs : s.Sound)
    (hkept : forall (x : Handle) (key : Key) (c : Handle), x < s.size ->
      s.child? x key = some c -> s'.child? x key = some c)
    (hsize : h < s.size) {keys : List Key} (hwalk : s.walk? h keys = some c) :
    s'.walk? h keys = some c := by
  induction keys generalizing h with
  | nil => exact hwalk
  | cons key rest ih =>
      rcases walk?_cons_eq_some_iff.mp hwalk with ⟨child, hchild, hbelow⟩
      exact walk?_cons_eq_some_iff.mpr ⟨child, hkept h key child hsize hchild,
        ih (hs.closed h child (child_of_child? hchild)) hbelow⟩

end Children

/-!
## Reading
-/

/-- A null that was made since and that no node holds. -/
structure Loose (s s' : Store) (c : Handle) : Prop where
  fresh : Fresh s s' c
  grows : s.Grows s'
  sound : s'.Sound
  unheld : forall parent : Handle, ¬ s'.Child parent c

section Reading

variable {s s' s'' : Store} {h c : Handle} {key : Key}

theorem Sound.loose_alloc (hs : s.Sound) : Loose s (s.alloc Node.null).2 s.size := by
  constructor
  · exact fresh_alloc s
  · exact grows_alloc s Node.null
  · exact sound_alloc_null hs
  · intro parent hchild
    by_cases hself : parent = s.size
    · rw [Child, children, hself, node_alloc_self] at hchild
      cases hchild
    · rw [Child, children, node_alloc_of_ne hself] at hchild
      exact Nat.lt_irrefl _ (hs.closed parent s.size hchild)

theorem Loose.of_grows (hgrows : s.Grows s') (hloose : Loose s' s'' c) : Loose s s'' c := by
  constructor
  · exact Fresh.of_grows hgrows hloose.fresh
  · exact hgrows.trans hloose.grows
  · exact hloose.sound
  · exact hloose.unheld

theorem get_of_child? (hchild : s.child? h key = some c) : s.get h key = (.ok c, s) := by
  unfold child? at hchild
  unfold get
  cases hnode : s.node h with
  | map entries =>
      rw [hnode, Node.child?] at hchild
      simp only [hchild]
  | array items =>
      cases key with
      | field name =>
          rw [hnode] at hchild
          cases hchild
      | index position =>
          rw [hnode, Node.child?] at hchild
          simp only [hchild]
  | _ =>
      rw [hnode] at hchild
      cases hchild

theorem get_of_child?_eq_none (hchild : s.child? h key = none) :
    (¬ (s.node h).Bars key ∧ s.get h key = s.detachedNull) ∨
      ((s.node h).Bars key ∧ exists fault : AccessFault, s.get h key = s.refuse fault) := by
  unfold child? at hchild
  unfold get
  cases hnode : s.node h with
  | null => exact Or.inl ⟨not_false, rfl⟩
  | map entries =>
      rw [hnode, Node.child?] at hchild
      simp only [hchild]
      exact Or.inl ⟨not_false, trivial⟩
  | array items =>
      cases key with
      | field name => exact Or.inr ⟨trivial, _, rfl⟩
      | index position =>
          rw [hnode, Node.child?] at hchild
          simp only [hchild]
          exact Or.inl ⟨not_false, trivial⟩
  | _ => exact Or.inr ⟨trivial, _, rfl⟩

theorem grows_get (s : Store) (h : Handle) (key : Key) : s.Grows (s.get h key).2 := by
  cases hchild : s.child? h key with
  | some c =>
      rw [get_of_child? hchild]
      exact Grows.refl s
  | none =>
      rcases get_of_child?_eq_none hchild with ⟨-, hget⟩ | ⟨-, fault, hget⟩
      · rw [hget]
        exact grows_alloc s Node.null
      · rw [hget]
        exact Grows.refl s

theorem grows_getKeys (s : Store) (h : Handle) (keys : List Key) :
    s.Grows (s.getKeys h keys).2 := by
  induction keys generalizing s h with
  | nil => exact Grows.refl s
  | cons key rest ih =>
      have hfirst := grows_get s h key
      rw [getKeys]
      rcases hget : s.get h key with ⟨error | c, s'⟩
      · rw [hget] at hfirst
        exact hfirst
      · rw [hget] at hfirst
        exact hfirst.trans (ih s' c)

theorem getKeys_of_walk? {keys : List Key} (hwalk : s.walk? h keys = some c) :
    s.getKeys h keys = (.ok c, s) := by
  induction keys generalizing h with
  | nil =>
      cases hwalk
      rfl
  | cons key rest ih =>
      rcases walk?_cons_eq_some_iff.mp hwalk with ⟨child, hchild, hbelow⟩
      rw [getKeys, get_of_child? hchild]
      exact ih hbelow

theorem Loose.getKeys (hloose : Loose s s' h) (keys : List Key) :
    exists (c : Handle) (s'' : Store), s'.getKeys h keys = (.ok c, s'') ∧ Loose s s'' c := by
  induction keys generalizing s' h with
  | nil => exact ⟨h, s', rfl, hloose⟩
  | cons key rest ih =>
      have hget : s'.get h key = (.ok s'.size, (s'.alloc Node.null).2) := by
        rw [get, hloose.fresh.null]
        rfl
      rw [Store.getKeys, hget]
      exact ih (hloose.sound.loose_alloc.of_grows hloose.grows)

theorem Sound.loose_of_get (hs : s.Sound) (hchild : s.child? h key = none)
    (hget : s.get h key = (.ok c, s')) : Loose s s' c := by
  rcases get_of_child?_eq_none hchild with ⟨-, hnull⟩ | ⟨-, fault, hfault⟩
  · rw [hnull] at hget
    cases hget
    exact hs.loose_alloc
  · rw [hfault] at hget
    cases hget

theorem Sound.loose_of_getKeys (hs : s.Sound) {keys : List Key} (hwalk : s.walk? h keys = none)
    (hget : s.getKeys h keys = (.ok c, s')) : Loose s s' c := by
  induction keys generalizing h with
  | nil => cases hwalk
  | cons key rest ih =>
      rw [getKeys] at hget
      cases hchild : s.child? h key with
      | some child =>
          rw [get_of_child? hchild] at hget
          rw [walk?, hchild] at hwalk
          exact ih hwalk hget
      | none =>
          rcases hfirst : s.get h key with ⟨error | null, s₁⟩
          · rw [hfirst] at hget
            cases hget
          · rw [hfirst] at hget
            rcases (hs.loose_of_get hchild hfirst).getKeys rest with ⟨c', s₂, hrest, hloose⟩
            dsimp only at hget
            rw [hrest] at hget
            cases hget
            exact hloose

end Reading

/-!
## Making places
-/

/-- A place that was made: a node has got new nulls after the children that it had, and
the key names the last of them. -/
structure Placed (s : Store) (h : Handle) (key : Key) (s' : Store) (c : Handle) : Prop where
  old : h < s.size
  missing : s.child? h key = none
  others : forall x : Handle, x ≠ h -> s'.node x = s.node x
  made : exists padding : Nat, s'.size = s.size + padding + 1 ∧ c = s.size + padding ∧
    ((s.node h).openedBy key).Gains key (List.range' s.size (padding + 1)) (s'.node h)

section Placing

variable {s s' : Store} {h c : Handle} {key : Key}

theorem Placed.size_le (hplaced : s.Placed h key s' c) : s.size ≤ s'.size := by
  rcases hplaced.made with ⟨padding, hsize, -, -⟩
  rw [hsize, Nat.add_assoc]
  exact Nat.le_add_right _ _

theorem Placed.node_eq (hplaced : s.Placed h key s' c) (x : Handle) (_ : x < s.size)
    (hne : x ≠ h) : s'.node x = s.node x :=
  hplaced.others x hne

theorem Placed.fresh (hplaced : s.Placed h key s' c) : Fresh s s' c := by
  rcases hplaced.made with ⟨padding, hsize, hlast, -⟩
  have hnew : s.size ≤ c := by
    rw [hlast]
    exact Nat.le_add_right _ _
  constructor
  · exact hnew
  · rw [hsize, hlast]
    exact Nat.lt_succ_self _
  · rw [hplaced.others c (Nat.ne_of_gt (Nat.lt_of_lt_of_le hplaced.old hnew)),
      node_of_size_le hnew]

theorem Placed.child (hplaced : s.Placed h key s' c) : s'.child? h key = some c := by
  rcases hplaced.made with ⟨padding, -, hlast, hgains⟩
  rw [child?, hgains.child?_key, List.range'_1_concat, List.getLast?_concat, hlast]

theorem Placed.child?_kept (hplaced : s.Placed h key s' c) {x d : Handle} {k : Key}
    (hchild : s.child? x k = some d) : s'.child? x k = some d := by
  by_cases hself : x = h
  · rcases hplaced.made with ⟨padding, -, -, hgains⟩
    rw [hself] at hchild ⊢
    apply hgains.child?_kept
    rw [Node.child?_openedBy]
    exact hchild
  · rw [child?_congr (hplaced.others x hself)]
    exact hchild

theorem Placed.eq_of_reach (hplaced : s.Placed h key s' c) {x : Handle} (hreach : s'.Reach c x) :
    x = c := by
  have hleaf : s'.children c = [] := by
    rw [children, hplaced.fresh.null]
    rfl
  by_contra hne
  exact not_reach_of_leaf hleaf (Ne.symm hne) hreach

end Placing

theorem allocNulls_eq (count : Nat) (s : Store) :
    (allocNulls count s).1 = List.range' s.size count ∧
      (allocNulls count s).2.size = s.size + count ∧
        forall x : Handle, (allocNulls count s).2.node x = s.node x := by
  induction count generalizing s with
  | zero => exact ⟨rfl, rfl, fun _ => rfl⟩
  | succ count ih =>
      rcases ih (s.alloc Node.null).2 with ⟨hhandles, hsize, hnode⟩
      rw [size_alloc] at hhandles hsize
      refine ⟨?_, ?_, fun x => ?_⟩
      · rw [List.range'_succ, ← hhandles]
        rfl
      · rw [Nat.add_right_comm] at hsize
        exact hsize
      · rw [← node_alloc_null s x]
        exact hnode x

section Places

variable {s : Store} {h : Handle} {key : Key}

inductive Places (s : Store) (h : Handle) (key : Key) : Outcome Handle -> Prop where
  | refused (fault : AccessFault) : s.child? h key = none -> Places s h key (s.refuse fault)
  | found {c : Handle} : s.child? h key = some c -> Places s h key (.ok c, s)
  | made {c : Handle} {s' : Store} : s.Placed h key s' c -> Places s h key (.ok c, s')

theorem placed_field {entries : Entries Handle} {name : String} (hsize : h < s.size)
    (hopened : (s.node h).openedBy key = Node.map entries) (hkey : key.fieldName = name)
    (hmissing : s.child? h key = none) (hnew : name ∉ Entries.keys entries) :
    s.Placed h key
      ((s.alloc Node.null).2.write h (Node.map (Entries.insert entries name s.size))) s.size := by
  have hsize' : h < (s.alloc Node.null).2.size :=
    Nat.lt_of_lt_of_le hsize (grows_alloc s Node.null).size_le
  constructor
  · exact hsize
  · exact hmissing
  · intro x hne
    rw [node_write_of_ne hne, node_alloc_null]
  · refine ⟨0, ?_, rfl, ?_⟩
    · rw [size_write, size_alloc]
    · rw [← hkey] at hnew ⊢
      rw [node_write_self hsize', hopened, Entries.insert_of_not_mem _ hnew]
      exact Node.Gains.entry hnew

theorem placed_position {items : List Handle} {position : Nat} (hsize : h < s.size)
    (hopened : (s.node h).openedBy (Key.index position) = Node.array items)
    (hmissing : s.child? h (Key.index position) = none) (hend : items.length ≤ position)
    (hgap : position - items.length ≤ maxArrayGap) {padding : List Handle} {s₁ : Store}
    (hnulls : allocNulls (position - items.length) s = (padding, s₁)) :
    s.Placed h (Key.index position)
      ((s₁.alloc Node.null).2.write h (Node.array (items ++ padding ++ [s₁.size]))) s₁.size := by
  rcases allocNulls_eq (position - items.length) s with ⟨hhandles, hgrown, hnode⟩
  rw [hnulls] at hhandles hgrown hnode
  dsimp only at hhandles hgrown hnode
  have hlength : padding.length = position - items.length := by
    rw [hhandles, List.length_range']
  have hsize' : h < (s₁.alloc Node.null).2.size := by
    rw [size_alloc, hgrown, Nat.add_assoc]
    exact Nat.lt_add_right _ hsize
  constructor
  · exact hsize
  · exact hmissing
  · intro x hne
    rw [node_write_of_ne hne, node_alloc_null, hnode]
  · refine ⟨position - items.length, ?_, hgrown, ?_⟩
    · rw [size_write, size_alloc, hgrown]
    · have hposition : position = items.length + padding.length := by omega
      rw [node_write_self hsize', hopened, List.range'_1_concat, ← hgrown, ← hhandles]
      rw [← hlength] at hgap
      rw [hposition]
      exact Node.Gains.items hgap

theorem places_placeField {entries : Entries Handle} {name : String} (hsize : h < s.size)
    (hopened : (s.node h).openedBy key = Node.map entries) (hkey : key.fieldName = name) :
    s.Places h key (s.placeField h entries name) := by
  have hchild : s.child? h key = Entries.get? entries name := by
    rw [child?, ← Node.child?_openedBy _ key, hopened, Node.child?, hkey]
  unfold placeField
  split
  · next child hfound => exact Places.found (hchild.trans hfound)
  · next hmissing =>
      exact Places.made (placed_field hsize hopened hkey (hchild.trans hmissing)
        (Entries.get?_eq_none_iff.mp hmissing))

theorem places_placePosition {items : List Handle} {position : Nat} (hsize : h < s.size)
    (hopened : (s.node h).openedBy (Key.index position) = Node.array items) :
    s.Places h (Key.index position) (s.placePosition h items position) := by
  have hchild : s.child? h (Key.index position) = items[position]? := by
    rw [child?, ← Node.child?_openedBy _ (Key.index position), hopened, Node.child?]
  unfold placePosition
  split
  · next child hfound => exact Places.found (hchild.trans hfound)
  · next hmissing =>
      split
      · next hwithin =>
          have hgap : position - items.length ≤ maxArrayGap := by
            rw [withinGap, Bool.and_eq_true, decide_eq_true_eq, decide_eq_true_eq] at hwithin
            exact hwithin.right
          exact Places.made (placed_position hsize hopened (hchild.trans hmissing)
            (List.getElem?_eq_none_iff.mp hmissing) hgap rfl)
      · exact Places.refused _ (hchild.trans hmissing)

theorem places_place (hsize : h < s.size) (key : Key) : s.Places h key (s.place h key) := by
  have hchild : s.child? h key = (s.node h).child? key := rfl
  unfold place
  cases hnode : s.node h with
  | null =>
      cases key with
      | field name => exact places_placeField hsize (congrArg (Node.openedBy · _) hnode) rfl
      | index position => exact places_placePosition hsize (congrArg (Node.openedBy · _) hnode)
  | map entries => exact places_placeField hsize (congrArg (Node.openedBy · key) hnode) rfl
  | array items =>
      rw [hnode] at hchild
      cases key with
      | field name => exact Places.refused _ hchild
      | index position => exact places_placePosition hsize (congrArg (Node.openedBy · _) hnode)
  | _ =>
      rw [hnode] at hchild
      exact Places.refused _ hchild

theorem place_of_child? {c : Handle} (hsize : h < s.size) (hchild : s.child? h key = some c) :
    s.place h key = (.ok c, s) := by
  have hplaces := places_place hsize key
  cases hplace : s.place h key with
  | mk result s' =>
      rw [hplace] at hplaces
      cases hplaces with
      | refused fault hmissing =>
          rw [hchild] at hmissing
          cases hmissing
      | found hfound =>
          rw [hchild] at hfound
          rw [Option.some.inj hfound]
      | made hplaced =>
          have hmissing := hplaced.missing
          rw [hchild] at hmissing
          cases hmissing

end Places

end Store
end Troupe
