import Troupe.Proofs.History
import Troupe.Proofs.Store.Walks

/-!
# Maps as dictionaries

Three operations change the entries of a map, and each of them brings its key into a form
of its own first.  However they follow one another, the map is the ordered dictionary that
its history tells: each present key once, in the order in which the keys entered, with the
handle that was stored last.
-/

namespace Troupe
namespace Store

open Entries

/-!
## Operations on maps
-/

section Maps

variable {s s' : Store} {h value c : Handle} {name : String} {key : Key}
  {entries : Entries Handle}

theorem keys_of_node (hnode : s.node h = Node.map entries) :
    s.keys h = Entries.keys entries := by
  rw [Store.keys, entries_of_node hnode, Entries.keys]

theorem child?_of_map (hnode : s.node h = Node.map entries) (key : Key) :
    s.child? h key = Entries.get? entries key.fieldName := by
  rw [child?, hnode, Node.child?]

theorem insert_of_map (hnode : s.node h = Node.map entries) (name : String)
    (hfree : ¬ s.reaches value h = true) :
    s.insert h name value = (.ok (Entries.get? entries name),
      s.write h (Node.map (Entries.insert entries name value))) := by
  rw [Store.insert, if_neg hfree, hnode]

theorem place_of_map_absent (hnode : s.node h = Node.map entries)
    (hmissing : Entries.get? entries key.fieldName = none) :
    s.place h key = (.ok s.size, (s.alloc Node.null).2.write h
      (Node.map (Entries.insert entries key.fieldName s.size))) := by
  simp only [place, hnode, placeField, hmissing]
  rfl

theorem remove_of_map (hnode : s.node h = Node.map entries) (key : Key) :
    s.remove h key = (.ok (Entries.get? entries key.fieldName),
      s.write h (Node.map (Entries.erase entries key.fieldName))) := by
  rw [Store.remove, hnode]

end Maps

/-!
## Histories of maps
-/

/-- What has been done with the handle of a map since it was made of some pairs.  Making a
place under a key leaves the handle that it answers with under that key.  Whatever else is
done in the meantime leaves the node of the map alone. -/
inductive Recorded (h : Handle) : Store -> List (Event Handle) -> Prop where
  | made {s : Store} {pairs : List (String × Handle)} : s.Reachable ->
      (forall pair : String × Handle, pair ∈ pairs -> pair.2 < s.size) ->
        (s.ofPairs pairs).1 = h ->
          Recorded h (s.ofPairs pairs).2 (pairs.map fun pair => Event.put pair.1 pair.2)
  | other {s s' : Store} {history : List (Event Handle)} : Recorded h s history ->
      s.Step s' -> s'.node h = s.node h -> Recorded h s' history
  | inserted {s s' : Store} {history : List (Event Handle)} {name : String} {value : Handle}
      {old : Option Handle} : Recorded h s history -> value < s.size ->
        s.insert h name value = (.ok old, s') ->
          Recorded h s' (history ++ [Event.put name value])
  | refused {s s' : Store} {history : List (Event Handle)} {name : String} {value : Handle}
      {error : ValueError} : Recorded h s history -> value < s.size ->
        s.insert h name value = (.error error, s') -> Recorded h s' history
  | placed {s s' : Store} {history : List (Event Handle)} {key : Key} {c : Handle} :
      Recorded h s history -> s.place h key = (.ok c, s') ->
        Recorded h s' (history ++ [Event.put key.fieldName c])
  | removed {s s' : Store} {history : List (Event Handle)} {key : Key}
      {old : Option Handle} : Recorded h s history -> s.remove h key = (.ok old, s') ->
        Recorded h s' (history ++ [Event.erased key.fieldName])

structure Records (s : Store) (h : Handle) (entries : Entries Handle)
    (history : List (Event Handle)) : Prop where
  sound : s.Sound
  valid : h < s.size
  node : s.node h = Node.map entries
  told : Told history entries

section Recording

variable {s s' : Store} {h value c : Handle} {name : String} {key : Key}
  {entries entries' : Entries Handle} {history history' : List (Event Handle)}

theorem Records.step (hrecords : s.Records h entries history) (hstep : s.Step s')
    (hnode : s'.node h = Node.map entries') (htold : Told history' entries') :
    s'.Records h entries' history' := by
  constructor
  · exact hrecords.sound.step hstep
  · exact Nat.lt_of_lt_of_le hrecords.valid (hrecords.sound.size_le hstep)
  · exact hnode
  · exact htold

theorem Sound.records_ofPairs {pairs : List (String × Handle)} (hs : s.Sound)
    (hpairs : forall pair : String × Handle, pair ∈ pairs -> pair.2 < s.size) :
    (s.ofPairs pairs).2.Records (s.ofPairs pairs).1 (Entries.ofList pairs)
      (pairs.map fun pair => Event.put pair.1 pair.2) := by
  have hmade := yields_ofPairs hs hpairs
  constructor
  · exact hmade.sound
  · exact hmade.valid
  · exact node_alloc_self ..
  · exact told_ofList pairs

theorem Records.inserted {old : Option Handle} (hrecords : s.Records h entries history)
    (hvalue : value < s.size) (hinsert : s.insert h name value = (.ok old, s')) :
    s'.Records h (Entries.insert entries name value)
      (history ++ [Event.put name value]) := by
  have hstep : s.Step (s.insert h name value).2 := Step.insert name hrecords.valid hvalue
  by_cases hsearch : s.reaches value h = true
  · rw [Store.insert, if_pos hsearch] at hinsert
    cases hinsert
  · rw [hinsert] at hstep
    rw [insert_of_map hrecords.node name hsearch] at hinsert
    cases hinsert
    exact hrecords.step hstep (node_write_self hrecords.valid) (hrecords.told.put name value)

theorem Records.refused {error : ValueError} (hrecords : s.Records h entries history)
    (hinsert : s.insert h name value = (.error error, s')) : s' = s := by
  by_cases hsearch : s.reaches value h = true
  · rw [Store.insert, if_pos hsearch] at hinsert
    cases hinsert
    rfl
  · rw [insert_of_map hrecords.node name hsearch] at hinsert
    cases hinsert

theorem Records.placed (hrecords : s.Records h entries history)
    (hplace : s.place h key = (.ok c, s')) :
    exists entries' : Entries Handle,
      s'.Records h entries' (history ++ [Event.put key.fieldName c]) := by
  have hstep : s.Step (s.place h key).2 := Step.place key hrecords.valid
  rw [hplace] at hstep
  have htold := hrecords.told.put key.fieldName c
  cases hfound : Entries.get? entries key.fieldName with
  | none =>
      rw [place_of_map_absent hrecords.node hfound] at hplace
      cases hplace
      refine ⟨_, hrecords.step hstep (node_write_self ?_) htold⟩
      exact Nat.lt_of_lt_of_le hrecords.valid (grows_alloc s Node.null).size_le
  | some child =>
      have hchild : s.child? h key = some child := by
        rw [child?_of_map hrecords.node, hfound]
      rw [place_of_child? hrecords.valid hchild] at hplace
      cases hplace
      rw [insert_of_get? hfound] at htold
      exact ⟨entries, hrecords.step hstep hrecords.node htold⟩

theorem Records.removed {old : Option Handle} (hrecords : s.Records h entries history)
    (hremove : s.remove h key = (.ok old, s')) :
    s'.Records h (Entries.erase entries key.fieldName)
      (history ++ [Event.erased key.fieldName]) := by
  have hstep : s.Step (s.remove h key).2 := Step.remove key hrecords.valid
  rw [hremove] at hstep
  rw [remove_of_map hrecords.node] at hremove
  cases hremove
  exact hrecords.step hstep (node_write_self hrecords.valid)
    (hrecords.told.erased key.fieldName)

theorem Recorded.records (hrecorded : Recorded h s history) :
    exists entries : Entries Handle, s.Records h entries history := by
  induction hrecorded with
  | made hreachable hpairs hself =>
      rw [← hself]
      exact ⟨_, hreachable.sound.records_ofPairs hpairs⟩
  | other _ hstep hnode ih =>
      rcases ih with ⟨entries, hrecords⟩
      exact ⟨entries, hrecords.step hstep (hnode.trans hrecords.node) hrecords.told⟩
  | inserted _ hvalue hinsert ih =>
      rcases ih with ⟨entries, hrecords⟩
      exact ⟨_, hrecords.inserted hvalue hinsert⟩
  | refused _ _ hinsert ih =>
      rcases ih with ⟨entries, hrecords⟩
      rw [hrecords.refused hinsert]
      exact ⟨entries, hrecords⟩
  | placed _ hplace ih =>
      rcases ih with ⟨entries, hrecords⟩
      exact hrecords.placed hplace
  | removed _ hremove ih =>
      rcases ih with ⟨entries, hrecords⟩
      exact ⟨_, hrecords.removed hremove⟩

end Recording

/-!
## The dictionary
-/

structure Dictionary (s : Store) (h : Handle) (history : List (Event Handle)) : Prop where
  keys_nodup : (s.keys h).Nodup
  mem_keys_iff : forall name : String, name ∈ s.keys h <-> Present history name
  entered : forall name : String, name ∈ s.keys h ->
    ∃! moment : Nat, Entered history name moment
  keys_order : (s.keys h).Pairwise fun first second => forall moment moment' : Nat,
    Entered history first moment -> Entered history second moment' -> moment < moment'
  get : forall (key : Key) (c : Handle), Stored history key.fieldName c ->
    s.get h key = (.ok c, s)
  get_absent : forall key : Key, ¬ Present history key.fieldName -> s.get h key = s.detachedNull
  place : forall (key : Key) (c : Handle), Stored history key.fieldName c ->
    s.place h key = (.ok c, s)
  place_absent : forall key : Key, ¬ Present history key.fieldName ->
    exists s' : Store, s.place h key = (.ok s.size, s') ∧ s'.size = s.size + 1 ∧
      s'.node s.size = Node.null ∧
        s'.entries h = s.entries h ++ [(key.fieldName, s.size)] ∧
          forall x : Handle, x ≠ h -> s'.node x = s.node x
  insert_refused : forall (name : String) (value : Handle), value < s.size ->
    s.Reach value h -> s.insert h name value = s.refuse AccessFault.placedBeneathItself
  insert : forall (name : String) (value c : Handle), value < s.size -> ¬ s.Reach value h ->
    Stored history name c ->
      exists s' : Store, s.insert h name value = (.ok (some c), s') ∧
        s'.entries h = (s.entries h).map
          (fun entry => (entry.1, if entry.1 = name then value else entry.2)) ∧
          forall x : Handle, x ≠ h -> s'.node x = s.node x
  insert_absent : forall (name : String) (value : Handle), value < s.size ->
    ¬ s.Reach value h -> ¬ Present history name ->
      exists s' : Store, s.insert h name value = (.ok none, s') ∧
        s'.entries h = s.entries h ++ [(name, value)] ∧
          forall x : Handle, x ≠ h -> s'.node x = s.node x
  remove : forall key : Key, exists (old : Option Handle) (s' : Store),
    s.remove h key = (.ok old, s') ∧
      (forall c : Handle, old = some c <-> Stored history key.fieldName c) ∧
        s'.entries h = (s.entries h).filter (fun entry => entry.1 ≠ key.fieldName) ∧
          forall x : Handle, x ≠ h -> s'.node x = s.node x

section Behaving

variable {s : Store} {h value c : Handle} {name : String} {key : Key}
  {entries : Entries Handle} {history : List (Event Handle)}

theorem Records.get?_eq_some (hrecords : s.Records h entries history)
    (hstored : Stored history name c) : Entries.get? entries name = some c :=
  (hrecords.told.stored name c).mpr hstored

theorem Records.not_mem_keys (hrecords : s.Records h entries history)
    (habsent : ¬ Present history name) : name ∉ Entries.keys entries := by
  intro hmem
  exact habsent (hrecords.told.present_iff.mpr hmem)

theorem Records.child? (hrecords : s.Records h entries history)
    (hstored : Stored history key.fieldName c) : s.child? h key = some c := by
  rw [child?_of_map hrecords.node, hrecords.get?_eq_some hstored]

theorem Records.get_absent (hrecords : s.Records h entries history)
    (habsent : ¬ Present history key.fieldName) : s.get h key = s.detachedNull := by
  have hchild : s.child? h key = none := by
    rw [child?_of_map hrecords.node, get?_eq_none_iff]
    exact hrecords.not_mem_keys habsent
  rcases get_of_child?_eq_none hchild with ⟨-, hget⟩ | ⟨hbars, -⟩
  · exact hget
  · rw [hrecords.node] at hbars
    cases hbars

theorem written_map {s' : Store} (entries' : Entries Handle) (hsize : h < s'.size)
    (hnode : forall x : Handle, s'.node x = s.node x) :
    (s'.write h (Node.map entries')).entries h = entries' ∧
      forall x : Handle, x ≠ h -> (s'.write h (Node.map entries')).node x = s.node x := by
  constructor
  · exact entries_of_node (node_write_self hsize)
  · intro x hne
    rw [node_write_of_ne hne, hnode]

theorem Records.place_absent (hrecords : s.Records h entries history)
    (habsent : ¬ Present history key.fieldName) :
    exists s' : Store, s.place h key = (.ok s.size, s') ∧ s'.size = s.size + 1 ∧
      s'.node s.size = Node.null ∧ s'.entries h = s.entries h ++ [(key.fieldName, s.size)] ∧
        forall x : Handle, x ≠ h -> s'.node x = s.node x := by
  have hnot := hrecords.not_mem_keys habsent
  have hsize : h < (s.alloc Node.null).2.size :=
    Nat.lt_of_lt_of_le hrecords.valid (grows_alloc s Node.null).size_le
  have hne : s.size ≠ h := Nat.ne_of_gt hrecords.valid
  have hwritten := written_map (Entries.insert entries key.fieldName s.size) hsize
    (node_alloc_null s)
  refine ⟨_, place_of_map_absent hrecords.node (get?_eq_none_iff.mpr hnot), ?_, ?_, ?_,
    hwritten.right⟩
  · rw [size_write, size_alloc]
  · rw [hwritten.right s.size hne, node_of_size_le (Nat.le_refl _)]
  · rw [hwritten.left, entries_of_node hrecords.node, insert_of_not_mem s.size hnot]

theorem Records.dictionary (hrecords : s.Records h entries history) :
    s.Dictionary h history := by
  have hs := hrecords.sound
  have htold := hrecords.told
  have hkeys := keys_of_node hrecords.node
  have hentries := entries_of_node hrecords.node
  have hfree : forall {value : Handle}, value < s.size -> ¬ s.Reach value h ->
      ¬ s.reaches value h = true := by
    intro value hvalue hnot hsearch
    exact hnot ((hs.reaches_iff hvalue h).mp hsearch)
  have hwritten := fun entries' : Entries Handle =>
    written_map entries' hrecords.valid fun _ => rfl
  constructor
  case keys_nodup =>
    rw [hkeys]
    exact htold.unique
  case mem_keys_iff =>
    intro name
    rw [hkeys]
    exact htold.present_iff.symm
  case entered =>
    rw [hkeys]
    exact htold.entered
  case keys_order =>
    rw [hkeys]
    exact htold.order
  case get => exact fun key c hstored => get_of_child? (hrecords.child? hstored)
  case get_absent => exact fun key habsent => hrecords.get_absent habsent
  case place =>
    exact fun key c hstored => place_of_child? hrecords.valid (hrecords.child? hstored)
  case place_absent => exact fun key habsent => hrecords.place_absent habsent
  case insert_refused =>
    intro name value hvalue hreach
    rw [Store.insert, if_pos ((hs.reaches_iff hvalue h).mpr hreach)]
  case insert =>
    intro name value c hvalue hnot hstored
    have hget := hrecords.get?_eq_some hstored
    have hmem : name ∈ Entries.keys entries := by
      rw [← isSome_get?_iff, hget]
      rfl
    rw [insert_of_map hrecords.node name (hfree hvalue hnot), hget, hentries,
      insert_of_mem value htold.unique hmem]
    exact ⟨_, rfl, hwritten _⟩
  case insert_absent =>
    intro name value hvalue hnot habsent
    have hmissing := hrecords.not_mem_keys habsent
    rw [insert_of_map hrecords.node name (hfree hvalue hnot), get?_eq_none_iff.mpr hmissing,
      hentries, insert_of_not_mem value hmissing]
    exact ⟨_, rfl, hwritten _⟩
  case remove =>
    intro key
    rw [remove_of_map hrecords.node, hentries, erase_eq_filter htold.unique]
    exact ⟨_, _, rfl, htold.stored key.fieldName, hwritten _⟩

end Behaving

/-- However the operations on a map follow one another, it stays the dictionary that they
tell of.  An array closes up behind an item that is taken out of it. -/
theorem maps_ordered {s : Store} {h : Handle} :
    (forall history : List (Event Handle), Recorded h s history -> s.Dictionary h history) ∧
      forall (items : List Handle) (position : Nat), s.node h = Node.array items ->
        exists s' : Store, s.remove h (Key.index position) = (.ok items[position]?, s') ∧
          (forall i : Nat,
            (s'.items h)[i]? = if i < position then items[i]? else items[i + 1]?) ∧
            forall x : Handle, x ≠ h -> s'.node x = s.node x := by
  constructor
  · intro history hrecorded
    rcases hrecorded.records with ⟨entries, hrecords⟩
    exact hrecords.dictionary
  · intro items position hnode
    have hsize : h < s.size := by
      by_contra hpast
      rw [node_of_size_le (Nat.not_lt.mp hpast)] at hnode
      cases hnode
    refine ⟨s.write h (Node.array (items.eraseIdx position)), ?_, fun i => ?_,
      fun x hne => node_write_of_ne hne⟩
    · simp only [Store.remove, hnode]
    · rw [items_of_node (node_write_self hsize)]
      exact List.getElem?_eraseIdx

/-- Pairs that repeat a key, a place under a position, and a key that leaves and comes back;
then an item that is taken from between two others. -/
theorem maps_ordered_key_comes_back :
    let leaves := ((Store.empty.alloc (Node.integer 1)).2.alloc (Node.integer 2)).2
    let s := (leaves.ofPairs [("b", 0), ("a", 0), ("b", 1)]).2
    let s' := (((s.place 2 (Key.index 7)).2.remove 2 (Key.field "b")).2.insert 2 "b" 0).2
    let history : List (Event Handle) := [Event.put "b" 0, Event.put "a" 0, Event.put "b" 1,
      Event.put "7" 3, Event.erased "b", Event.put "b" 0]
    let row := (leaves.ofItems [0, 1, 0]).2
    s'.keys 2 = ["a", "7", "b"] ∧ Recorded 2 s' history ∧ s'.Dictionary 2 history ∧
      exists row' : Store, row.remove 2 (Key.index 1) = (.ok (some 1), row') ∧
        (row'.items 2)[1]? = some 0 := by
  intro leaves s s' history row
  have hleaves : leaves.Reachable :=
    (reachable_empty.step (Step.leaf rfl)).step (Step.leaf rfl)
  have hmade : Recorded 2 s [Event.put "b" 0, Event.put "a" 0, Event.put "b" 1] :=
    Recorded.made hleaves (by decide) rfl
  have hplace : s.place 2 (Key.index 7) = (.ok 3, (s.place 2 (Key.index 7)).2) := rfl
  have hremove : (s.place 2 (Key.index 7)).2.remove 2 (Key.field "b") =
    (.ok (some 1), ((s.place 2 (Key.index 7)).2.remove 2 (Key.field "b")).2) := rfl
  have hinsert : ((s.place 2 (Key.index 7)).2.remove 2 (Key.field "b")).2.insert 2 "b" 0 =
    (.ok none, s') := rfl
  have hrecorded : Recorded 2 s' history :=
    ((hmade.placed hplace).removed hremove).inserted (by decide) hinsert
  have hrow : row.node 2 = Node.array [0, 1, 0] := rfl
  rcases maps_ordered.right [0, 1, 0] 1 hrow with ⟨row', hremoved, hitems, -⟩
  refine ⟨by decide, hrecorded, maps_ordered.left history hrecorded, row', hremoved, ?_⟩
  exact hitems 1

end Store
end Troupe
