import Troupe.Proofs.Store.Copies

/-!
# Regions

Operations reach only what lies below the handles they are given.  A region is a
set of nodes with all their children in it; an operation on handles into a region
changes no node outside of it, and what it hands out lies in the region or is new.
-/

namespace Troupe
namespace Store

open Relation

/-!
## Operations on held handles
-/

def handed : Outcome Handle -> List Handle
  | (.ok h, _) => [h]
  | (.error _, _) => []

def handedOld : Outcome (Option Handle) -> List Handle
  | (.ok (some h), _) => [h]
  | _ => []

/-- One operation on handles that are held, with the store after it and the handles
that it hands out.  Literals are new nodes; `thaw` also makes values of what was
frozen before. -/
inductive Act (s : Store) (held : Handle -> Prop) : Store -> List Handle -> Prop where
  | leaf {n : Node} : n.children = [] -> Act s held (s.alloc n).2 [(s.alloc n).1]
  | ofItems {items : List Handle} : (forall h : Handle, h ∈ items -> held h) ->
      Act s held (s.ofItems items).2 [(s.ofItems items).1]
  | ofPairs {pairs : List (String × Handle)} :
      (forall pair : String × Handle, pair ∈ pairs -> held pair.2) ->
        Act s held (s.ofPairs pairs).2 [(s.ofPairs pairs).1]
  | thaw {t : Tree} : t.UniqueKeys -> Act s held (s.thaw t).2 [(s.thaw t).1]
  | deepClone {h : Handle} : held h -> Act s held (s.deepClone h).2 [(s.deepClone h).1]
  | entries {h : Handle} : held h -> Act s held s (Entries.values (s.entries h))
  | items {h : Handle} : held h -> Act s held s (s.items h)
  | get {h : Handle} (key : Key) : held h -> Act s held (s.get h key).2 (handed (s.get h key))
  | getPath {h : Handle} (path : Path) : held h ->
      Act s held (s.getPath h path).2 (handed (s.getPath h path))
  | place {h : Handle} (key : Key) : held h ->
      Act s held (s.place h key).2 (handed (s.place h key))
  | placePath {h : Handle} (path : Path) : held h ->
      Act s held (s.placePath h path).2 (handed (s.placePath h path))
  | set {h value : Handle} : held h -> held value -> Act s held (s.set h value).2 []
  | setPath {h value : Handle} (path : Path) : held h -> held value ->
      Act s held (s.setPath h path value).2 []
  | insert {h value : Handle} (name : String) : held h -> held value ->
      Act s held (s.insert h name value).2 (handedOld (s.insert h name value))
  | push {h value : Handle} : held h -> held value -> Act s held (s.push h value).2 []
  | remove {h : Handle} (key : Key) : held h ->
      Act s held (s.remove h key).2 (handedOld (s.remove h key))

theorem Act.step {s s' : Store} {held : Handle -> Prop} {out : List Handle}
    (hact : s.Act held s' out) (hvalid : forall h : Handle, held h -> h < s.size) :
    s.Step s' := by
  cases hact with
  | leaf hleaf => exact Step.leaf hleaf
  | ofItems hitems => exact Step.ofItems fun h hmem => hvalid h (hitems h hmem)
  | ofPairs hpairs => exact Step.ofPairs fun pair hmem => hvalid pair.2 (hpairs pair hmem)
  | thaw hunique => exact Step.thaw hunique
  | deepClone hheld => exact Step.deepClone (hvalid _ hheld)
  | entries hheld => exact Step.read
  | items hheld => exact Step.read
  | get key hheld => exact Step.get key (hvalid _ hheld)
  | getPath path hheld => exact Step.getPath path (hvalid _ hheld)
  | place key hheld => exact Step.place key (hvalid _ hheld)
  | placePath path hheld => exact Step.placePath path (hvalid _ hheld)
  | set hheld hvalue => exact Step.set (hvalid _ hheld) (hvalid _ hvalue)
  | setPath path hheld hvalue => exact Step.setPath path (hvalid _ hheld) (hvalid _ hvalue)
  | insert name hheld hvalue => exact Step.insert name (hvalid _ hheld) (hvalid _ hvalue)
  | push hheld hvalue => exact Step.push (hvalid _ hheld) (hvalid _ hvalue)
  | remove key hheld => exact Step.remove key (hvalid _ hheld)

/-!
## Regions
-/

/-- Nodes of a store with all that lies below them. -/
structure Region (s : Store) (r : Handle -> Prop) : Prop where
  valid : forall h : Handle, r h -> h < s.size
  closed : forall h child : Handle, r h -> s.Child h child -> r child

theorem Region.reach {s : Store} {r : Handle -> Prop} (hr : s.Region r) {h x : Handle}
    (hmem : r h) (hreach : s.Reach h x) : r x := by
  induction hreach with
  | refl => exact hmem
  | tail _ hchild ih => exact hr.closed _ _ ih hchild

/-- A region of a later store that takes in nothing of the old one, all of which is
as it was outside of the region. -/
structure Extends (s : Store) (r : Handle -> Prop) (s' : Store) (r' : Handle -> Prop) :
    Prop where
  region : s'.Region r'
  size_le : s.size ≤ s'.size
  mono : forall h : Handle, r h -> r' h
  fresh : forall h : Handle, r' h -> r h ∨ s.size ≤ h
  kept : forall h : Handle, h < s.size -> ¬ r h -> s'.node h = s.node h

def Confined (s : Store) (r : Handle -> Prop) (s' : Store) (out : List Handle) : Prop :=
  exists r' : Handle -> Prop, s.Extends r s' r' ∧ forall h : Handle, h ∈ out -> r' h

section Confinement

variable {s s' s'' : Store} {r r' r'' : Handle -> Prop} {out : List Handle}

theorem Region.extends_refl (hr : s.Region r) : s.Extends r s r := by
  constructor
  · exact hr
  · exact Nat.le_refl _
  · exact fun _ hmem => hmem
  · exact fun _ hmem => Or.inl hmem
  · exact fun _ _ _ => rfl

theorem Extends.trans (h : s.Extends r s' r') (h' : s'.Extends r' s'' r'') :
    s.Extends r s'' r'' := by
  constructor
  · exact h'.region
  · exact h.size_le.trans h'.size_le
  · exact fun x hmem => h'.mono x (h.mono x hmem)
  · intro x hmem
    rcases h'.fresh x hmem with hmem' | hnew
    · exact h.fresh x hmem'
    · exact Or.inr (h.size_le.trans hnew)
  · intro x hsize hout
    have hout' : ¬ r' x := by
      intro hmem
      rcases h.fresh x hmem with hold | hnew
      · exact hout hold
      · exact Nat.not_lt.mpr hnew hsize
    rw [h'.kept x (Nat.lt_of_lt_of_le hsize h.size_le) hout', h.kept x hsize hout]

theorem Extends.keeps_node (h : s.Extends r s' r') {q : Handle -> Prop} (hq : s.Region q)
    (hapart : forall x : Handle, r x -> ¬ q x) {x : Handle} (hx : q x) :
    s'.node x = s.node x :=
  h.kept x (hq.valid x hx) fun hmem => hapart x hmem hx

theorem Extends.keeps_region (h : s.Extends r s' r') {q : Handle -> Prop} (hq : s.Region q)
    (hapart : forall x : Handle, r x -> ¬ q x) :
    s'.Region q ∧ forall x : Handle, r' x -> ¬ q x := by
  refine ⟨⟨fun x hx => ?_, fun x child hx hchild => ?_⟩, fun x hx hx' => ?_⟩
  · exact Nat.lt_of_lt_of_le (hq.valid x hx) h.size_le
  · rw [Child, Store.children, h.keeps_node hq hapart hx] at hchild
    exact hq.closed x child hx hchild
  · rcases h.fresh x hx with hold | hnew
    · exact hapart x hold hx'
    · exact Nat.not_lt.mpr hnew (hq.valid x hx')

theorem Extends.confined (h : s.Extends r s' r') (hconfined : s'.Confined r' s'' out) :
    s.Confined r s'' out := by
  rcases hconfined with ⟨r'', h', hout⟩
  exact ⟨r'', h.trans h', hout⟩

theorem Region.unchanged (hr : s.Region r) (hout : forall h : Handle, h ∈ out -> r h) :
    s.Confined r s out :=
  ⟨r, hr.extends_refl, hout⟩

theorem Region.alloc (hr : s.Region r) {n : Node}
    (hchildren : forall c : Handle, c ∈ n.children -> r c) :
    s.Extends r (s.alloc n).2 fun h => r h ∨ h = s.size := by
  constructor
  · constructor
    · rintro h (hold | hnew)
      · rw [size_alloc]
        exact Nat.lt_succ_of_lt (hr.valid h hold)
      · rw [size_alloc, hnew]
        exact Nat.lt_succ_self _
    · intro h child hmem hchild
      left
      by_cases hself : h = s.size
      · rw [Child, children, hself, node_alloc_self] at hchild
        exact hchildren child hchild
      · rw [Child, children, node_alloc_of_ne hself] at hchild
        rcases hmem with hold | hnew
        · exact hr.closed h child hold hchild
        · exact absurd hnew hself
  · rw [size_alloc]
    exact Nat.le_succ _
  · exact fun _ hmem => Or.inl hmem
  · rintro h (hold | hnew)
    · exact Or.inl hold
    · exact Or.inr (Nat.le_of_eq hnew.symm)
  · intro h hsize _
    exact node_alloc_of_ne (Nat.ne_of_lt hsize)

theorem Region.confined_alloc (hr : s.Region r) {n : Node}
    (hchildren : forall c : Handle, c ∈ n.children -> r c) :
    s.Confined r (s.alloc n).2 [s.size] := by
  refine ⟨_, hr.alloc hchildren, ?_⟩
  intro h hmem
  exact Or.inr (List.mem_singleton.mp hmem)

theorem Region.write (hr : s.Region r) {h : Handle} {n : Node} (hmem : r h)
    (hchildren : forall c : Handle, c ∈ n.children -> r c) :
    s.Extends r (s.write h n) r := by
  constructor
  · constructor
    · intro x hx
      rw [size_write]
      exact hr.valid x hx
    · intro x child hx hchild
      by_cases hself : x = h
      · rw [Child, children, hself, node_write_self (hr.valid h hmem)] at hchild
        exact hchildren child hchild
      · rw [Child, children, node_write_of_ne hself] at hchild
        exact hr.closed x child hx hchild
  · rw [size_write]
  · exact fun _ hx => hx
  · exact fun _ hx => Or.inl hx
  · intro x _ hout
    exact node_write_of_ne fun heq => hout (heq ▸ hmem)

theorem Region.confined_write (hr : s.Region r) {h : Handle} {n : Node} (hmem : r h)
    (hchildren : forall c : Handle, c ∈ n.children -> r c)
    (hout : forall x : Handle, x ∈ out -> r x) : s.Confined r (s.write h n) out :=
  ⟨r, hr.write hmem hchildren, hout⟩

theorem Region.children (hr : s.Region r) {h : Handle} {n : Node} (hmem : r h)
    (hnode : s.node h = n) : forall c : Handle, c ∈ n.children -> r c := by
  intro c hchild
  apply hr.closed h c hmem
  rw [Child, Store.children, hnode]
  exact hchild

end Confinement

/-!
## Operations are confined
-/

section Operations

variable {s : Store} {r : Handle -> Prop}

mutual

theorem Region.thaw :
    forall {s : Store} {r : Handle -> Prop}, s.Region r -> forall t : Tree,
      s.Confined r (s.thaw t).2 [(s.thaw t).1]
  | _, _, hr, Tree.null => hr.confined_alloc fun _ hmem => by cases hmem
  | _, _, hr, Tree.bool _ => hr.confined_alloc fun _ hmem => by cases hmem
  | _, _, hr, Tree.integer _ => hr.confined_alloc fun _ hmem => by cases hmem
  | _, _, hr, Tree.float _ => hr.confined_alloc fun _ hmem => by cases hmem
  | _, _, hr, Tree.string _ => hr.confined_alloc fun _ hmem => by cases hmem
  | _, _, hr, Tree.bytes _ => hr.confined_alloc fun _ hmem => by cases hmem
  | _, _, hr, Tree.array items => by
      rcases Region.thawItems hr items with ⟨r', hitems, hmem⟩
      exact hitems.confined (hitems.region.confined_alloc hmem)
  | _, _, hr, Tree.map entries => by
      rcases Region.thawEntries hr entries with ⟨r', hentries, hmem⟩
      exact hentries.confined (hentries.region.confined_alloc hmem)

theorem Region.thawItems :
    forall {s : Store} {r : Handle -> Prop}, s.Region r -> forall items : List Tree,
      s.Confined r (s.thawItems items).2 (s.thawItems items).1
  | _, _, hr, [] => hr.unchanged fun _ hmem => by cases hmem
  | _, _, hr, t :: rest => by
      rcases Region.thaw hr t with ⟨r', hfirst, hmem⟩
      rcases Region.thawItems hfirst.region rest with ⟨r'', hrest, hmem'⟩
      refine ⟨r'', hfirst.trans hrest, ?_⟩
      intro h hin
      rcases List.mem_cons.mp hin with heq | hin
      · exact hrest.mono h (hmem h (List.mem_singleton.mpr heq))
      · exact hmem' h hin

theorem Region.thawEntries :
    forall {s : Store} {r : Handle -> Prop}, s.Region r ->
      forall entries : List (String × Tree),
        s.Confined r (s.thawEntries entries).2 (Entries.values (s.thawEntries entries).1)
  | _, _, hr, [] => hr.unchanged fun _ hmem => by cases hmem
  | _, _, hr, (_, t) :: rest => by
      rcases Region.thaw hr t with ⟨r', hfirst, hmem⟩
      rcases Region.thawEntries hfirst.region rest with ⟨r'', hrest, hmem'⟩
      refine ⟨r'', hfirst.trans hrest, ?_⟩
      intro h hin
      rcases List.mem_cons.mp hin with heq | hin
      · exact hrest.mono h (hmem h (List.mem_singleton.mpr heq))
      · exact hmem' h hin

end

theorem Region.refuse {α : Type} (hr : s.Region r) (fault : AccessFault) :
    s.Confined r (s.refuse fault : Outcome α).2 [] :=
  hr.unchanged fun _ hmem => by cases hmem

theorem Region.detachedNull (hr : s.Region r) :
    s.Confined r s.detachedNull.2 (handed s.detachedNull) :=
  hr.confined_alloc fun _ hmem => by cases hmem

theorem Region.found (hr : s.Region r) {child : Handle} (hmem : r child) :
    s.Confined r s [child] := by
  apply hr.unchanged
  intro h hin
  rw [List.mem_singleton.mp hin]
  exact hmem

theorem Region.get (hr : s.Region r) {h : Handle} (hmem : r h) (key : Key) :
    s.Confined r (s.get h key).2 (handed (s.get h key)) := by
  unfold Store.get
  cases hnode : s.node h with
  | null => exact hr.detachedNull
  | map entries =>
      dsimp only
      split
      next child hfound =>
        exact hr.found (hr.children hmem hnode child (Entries.mem_values_of_get? hfound))
      next => exact hr.detachedNull
  | array items =>
      cases key with
      | field name => exact hr.refuse _
      | index position =>
          dsimp only
          split
          next child hfound =>
            exact hr.found (hr.children hmem hnode child (List.mem_of_getElem? hfound))
          next => exact hr.detachedNull
  | _ => exact hr.refuse _

theorem Region.getKeys (hr : s.Region r) {h : Handle} (hmem : r h) (keys : List Key) :
    s.Confined r (s.getKeys h keys).2 (handed (s.getKeys h keys)) := by
  induction keys generalizing s r h with
  | nil => exact hr.found hmem
  | cons key rest ih =>
      rcases hr.get hmem key with ⟨r', hextends, hout⟩
      rw [Store.getKeys]
      rcases hget : s.get h key with ⟨result, s'⟩
      rw [hget] at hextends hout
      cases result with
      | ok child =>
          exact hextends.confined (ih hextends.region (hout child (List.mem_singleton.mpr rfl)))
      | error error => exact ⟨r', hextends, fun x hin => by cases hin⟩

theorem Region.allocNulls (hr : s.Region r) (count : Nat) :
    s.Confined r (allocNulls count s).2 (allocNulls count s).1 := by
  induction count generalizing s r with
  | zero => exact hr.unchanged fun _ hmem => by cases hmem
  | succ count ih =>
      have hnull : s.Extends r (s.alloc Node.null).2 fun h => r h ∨ h = s.size :=
        hr.alloc fun _ hmem => by cases hmem
      rcases ih hnull.region with ⟨r', hrest, hout⟩
      refine ⟨r', hnull.trans hrest, ?_⟩
      intro h hin
      rcases List.mem_cons.mp hin with heq | hin
      · exact hrest.mono h (Or.inr heq)
      · exact hout h hin

theorem Region.placePosition (hr : s.Region r) {h : Handle} (hmem : r h) {items : List Handle}
    (hitems : forall c : Handle, c ∈ items -> r c) (position : Nat) :
    s.Confined r (s.placePosition h items position).2
      (handed (s.placePosition h items position)) := by
  unfold Store.placePosition
  split
  next child hfound => exact hr.found (hitems child (List.mem_of_getElem? hfound))
  next =>
    split
    case isFalse => exact hr.refuse _
    case isTrue =>
      rcases hr.allocNulls (position - items.length) with ⟨r', hpadding, hout⟩
      rcases hnulls : Store.allocNulls (position - items.length) s with ⟨padding, s'⟩
      rw [hnulls] at hpadding hout
      have hlast : s'.Extends r' (s'.alloc Node.null).2 fun h => r' h ∨ h = s'.size :=
        hpadding.region.alloc fun _ hin => by cases hin
      have hchildren : forall c : Handle, c ∈ items ++ padding ++ [s'.size] ->
          r' c ∨ c = s'.size := by
        intro c hin
        rcases List.mem_append.mp hin with hin | hin
        · rcases List.mem_append.mp hin with hin | hin
          · exact Or.inl (hpadding.mono c (hitems c hin))
          · exact Or.inl (hout c hin)
        · exact Or.inr (List.mem_singleton.mp hin)
      have hwritten : (s'.alloc Node.null).2.Confined (fun h => r' h ∨ h = s'.size)
          ((s'.alloc Node.null).2.write h (Node.array (items ++ padding ++ [s'.size])))
          [s'.size] :=
        hlast.region.confined_write (Or.inl (hpadding.mono h hmem)) hchildren
          fun c hin => Or.inr (List.mem_singleton.mp hin)
      exact (hpadding.trans hlast).confined hwritten

theorem Region.placeField (hr : s.Region r) {h : Handle} (hmem : r h)
    {entries : Entries Handle} (hentries : forall c : Handle, c ∈ Entries.values entries -> r c)
    (name : String) :
    s.Confined r (s.placeField h entries name).2 (handed (s.placeField h entries name)) := by
  unfold Store.placeField
  split
  next child hfound => exact hr.found (hentries child (Entries.mem_values_of_get? hfound))
  next =>
    have hnull : s.Extends r (s.alloc Node.null).2 fun h => r h ∨ h = s.size :=
      hr.alloc fun _ hin => by cases hin
    have hchildren : forall c : Handle, c ∈ Entries.values (Entries.insert entries name s.size) ->
        r c ∨ c = s.size := by
      intro c hin
      rcases Entries.mem_values_insert hin with hold | hnew
      · exact Or.inl (hentries c hold)
      · exact Or.inr hnew
    have hwritten : (s.alloc Node.null).2.Confined (fun h => r h ∨ h = s.size)
        ((s.alloc Node.null).2.write h (Node.map (Entries.insert entries name s.size)))
        [s.size] :=
      hnull.region.confined_write (Or.inl hmem) hchildren
        fun c hin => Or.inr (List.mem_singleton.mp hin)
    exact hnull.confined hwritten

theorem Region.place (hr : s.Region r) {h : Handle} (hmem : r h) (key : Key) :
    s.Confined r (s.place h key).2 (handed (s.place h key)) := by
  unfold Store.place
  cases hnode : s.node h with
  | null =>
      cases key with
      | field name => exact hr.placeField hmem (fun c hin => by cases hin) name
      | index position => exact hr.placePosition hmem (fun c hin => by cases hin) position
  | map entries => exact hr.placeField hmem (hr.children hmem hnode) key.fieldName
  | array items =>
      cases key with
      | field name => exact hr.refuse _
      | index position => exact hr.placePosition hmem (hr.children hmem hnode) position
  | _ => exact hr.refuse _

theorem Region.placeKeys (hr : s.Region r) {h : Handle} (hmem : r h) (keys : List Key) :
    s.Confined r (s.placeKeys h keys).2 (handed (s.placeKeys h keys)) := by
  induction keys generalizing s r h with
  | nil => exact hr.found hmem
  | cons key rest ih =>
      rcases hr.place hmem key with ⟨r', hextends, hout⟩
      rw [Store.placeKeys]
      rcases hplace : s.place h key with ⟨result, s'⟩
      rw [hplace] at hextends hout
      cases result with
      | ok child =>
          exact hextends.confined (ih hextends.region (hout child (List.mem_singleton.mpr rfl)))
      | error error => exact ⟨r', hextends, fun x hin => by cases hin⟩

theorem Region.set (hr : s.Region r) {h value : Handle} (hmem : r h) (hvalue : r value) :
    s.Confined r (s.set h value).2 [] := by
  have hnone : forall x : Handle, x ∈ ([] : List Handle) -> r x := fun x hin => by cases hin
  unfold Store.set
  split
  · exact hr.unchanged hnone
  · split
    · exact hr.unchanged hnone
    · exact hr.confined_write hmem (hr.children hvalue rfl) hnone

theorem Region.setPath (hr : s.Region r) {h value : Handle} (path : Path) (hmem : r h)
    (hvalue : r value) : s.Confined r (s.setPath h path value).2 [] := by
  rcases hr.placeKeys hmem path.keys with ⟨r', hextends, hout⟩
  unfold Store.setPath Store.placePath
  rcases hplace : s.placeKeys h path.keys with ⟨result, s'⟩
  rw [hplace] at hextends hout
  cases result with
  | ok target =>
      have htarget : r' target := hout target (List.mem_singleton.mpr rfl)
      exact hextends.confined (hextends.region.set htarget (hextends.mono value hvalue))
  | error error => exact ⟨r', hextends, fun x hin => by cases hin⟩

theorem Region.insert (hr : s.Region r) {h value : Handle} (name : String) (hmem : r h)
    (hvalue : r value) :
    s.Confined r (s.insert h name value).2 (handedOld (s.insert h name value)) := by
  have hnone : forall x : Handle, x ∈ ([] : List Handle) -> r x := fun x hin => by cases hin
  unfold Store.insert
  split
  · exact hr.unchanged hnone
  · cases hnode : s.node h with
    | null =>
        apply hr.confined_write hmem _ hnone
        intro c hin
        rw [List.mem_singleton.mp hin]
        exact hvalue
    | map entries =>
        have hchildren := hr.children hmem hnode
        apply hr.confined_write hmem
        · intro c hin
          rcases Entries.mem_values_insert hin with hold | hnew
          · exact hchildren c hold
          · rw [hnew]
            exact hvalue
        · intro c hin
          dsimp only at hin
          cases hfound : Entries.get? entries name with
          | none =>
              rw [hfound] at hin
              cases hin
          | some old =>
              rw [hfound] at hin
              rw [List.mem_singleton.mp hin]
              exact hchildren old (Entries.mem_values_of_get? hfound)
    | _ => exact hr.unchanged hnone

theorem Region.push (hr : s.Region r) {h value : Handle} (hmem : r h) (hvalue : r value) :
    s.Confined r (s.push h value).2 [] := by
  have hnone : forall x : Handle, x ∈ ([] : List Handle) -> r x := fun x hin => by cases hin
  unfold Store.push
  split
  · exact hr.unchanged hnone
  · cases hnode : s.node h with
    | null =>
        apply hr.confined_write hmem _ hnone
        intro c hin
        rw [List.mem_singleton.mp hin]
        exact hvalue
    | array items =>
        apply hr.confined_write hmem _ hnone
        intro c hin
        rcases List.mem_append.mp hin with hold | hnew
        · exact hr.children hmem hnode c hold
        · rw [List.mem_singleton.mp hnew]
          exact hvalue
    | _ => exact hr.unchanged hnone

theorem Region.remove (hr : s.Region r) {h : Handle} (hmem : r h) (key : Key) :
    s.Confined r (s.remove h key).2 (handedOld (s.remove h key)) := by
  have hnone : forall x : Handle, x ∈ ([] : List Handle) -> r x := fun x hin => by cases hin
  unfold Store.remove
  cases hnode : s.node h with
  | null => exact hr.unchanged hnone
  | map entries =>
      have hchildren := hr.children hmem hnode
      apply hr.confined_write hmem
      · intro c hin
        exact hchildren c (Entries.mem_values_erase hin)
      · intro c hin
        dsimp only at hin
        cases hfound : Entries.get? entries key.fieldName with
        | none =>
            rw [hfound] at hin
            cases hin
        | some old =>
            rw [hfound] at hin
            rw [List.mem_singleton.mp hin]
            exact hchildren old (Entries.mem_values_of_get? hfound)
  | array items =>
      have hchildren := hr.children hmem hnode
      cases key with
      | field name => exact hr.unchanged hnone
      | index position =>
          apply hr.confined_write hmem
          · intro c hin
            exact hchildren c (List.mem_of_mem_eraseIdx hin)
          · intro c hin
            dsimp only at hin
            cases hfound : items[position]? with
            | none =>
                rw [hfound] at hin
                cases hin
            | some old =>
                rw [hfound] at hin
                rw [List.mem_singleton.mp hin]
                exact hchildren old (List.mem_of_getElem? hfound)
  | _ => exact hr.unchanged hnone

end Operations

/-- Whatever is done with handles into a region stays in the region. -/
theorem Act.confined {s s' : Store} {r held : Handle -> Prop} {out : List Handle}
    (hs : s.Sound) (hr : s.Region r) (hheld : forall h : Handle, held h -> r h)
    (hact : s.Act held s' out) : s.Confined r s' out := by
  cases hact with
  | leaf hleaf =>
      apply hr.confined_alloc
      intro c hmem
      rw [hleaf] at hmem
      cases hmem
  | ofItems hitems => exact hr.confined_alloc fun c hmem => hheld c (hitems c hmem)
  | ofPairs hpairs =>
      apply hr.confined_alloc
      intro c hmem
      rcases List.mem_map.mp (Entries.mem_values_ofList hmem) with ⟨pair, hpair, heq⟩
      rw [← heq]
      exact hheld pair.2 (hpairs pair hpair)
  | thaw hunique => exact hr.thaw _
  | deepClone hmem =>
      rw [hs.deepClone_eq_thaw (hr.valid _ (hheld _ hmem))]
      exact hr.thaw _
  | @entries h hmem =>
      apply hr.unchanged
      intro c hin
      cases hnode : s.node h with
      | map entries =>
          rw [entries_of_node hnode] at hin
          exact hr.children (hheld h hmem) hnode c hin
      | _ =>
          rw [Store.entries, hnode] at hin
          cases hin
  | @items h hmem =>
      apply hr.unchanged
      intro c hin
      cases hnode : s.node h with
      | array items =>
          rw [items_of_node hnode] at hin
          exact hr.children (hheld h hmem) hnode c hin
      | _ =>
          rw [Store.items, hnode] at hin
          cases hin
  | get key hmem => exact hr.get (hheld _ hmem) key
  | getPath path hmem => exact hr.getKeys (hheld _ hmem) path.keys
  | place key hmem => exact hr.place (hheld _ hmem) key
  | placePath path hmem => exact hr.placeKeys (hheld _ hmem) path.keys
  | set hmem hvalue => exact hr.set (hheld _ hmem) (hheld _ hvalue)
  | setPath path hmem hvalue => exact hr.setPath path (hheld _ hmem) (hheld _ hvalue)
  | insert name hmem hvalue => exact hr.insert name (hheld _ hmem) (hheld _ hvalue)
  | push hmem hvalue => exact hr.push (hheld _ hmem) (hheld _ hvalue)
  | remove key hmem => exact hr.remove (hheld _ hmem) key

end Store
end Troupe
