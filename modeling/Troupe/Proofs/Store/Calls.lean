import Troupe.Proofs.Store.Regions
import Troupe.Store.Extract

/-!
# Calls

A call is an operation together with its arguments, so the same call can be made in two
stores and its answers compared.  What a call answers and does depends on the nodes below
its arguments alone: nodes outside of a region with the arguments may be blanked without any
difference to it.
-/

namespace Troupe
namespace Store

open Relation

/-!
## Answers
-/

/-- One operation with its arguments.  `look` hands out what a node holds, of which its kind,
its length, its keys and its children are parts. -/
inductive Call where
  | leaf (n : Node)
  | ofItems (items : List Handle)
  | ofPairs (pairs : List (String × Handle))
  | thaw (t : Tree)
  | deepClone (h : Handle)
  | look (h : Handle)
  | freeze (h : Handle)
  | equal (h other : Handle)
  | read (h : Handle) (type : ReadType)
  | readExact (h : Handle) (type : ReadType)
  | get (h : Handle) (key : Key)
  | getPath (h : Handle) (path : Path)
  | place (h : Handle) (key : Key)
  | placePath (h : Handle) (path : Path)
  | set (h value : Handle)
  | setPath (h : Handle) (path : Path) (value : Handle)
  | insert (h : Handle) (name : String) (value : Handle)
  | push (h value : Handle)
  | remove (h : Handle) (key : Key)

inductive Answer where
  | refused (error : ValueError)
  | done
  | handle (h : Handle)
  | old (h : Option Handle)
  | node (n : Node)
  | tree (t : Tree)
  | flag (b : Bool)
  | value (type : ReadType) (a : Except ValueError type.Carrier)
  | exact (type : ReadType) (a : Option type.Carrier)

def Answer.handles : Answer -> List Handle
  | handle h => [h]
  | old h => h.toList
  | node n => n.children
  | _ => []

namespace Call

def answering {α : Type} (answer : α -> Answer) : Outcome α -> Answer × Store
  | (.ok a, s) => (answer a, s)
  | (.error error, s) => (Answer.refused error, s)

def making (made : Handle × Store) : Answer × Store :=
  (Answer.handle made.1, made.2)

def run (s : Store) : Call -> Answer × Store
  | leaf n => making (s.alloc n)
  | ofItems items => making (s.ofItems items)
  | ofPairs pairs => making (s.ofPairs pairs)
  | thaw t => making (s.thaw t)
  | deepClone h => making (s.deepClone h)
  | look h => (Answer.node (s.node h), s)
  | freeze h => (Answer.tree (s.freeze h), s)
  | equal h other => (Answer.flag (s.equal h other), s)
  | read h type => (Answer.value type (s.read h type), s)
  | readExact h type => (Answer.exact type (s.readExact? h type), s)
  | get h key => answering Answer.handle (s.get h key)
  | getPath h path => answering Answer.handle (s.getPath h path)
  | place h key => answering Answer.handle (s.place h key)
  | placePath h path => answering Answer.handle (s.placePath h path)
  | set h value => answering (fun _ => Answer.done) (s.set h value)
  | setPath h path value => answering (fun _ => Answer.done) (s.setPath h path value)
  | insert h name value => answering Answer.old (s.insert h name value)
  | push h value => answering (fun _ => Answer.done) (s.push h value)
  | remove h key => answering Answer.old (s.remove h key)

def arguments : Call -> List Handle
  | leaf _ | thaw _ => []
  | ofItems items => items
  | ofPairs pairs => pairs.map Prod.snd
  | equal h other => [h, other]
  | set h value | setPath h _ value | insert h _ value | push h value => [h, value]
  | deepClone h | look h | freeze h | read h _ | readExact h _ | get h _ | getPath h _
  | place h _ | placePath h _ | remove h _ => [h]

/-- A leaf has no children, and what is thawed repeats no key. -/
def Proper : Call -> Prop
  | leaf n => n.children = []
  | thaw t => t.UniqueKeys
  | _ => True

theorem mem_handed {outcome : Outcome Handle} {h : Handle}
    (hmem : h ∈ (answering Answer.handle outcome).1.handles) : h ∈ handed outcome := by
  rcases outcome with ⟨error | c, s⟩ <;> exact hmem

theorem mem_handedOld {outcome : Outcome (Option Handle)} {h : Handle}
    (hmem : h ∈ (answering Answer.old outcome).1.handles) : h ∈ handedOld outcome := by
  rcases outcome with ⟨error | _ | c, s⟩ <;> exact hmem

theorem not_mem_done {outcome : Outcome Unit} {h : Handle}
    (hmem : h ∈ (answering (fun _ => Answer.done) outcome).1.handles) :
    h ∈ ([] : List Handle) := by
  rcases outcome with ⟨error | _, s⟩ <;> exact hmem

theorem answering_snd {α : Type} (answer : α -> Answer) (outcome : Outcome α) :
    (answering answer outcome).2 = outcome.2 := by
  rcases outcome with ⟨error | a, s⟩ <;> rfl

theorem of_first {c : Call} {p : Handle -> Prop}
    (hall : forall h : Handle, h ∈ c.arguments -> p h) {h : Handle} {rest : List Handle}
    (harguments : c.arguments = h :: rest) : p h :=
  hall h (harguments ▸ List.mem_cons_self)

theorem of_second {c : Call} {p : Handle -> Prop}
    (hall : forall h : Handle, h ∈ c.arguments -> p h) {h value : Handle}
    (harguments : c.arguments = [h, value]) : p value :=
  hall value (harguments ▸ List.mem_cons_of_mem h List.mem_cons_self)

theorem act {s : Store} {held : Handle -> Prop} {c : Call} (hproper : c.Proper)
    (hheld : forall h : Handle, h ∈ c.arguments -> held h) :
    exists out : List Handle, s.Act held (c.run s).2 out ∧
      forall h : Handle, h ∈ (c.run s).1.handles -> h ∈ out := by
  have hnone : forall {out : List Handle} (h : Handle), h ∈ ([] : List Handle) -> h ∈ out :=
    fun h hmem => by cases hmem
  cases c with
  | leaf n => exact ⟨_, Act.leaf hproper, fun _ => id⟩
  | ofItems items => exact ⟨_, Act.ofItems hheld, fun _ => id⟩
  | ofPairs pairs =>
      have hpairs : forall pair : String × Handle, pair ∈ pairs -> held pair.2 :=
        fun pair hmem => hheld pair.2 (List.mem_map_of_mem hmem)
      exact ⟨_, Act.ofPairs hpairs, fun _ => id⟩
  | thaw t => exact ⟨_, Act.thaw hproper, fun _ => id⟩
  | deepClone h => exact ⟨_, Act.deepClone (of_first hheld rfl), fun _ => id⟩
  | look h =>
      have hhandles : forall {n : Node}, s.node h = n ->
          forall c : Handle, c ∈ (run s (look h)).1.handles -> c ∈ n.children :=
        fun hnode c hmem => hnode ▸ hmem
      cases hnode : s.node h with
      | map entries =>
          refine ⟨_, Act.entries (of_first hheld rfl), ?_⟩
          rw [entries_of_node hnode]
          exact hhandles hnode
      | array items =>
          refine ⟨_, Act.items (of_first hheld rfl), ?_⟩
          rw [items_of_node hnode]
          exact hhandles hnode
      | _ =>
          refine ⟨_, Act.items (of_first hheld rfl), fun c hmem => ?_⟩
          exact hnone c (hhandles hnode c hmem)
  | freeze h => exact ⟨_, Act.entries (of_first hheld rfl), hnone⟩
  | equal h other => exact ⟨_, Act.entries (of_first hheld rfl), hnone⟩
  | read h type => exact ⟨_, Act.entries (of_first hheld rfl), hnone⟩
  | readExact h type => exact ⟨_, Act.entries (of_first hheld rfl), hnone⟩
  | get h key =>
      rw [run, answering_snd]
      exact ⟨_, Act.get key (of_first hheld rfl), fun _ => mem_handed⟩
  | getPath h path =>
      rw [run, answering_snd]
      exact ⟨_, Act.getPath path (of_first hheld rfl), fun _ => mem_handed⟩
  | place h key =>
      rw [run, answering_snd]
      exact ⟨_, Act.place key (of_first hheld rfl), fun _ => mem_handed⟩
  | placePath h path =>
      rw [run, answering_snd]
      exact ⟨_, Act.placePath path (of_first hheld rfl), fun _ => mem_handed⟩
  | set h value =>
      rw [run, answering_snd]
      exact ⟨_, Act.set (of_first hheld rfl) (of_second hheld rfl), fun _ => not_mem_done⟩
  | setPath h path value =>
      rw [run, answering_snd]
      exact ⟨_, Act.setPath path (of_first hheld rfl) (of_second hheld rfl),
        fun _ => not_mem_done⟩
  | insert h name value =>
      rw [run, answering_snd]
      exact ⟨_, Act.insert name (of_first hheld rfl) (of_second hheld rfl),
        fun _ => mem_handedOld⟩
  | push h value =>
      rw [run, answering_snd]
      exact ⟨_, Act.push (of_first hheld rfl) (of_second hheld rfl), fun _ => not_mem_done⟩
  | remove h key =>
      rw [run, answering_snd]
      exact ⟨_, Act.remove key (of_first hheld rfl), fun _ => mem_handedOld⟩

end Call

/-!
## Blanked nodes
-/

def blank (s : Store) (gone : List Handle) : Store :=
  { nodes := s.nodes.mapIdx fun h n => if h ∈ gone then Node.null else n }

def blanked {α : Type} (gone : List Handle) (result : α × Store) : α × Store :=
  (result.1, result.2.blank gone)

theorem eq_of_nodes {s s' : Store} (hsize : s.size = s'.size)
    (hnode : forall h : Handle, s.node h = s'.node h) : s = s' := by
  rcases s with ⟨nodes⟩
  rcases s' with ⟨nodes'⟩
  have heq : nodes = nodes' := by
    apply Array.ext hsize
    intro h hold hold'
    have hsame := hnode h
    rw [node, node, Array.getD, Array.getD, dif_pos hold, dif_pos hold'] at hsame
    exact hsame
  rw [heq]

section Blanking

variable {s : Store} {gone : List Handle} {h v : Handle} {n : Node}

theorem size_blank (s : Store) (gone : List Handle) : (s.blank gone).size = s.size :=
  Array.size_mapIdx

theorem node_blank : (s.blank gone).node h = if h ∈ gone then Node.null else s.node h := by
  unfold blank node
  rw [Array.getD_eq_getD_getElem?, Array.getD_eq_getD_getElem?, Array.getElem?_mapIdx]
  cases s.nodes[h]? with
  | none => exact (ite_self _).symm
  | some n => rfl

theorem node_blank_of_not_mem (hout : h ∉ gone) : (s.blank gone).node h = s.node h := by
  rw [node_blank, if_neg hout]

theorem blank_nil : s.blank [] = s := by
  refine eq_of_nodes (size_blank s []) fun x => ?_
  exact node_blank_of_not_mem List.not_mem_nil

theorem alloc_blank (hnew : s.size ∉ gone) (n : Node) :
    (s.blank gone).alloc n = blanked gone (s.alloc n) := by
  refine Prod.ext (size_blank s gone) (eq_of_nodes ?_ fun x => ?_)
  · rw [size_alloc, size_blank, blanked, size_blank, size_alloc]
  · rw [blanked, node_blank]
    by_cases hself : x = s.size
    · rw [hself, if_neg hnew, node_alloc_self, ← size_blank s gone, node_alloc_self]
    · have hself' : x ≠ (s.blank gone).size := by
        rw [size_blank]
        exact hself
      rw [node_alloc_of_ne hself, node_alloc_of_ne hself', node_blank]

theorem write_blank (hout : h ∉ gone) (n : Node) :
    (s.blank gone).write h n = (s.write h n).blank gone := by
  by_cases hsize : h < s.size
  case neg =>
    have hpast := Nat.not_lt.mp hsize
    rw [write_of_size_le hpast, write_of_size_le (by rwa [size_blank])]
  refine eq_of_nodes ?_ fun x => ?_
  · rw [size_write, size_blank, size_blank, size_write]
  · rw [node_blank]
    by_cases hself : x = h
    · rw [hself, if_neg hout, node_write_self hsize, node_write_self (by rwa [size_blank])]
    · rw [node_write_of_ne hself, node_write_of_ne hself, node_blank]

theorem write_null_blank : (s.blank gone).write v Node.null = s.blank (v :: gone) := by
  by_cases hsize : v < s.size
  case neg =>
    have hpast := Nat.not_lt.mp hsize
    rw [write_of_size_le (by rwa [size_blank])]
    refine eq_of_nodes (by rw [size_blank, size_blank]) fun x => ?_
    rw [node_blank, node_blank]
    by_cases hself : x = v
    · rw [hself, node_of_size_le hpast, ite_self, ite_self]
    · simp only [List.mem_cons, hself, false_or]
  refine eq_of_nodes ?_ fun x => ?_
  · rw [size_write, size_blank, size_blank]
  · rw [node_blank]
    by_cases hself : x = v
    · rw [hself, node_write_self (by rwa [size_blank]), if_pos List.mem_cons_self]
    · rw [node_write_of_ne hself, node_blank]
      simp only [List.mem_cons, hself, false_or]

theorem Sound.blank (hs : s.Sound) (gone : List Handle) : (s.blank gone).Sound := by
  have hchild : forall parent child : Handle,
      (s.blank gone).Child parent child -> s.Child parent child := by
    intro parent child hlink
    rw [Child, children, node_blank] at hlink
    split at hlink
    · cases hlink
    · exact hlink
  rcases hs.ranked with ⟨rank, hrank⟩
  constructor
  · intro parent child hlink
    rw [size_blank]
    exact hs.closed parent child (hchild parent child hlink)
  · exact ⟨rank, fun parent child hlink => hrank parent child (hchild parent child hlink)⟩
  · intro x
    rw [node_blank]
    split
    · exact trivial
    · exact hs.uniqueKeys x

end Blanking

/-!
## Nodes out of sight
-/

structure Hides (s : Store) (r : Handle -> Prop) (gone : List Handle) : Prop where
  region : s.Region r
  old : forall v : Handle, v ∈ gone -> v < s.size
  outside : forall v : Handle, v ∈ gone -> ¬ r v

section Hiding

variable {s s' : Store} {r r' : Handle -> Prop} {gone : List Handle} {h value : Handle}

theorem Hides.extend (hides : s.Hides r gone) (hextends : s.Extends r s' r') :
    s'.Hides r' gone := by
  constructor
  · exact hextends.region
  · intro v hv
    exact Nat.lt_of_lt_of_le (hides.old v hv) hextends.size_le
  · intro v hv hmem
    rcases hextends.fresh v hmem with hold | hnew
    · exact hides.outside v hv hold
    · exact Nat.not_lt.mpr hnew (hides.old v hv)

theorem Hides.not_mem (hides : s.Hides r gone) (hmem : r h) : h ∉ gone :=
  fun hgone => hides.outside h hgone hmem

theorem Hides.node (hides : s.Hides r gone) (hmem : r h) :
    (s.blank gone).node h = s.node h :=
  node_blank_of_not_mem (hides.not_mem hmem)

theorem Hides.children (hides : s.Hides r gone) (hmem : r h) :
    (s.blank gone).children h = s.children h := by
  rw [Store.children, hides.node hmem, Store.children]

theorem Hides.alloc (hides : s.Hides r gone) (n : Node) :
    (s.blank gone).alloc n = blanked gone (s.alloc n) :=
  alloc_blank (fun hgone => Nat.lt_irrefl _ (hides.old _ hgone)) n

theorem Hides.write (hides : s.Hides r gone) (hmem : r h) (n : Node) :
    (s.blank gone).write h n = (s.write h n).blank gone :=
  write_blank (hides.not_mem hmem) n

/-!
### New nodes
-/

mutual

theorem Hides.thaw :
    forall {s : Store} {r : Handle -> Prop}, s.Hides r gone -> forall t : Tree,
      (s.blank gone).thaw t = blanked gone (s.thaw t)
  | _, _, hides, Tree.null => hides.alloc _
  | _, _, hides, Tree.bool _ => hides.alloc _
  | _, _, hides, Tree.integer _ => hides.alloc _
  | _, _, hides, Tree.float _ => hides.alloc _
  | _, _, hides, Tree.string _ => hides.alloc _
  | _, _, hides, Tree.bytes _ => hides.alloc _
  | _, _, hides, Tree.array items => by
      rcases hides.region.thawItems items with ⟨r', hitems, -⟩
      have hsame := Hides.thawItems hides items
      rw [Store.thaw, hsame]
      exact (hides.extend hitems).alloc _
  | _, _, hides, Tree.map entries => by
      rcases hides.region.thawEntries entries with ⟨r', hentries, -⟩
      have hsame := Hides.thawEntries hides entries
      rw [Store.thaw, hsame]
      exact (hides.extend hentries).alloc _

theorem Hides.thawItems :
    forall {s : Store} {r : Handle -> Prop}, s.Hides r gone -> forall items : List Tree,
      (s.blank gone).thawItems items = blanked gone (s.thawItems items)
  | _, _, _, [] => rfl
  | _, _, hides, t :: rest => by
      rcases hides.region.thaw t with ⟨r', hfirst, -⟩
      have hrest := Hides.thawItems (hides.extend hfirst) rest
      rw [thawItems_cons, thawItems_cons, Hides.thaw hides t]
      simp only [blanked]
      rw [hrest]
      rfl

theorem Hides.thawEntries :
    forall {s : Store} {r : Handle -> Prop}, s.Hides r gone ->
      forall entries : List (String × Tree),
        (s.blank gone).thawEntries entries = blanked gone (s.thawEntries entries)
  | _, _, _, [] => rfl
  | _, _, hides, (k, t) :: rest => by
      rcases hides.region.thaw t with ⟨r', hfirst, -⟩
      have hrest := Hides.thawEntries (hides.extend hfirst) rest
      rw [thawEntries_cons, thawEntries_cons, Hides.thaw hides t]
      simp only [blanked]
      rw [hrest]
      rfl

end

theorem Hides.allocNulls (hides : s.Hides r gone) (count : Nat) :
    Store.allocNulls count (s.blank gone) = blanked gone (Store.allocNulls count s) := by
  induction count generalizing s r with
  | zero => rfl
  | succ count ih =>
      have hextends := hides.region.alloc (n := Node.null) fun _ hmem => by cases hmem
      have hrest := ih (hides.extend hextends)
      have hfirst := hides.alloc Node.null
      simp only [Store.allocNulls, hfirst, blanked] at hrest ⊢
      rw [hrest]

/-!
### Reading
-/

theorem Hides.get (hides : s.Hides r gone) (hmem : r h) (key : Key) :
    (s.blank gone).get h key = blanked gone (s.get h key) := by
  have hnull : (s.blank gone).detachedNull = blanked gone s.detachedNull := by
    rw [detachedNull, hides.alloc]
    rfl
  unfold Store.get
  rw [hides.node hmem]
  cases s.node h with
  | null => exact hnull
  | map entries =>
      dsimp only
      cases Entries.get? entries key.fieldName with
      | none => exact hnull
      | some child => rfl
  | array items =>
      cases key with
      | field name => rfl
      | index position =>
          dsimp only
          cases items[position]? with
          | none => exact hnull
          | some child => rfl
  | _ => rfl

theorem Hides.getKeys (hides : s.Hides r gone) (hmem : r h) (keys : List Key) :
    (s.blank gone).getKeys h keys = blanked gone (s.getKeys h keys) := by
  induction keys generalizing s r h with
  | nil => rfl
  | cons key rest ih =>
      rcases hides.region.get hmem key with ⟨r', hextends, hout⟩
      rw [Store.getKeys, Store.getKeys, hides.get hmem]
      rcases hget : s.get h key with ⟨error | child, s'⟩
      · rfl
      · rw [hget] at hextends hout
        exact ih (hides.extend hextends) (hout child (List.mem_singleton.mpr rfl))

theorem Hides.freezeWith (hides : s.Hides r gone) (n : Nat) (hmem : r h) :
    (s.blank gone).freezeWith n h = s.freezeWith n h := by
  induction n generalizing h with
  | zero => rfl
  | succ n ih =>
      rw [freezeWith_succ, freezeWith_succ, hides.node hmem]
      exact freezeNode_congr fun child hchild => ih (hides.region.closed h child hmem hchild)

theorem Hides.freeze (hides : s.Hides r gone) (hmem : r h) :
    (s.blank gone).freeze h = s.freeze h := by
  rw [Store.freeze, size_blank, hides.freezeWith s.size hmem, Store.freeze]

theorem Hides.reachesWith (hides : s.Hides r gone) (n : Nat) (hmem : r h) (target : Handle) :
    (s.blank gone).reachesWith n h target = s.reachesWith n h target := by
  induction n generalizing h with
  | zero => rfl
  | succ n ih =>
      have hbelow : ((s.children h).any fun child => (s.blank gone).reachesWith n child target) =
          (s.children h).any fun child => s.reachesWith n child target := by
        rw [Bool.eq_iff_iff, List.any_eq_true, List.any_eq_true]
        refine exists_congr fun child => and_congr_right fun hchild => ?_
        rw [ih (hides.region.closed h child hmem hchild)]
      rw [Store.reachesWith, Store.reachesWith, hides.children hmem, hbelow]

theorem Hides.reaches (hides : s.Hides r gone) (hmem : r h) (target : Handle) :
    (s.blank gone).reaches h target = s.reaches h target := by
  rw [Store.reaches, size_blank, hides.reachesWith s.size hmem, Store.reaches]

theorem Hides.equalWith (hides : s.Hides r gone) (n : Nat) (hmem : r h) (hvalue : r value) :
    (s.blank gone).equalWith n h value = s.equalWith n h value := by
  induction n generalizing h value with
  | zero => rfl
  | succ n ih =>
      rw [equalWith_succ, equalWith_succ, hides.node hmem, hides.node hvalue]
      congr 1
      exact equalNodes_congr fun c hc d hd =>
        ih (hides.region.closed h c hmem hc) (hides.region.closed value d hvalue hd)

theorem Hides.equal (hides : s.Hides r gone) (hmem : r h) (hvalue : r value) :
    (s.blank gone).equal h value = s.equal h value := by
  rw [Store.equal, size_blank, hides.equalWith s.size hmem hvalue, Store.equal]

theorem Hides.read (hides : s.Hides r gone) (hmem : r h) (type : ReadType) :
    (s.blank gone).read h type = s.read h type := by
  induction type with
  | tree => rw [Store.read, Store.read, hides.freeze hmem]
  | option type ih => rw [Store.read, Store.read, hides.node hmem, ih]
  | _ => rw [Store.read, Store.read, hides.node hmem]

theorem Hides.readExact? (hides : s.Hides r gone) (hmem : r h) (type : ReadType) :
    (s.blank gone).readExact? h type = s.readExact? h type := by
  induction type with
  | tree => rw [Store.readExact?, Store.readExact?, hides.freeze hmem]
  | option type ih => rw [Store.readExact?, Store.readExact?, hides.node hmem, ih]
  | _ => rw [Store.readExact?, Store.readExact?, hides.node hmem]

theorem Hides.deepClone (hides : s.Hides r gone) (hs : s.Sound) (hmem : r h) :
    (s.blank gone).deepClone h = blanked gone (s.deepClone h) := by
  have hsize := hides.region.valid h hmem
  rw [hs.deepClone_eq_thaw hsize, (hs.blank gone).deepClone_eq_thaw (by rwa [size_blank]),
    hides.freeze hmem, hides.thaw]

/-!
### Making places
-/

theorem Hides.placeField (hides : s.Hides r gone) (hmem : r h) (entries : Entries Handle)
    (name : String) :
    (s.blank gone).placeField h entries name = blanked gone (s.placeField h entries name) := by
  unfold Store.placeField
  cases Entries.get? entries name with
  | some child => rfl
  | none =>
      have hextends := hides.region.alloc (n := Node.null) fun _ hin => by cases hin
      have hwrite := (hides.extend hextends).write (Or.inl hmem)
        (Node.map (Entries.insert entries name s.size))
      rw [hides.alloc]
      exact Prod.ext rfl hwrite

theorem Hides.placePosition (hides : s.Hides r gone) (hmem : r h) (items : List Handle)
    (position : Nat) :
    (s.blank gone).placePosition h items position =
      blanked gone (s.placePosition h items position) := by
  unfold Store.placePosition
  cases items[position]? with
  | some child => rfl
  | none =>
      by_cases hgap : withinGap items.length position = true
      · rcases hides.region.allocNulls (position - items.length) with ⟨r', hpadding, -⟩
        have hnulls := hides.allocNulls (position - items.length)
        rcases hpad : Store.allocNulls (position - items.length) s with ⟨padding, s'⟩
        rw [hpad] at hpadding hnulls
        have hides' := hides.extend hpadding
        have hextends := hides'.region.alloc (n := Node.null) fun _ hin => by cases hin
        have hwrite := (hides'.extend hextends).write (Or.inl (hpadding.mono h hmem))
          (Node.array (items ++ padding ++ [s'.size]))
        simp only [if_pos hgap, hnulls, blanked, hides'.alloc]
        exact Prod.ext rfl hwrite
      · simp only [if_neg hgap]
        rfl

theorem Hides.place (hides : s.Hides r gone) (hmem : r h) (key : Key) :
    (s.blank gone).place h key = blanked gone (s.place h key) := by
  unfold Store.place
  rw [hides.node hmem]
  cases s.node h with
  | null =>
      cases key with
      | field name => exact hides.placeField hmem [] name
      | index position => exact hides.placePosition hmem [] position
  | map entries => exact hides.placeField hmem entries key.fieldName
  | array items =>
      cases key with
      | field name => rfl
      | index position => exact hides.placePosition hmem items position
  | _ => rfl

theorem Hides.placeKeys (hides : s.Hides r gone) (hmem : r h) (keys : List Key) :
    (s.blank gone).placeKeys h keys = blanked gone (s.placeKeys h keys) := by
  induction keys generalizing s r h with
  | nil => rfl
  | cons key rest ih =>
      rcases hides.region.place hmem key with ⟨r', hextends, hout⟩
      rw [Store.placeKeys, Store.placeKeys, hides.place hmem]
      rcases hplace : s.place h key with ⟨error | child, s'⟩
      · rfl
      · rw [hplace] at hextends hout
        exact ih (hides.extend hextends) (hout child (List.mem_singleton.mpr rfl))

/-!
### Writing
-/

theorem Hides.set (hides : s.Hides r gone) (hmem : r h) (hvalue : r value) :
    (s.blank gone).set h value = blanked gone (s.set h value) := by
  unfold Store.set
  rw [hides.reaches hvalue, hides.node hvalue, hides.write hmem]
  split
  · rfl
  · split <;> rfl

theorem Hides.setPath (hides : s.Hides r gone) (hmem : r h) (hvalue : r value) (path : Path) :
    (s.blank gone).setPath h path value = blanked gone (s.setPath h path value) := by
  rcases hides.region.placeKeys hmem path.keys with ⟨r', hextends, hout⟩
  unfold Store.setPath Store.placePath
  rw [hides.placeKeys hmem]
  rcases hplace : s.placeKeys h path.keys with ⟨error | target, s'⟩
  · rfl
  · rw [hplace] at hextends hout
    exact (hides.extend hextends).set (hout target (List.mem_singleton.mpr rfl))
      (hextends.mono value hvalue)

theorem Hides.insert (hides : s.Hides r gone) (hmem : r h) (hvalue : r value) (name : String) :
    (s.blank gone).insert h name value = blanked gone (s.insert h name value) := by
  unfold Store.insert
  rw [hides.reaches hvalue, hides.node hmem]
  split
  · rfl
  · cases s.node h with
    | null => exact Prod.ext rfl (hides.write hmem _)
    | map entries => exact Prod.ext rfl (hides.write hmem _)
    | _ => rfl

theorem Hides.push (hides : s.Hides r gone) (hmem : r h) (hvalue : r value) :
    (s.blank gone).push h value = blanked gone (s.push h value) := by
  unfold Store.push
  rw [hides.reaches hvalue, hides.node hmem]
  split
  · rfl
  · cases s.node h with
    | null => exact Prod.ext rfl (hides.write hmem _)
    | array items => exact Prod.ext rfl (hides.write hmem _)
    | _ => rfl

theorem Hides.remove (hides : s.Hides r gone) (hmem : r h) (key : Key) :
    (s.blank gone).remove h key = blanked gone (s.remove h key) := by
  unfold Store.remove
  rw [hides.node hmem]
  cases s.node h with
  | map entries => exact Prod.ext rfl (hides.write hmem _)
  | array items =>
      cases key with
      | field name => rfl
      | index position => exact Prod.ext rfl (hides.write hmem _)
  | _ => rfl

end Hiding

namespace Call

variable {s : Store} {r : Handle -> Prop} {gone : List Handle}

theorem answering_blanked {α : Type} (answer : α -> Answer) (outcome : Outcome α) :
    answering answer (blanked gone outcome) = blanked gone (answering answer outcome) := by
  rcases outcome with ⟨error | a, s⟩ <;> rfl

/-- A call answers the same, and does the same, whatever stands in nodes out of its sight. -/
theorem run_blank (hs : s.Sound) (hides : s.Hides r gone) {c : Call}
    (hall : forall h : Handle, h ∈ c.arguments -> r h) :
    c.run (s.blank gone) = blanked gone (c.run s) := by
  cases c with
  | leaf n =>
      rw [run, hides.alloc]
      rfl
  | ofItems items =>
      rw [run, Store.ofItems, hides.alloc]
      rfl
  | ofPairs pairs =>
      rw [run, Store.ofPairs, hides.alloc]
      rfl
  | thaw t =>
      rw [run, hides.thaw]
      rfl
  | deepClone h =>
      rw [run, hides.deepClone hs (of_first hall rfl)]
      rfl
  | look h =>
      rw [run, hides.node (of_first hall rfl)]
      rfl
  | freeze h =>
      rw [run, hides.freeze (of_first hall rfl)]
      rfl
  | equal h other =>
      rw [run, hides.equal (of_first hall rfl) (of_second hall rfl)]
      rfl
  | read h type =>
      rw [run, hides.read (of_first hall rfl)]
      rfl
  | readExact h type =>
      rw [run, hides.readExact? (of_first hall rfl)]
      rfl
  | get h key => rw [run, hides.get (of_first hall rfl), answering_blanked, run]
  | getPath h path =>
      rw [run, Store.getPath, hides.getKeys (of_first hall rfl), answering_blanked, run,
        Store.getPath]
  | place h key => rw [run, hides.place (of_first hall rfl), answering_blanked, run]
  | placePath h path =>
      rw [run, Store.placePath, hides.placeKeys (of_first hall rfl), answering_blanked, run,
        Store.placePath]
  | set h value =>
      rw [run, hides.set (of_first hall rfl) (of_second hall rfl), answering_blanked, run]
  | setPath h path value =>
      rw [run, hides.setPath (of_first hall rfl) (of_second hall rfl), answering_blanked, run]
  | insert h name value =>
      rw [run, hides.insert (of_first hall rfl) (of_second hall rfl), answering_blanked, run]
  | push h value =>
      rw [run, hides.push (of_first hall rfl) (of_second hall rfl), answering_blanked, run]
  | remove h key => rw [run, hides.remove (of_first hall rfl), answering_blanked, run]

end Call

end Store
end Troupe
