import Troupe.Proofs.Store.Walks

/-!
# Nodes that are alike

One level of a comparison.  Two nodes are alike, as far as their children are related, if
they agree apart from the children and each key names related children in both of them or in
neither.  Keys are looked up, so the order of entries has no part in it.

The only leaf that is not alike to itself is a not-a-number.
-/

namespace Troupe

open Number

namespace Number
namespace Binary64

variable {x y z : Binary64}

theorem equal_iff :
    x.equal y = true <->
      x.isNaN = false ∧ y.isNaN = false ∧ (x = y ∨ (x.magnitude = 0 ∧ y.magnitude = 0)) := by
  have hbits : x.bits = y.bits <-> x = y := by
    cases x
    cases y
    simp
  simp only [equal, Bool.and_eq_true, Bool.or_eq_true, Bool.not_eq_true', beq_iff_eq, hbits,
    and_assoc]

theorem equal_symm (h : x.equal y = true) : y.equal x = true := by
  rcases equal_iff.mp h with ⟨hx, hy, heq | ⟨hzero, hzero'⟩⟩
  · exact equal_iff.mpr ⟨hy, hx, Or.inl heq.symm⟩
  · exact equal_iff.mpr ⟨hy, hx, Or.inr ⟨hzero', hzero⟩⟩

theorem equal_trans (h : x.equal y = true) (h' : y.equal z = true) : x.equal z = true := by
  rcases equal_iff.mp h with ⟨hx, -, rfl | ⟨hzero, hzero'⟩⟩
  · exact h'
  · rcases equal_iff.mp h' with ⟨-, hz, rfl | ⟨-, hzero''⟩⟩
    · exact h
    · exact equal_iff.mpr ⟨hx, hz, Or.inr ⟨hzero, hzero''⟩⟩

theorem equal_self_iff : x.equal x = true <-> x.isNaN = false := by
  rw [equal_iff]
  exact ⟨fun h => h.left, fun h => ⟨h, h, Or.inl rfl⟩⟩

end Binary64
end Number

/-!
## Nodes
-/

namespace Node

inductive Agrees : Node -> Node -> Prop where
  | null : Agrees null null
  | bool (b : Bool) : Agrees (bool b) (bool b)
  | integer (i : Int64) : Agrees (integer i) (integer i)
  | float {x y : Binary64} : x.equal y = true -> Agrees (float x) (float y)
  | string (t : String) : Agrees (string t) (string t)
  | bytes (b : List UInt8) : Agrees (bytes b) (bytes b)
  | map (es fs : Entries Handle) : Agrees (map es) (map fs)
  | array (xs ys : List Handle) : Agrees (array xs) (array ys)

def IsNaN : Node -> Prop
  | float x => x.isNaN = true
  | _ => False

theorem Agrees.symm {n m : Node} (h : n.Agrees m) : m.Agrees n := by
  cases h with
  | float hequal => exact Agrees.float (Binary64.equal_symm hequal)
  | map es fs => exact Agrees.map fs es
  | array xs ys => exact Agrees.array ys xs
  | _ => constructor

theorem Agrees.trans {n m l : Node} (h : n.Agrees m) (h' : m.Agrees l) : n.Agrees l := by
  cases h with
  | float hequal =>
      cases h' with
      | float hequal' => exact Agrees.float (Binary64.equal_trans hequal hequal')
  | map es fs =>
      cases h' with
      | map _ gs => exact Agrees.map es gs
  | array xs ys =>
      cases h' with
      | array _ zs => exact Agrees.array xs zs
  | _ => exact h'

theorem agrees_self_iff {n : Node} : n.Agrees n <-> ¬ n.IsNaN := by
  cases n with
  | float x =>
      rw [IsNaN, Bool.not_eq_true, ← Binary64.equal_self_iff]
      constructor
      · rintro ⟨⟩
        assumption
      · exact Agrees.float
  | _ => exact iff_of_true (by constructor) not_false

theorem exists_child?_of_mem {n : Node} (hkeys : n.UniqueKeys) {c : Handle}
    (hmem : c ∈ n.children) : exists key : Key, n.child? key = some c := by
  cases n with
  | map entries =>
      rcases List.mem_map.mp hmem with ⟨entry, hentry, rfl⟩
      exact ⟨Key.field entry.1, Entries.get?_of_mem hkeys hentry⟩
  | array items =>
      rcases List.getElem?_of_mem hmem with ⟨i, hi⟩
      exact ⟨Key.index i, hi⟩
  | _ => cases hmem

/-- One level of a comparison, relative to how it goes on at the children. -/
structure Alike (R : Handle -> Handle -> Prop) (n m : Node) : Prop where
  contents : n.Agrees m
  present : forall key : Key, (n.child? key).isSome = (m.child? key).isSome
  related : forall (key : Key) (c d : Handle),
    n.child? key = some c -> m.child? key = some d -> R c d

section Levels

variable {R R' : Handle -> Handle -> Prop} {n m l : Node}

theorem Alike.mono (h : n.Alike R m)
    (hchildren : forall c d : Handle, c ∈ n.children -> d ∈ m.children -> R c d -> R' c d) :
    n.Alike R' m := by
  constructor
  · exact h.contents
  · exact h.present
  · intro key c d hc hd
    exact hchildren c d (mem_children_of_child? hc) (mem_children_of_child? hd)
      (h.related key c d hc hd)

theorem Alike.symm (h : n.Alike R m) : m.Alike (fun d c => R c d) n := by
  constructor
  · exact h.contents.symm
  · exact fun key => (h.present key).symm
  · exact fun key d c hd hc => h.related key c d hc hd

theorem Alike.trans (h : n.Alike R m) (h' : m.Alike R' l) :
    n.Alike (fun c e => exists d : Handle, d ∈ m.children ∧ R c d ∧ R' d e) l := by
  constructor
  · exact h.contents.trans h'.contents
  · exact fun key => (h.present key).trans (h'.present key)
  · intro key c e hc he
    have hsome : (m.child? key).isSome = true := by
      rw [← h.present key, hc]
      rfl
    rcases Option.isSome_iff_exists.mp hsome with ⟨d, hd⟩
    exact ⟨d, mem_children_of_child? hd, h.related key c d hc hd, h'.related key d e hd he⟩

theorem alike_self_iff (hkeys : n.UniqueKeys) :
    n.Alike R n <-> ¬ n.IsNaN ∧ forall c : Handle, c ∈ n.children -> R c c := by
  constructor
  · intro h
    refine ⟨agrees_self_iff.mp h.contents, fun c hmem => ?_⟩
    rcases exists_child?_of_mem hkeys hmem with ⟨key, hchild⟩
    exact h.related key c c hchild hchild
  · rintro ⟨hnumber, hchildren⟩
    constructor
    · exact agrees_self_iff.mpr hnumber
    · exact fun _ => rfl
    · intro key c d hc hd
      cases hc.symm.trans hd
      exact hchildren c (mem_children_of_child? hc)

end Levels

/-!
## Order of entries
-/

inductive Reordered : Node -> Node -> Prop where
  | same (n : Node) : Reordered n n
  | entries {es fs : Entries Handle} : es.Perm fs -> Reordered (map es) (map fs)

section Reordering

variable {R : Handle -> Handle -> Prop} {n n' m m' : Node}

theorem Reordered.symm (h : n.Reordered n') : n'.Reordered n := by
  cases h with
  | same => exact Reordered.same n
  | entries hperm => exact Reordered.entries hperm.symm

theorem Reordered.mem_children_iff (h : n.Reordered n') (c : Handle) :
    c ∈ n'.children <-> c ∈ n.children := by
  cases h with
  | same => exact Iff.rfl
  | entries hperm => exact (hperm.map Prod.snd).mem_iff.symm

theorem Reordered.uniqueKeys (h : n.Reordered n') (hkeys : n.UniqueKeys) : n'.UniqueKeys := by
  cases h with
  | same => exact hkeys
  | entries hperm => exact (hperm.map Prod.fst).nodup hkeys

theorem Reordered.alike_left (h : n.Reordered n') (hkeys : n.UniqueKeys)
    (halike : n.Alike R m) : n'.Alike R m := by
  cases h with
  | same => exact halike
  | @entries es fs hperm =>
      have hchild : forall key : Key, (map fs).child? key = (map es).child? key :=
        fun key => Entries.get?_perm hkeys hperm key.fieldName
      constructor
      · exact (Agrees.map fs es).trans halike.contents
      · intro key
        rw [hchild]
        exact halike.present key
      · intro key
        rw [hchild]
        exact halike.related key

theorem Reordered.alike (hn : n.Reordered n') (hm : m.Reordered m') (hkeys : n.UniqueKeys)
    (hkeys' : m.UniqueKeys) (halike : n.Alike R m) : n'.Alike R m' :=
  (hm.alike_left hkeys' (hn.alike_left hkeys halike).symm).symm

end Reordering

/-!
## The computed comparison
-/

section Computed

variable {R : Handle -> Handle -> Prop} {eq : Handle -> Handle -> Bool}

theorem equalItems_iff {xs ys : List Handle} :
    Store.equalItems eq xs ys = true <->
      forall i : Nat, xs[i]?.isSome = ys[i]?.isSome ∧
        forall x y : Handle, xs[i]? = some x -> ys[i]? = some y -> eq x y = true := by
  induction xs generalizing ys with
  | nil =>
      cases ys with
      | nil => simp [Store.equalItems]
      | cons y ys =>
          exact iff_of_false Bool.false_ne_true fun h => Bool.false_ne_true (h 0).left
  | cons x xs ih =>
      cases ys with
      | nil =>
          exact iff_of_false Bool.false_ne_true fun h => Bool.false_ne_true (h 0).left.symm
      | cons y ys =>
          rw [Store.equalItems, Bool.and_eq_true, ih]
          constructor
          · rintro ⟨hfirst, hrest⟩ i
            cases i with
            | zero =>
                refine ⟨rfl, fun x' y' hx hy => ?_⟩
                cases hx
                cases hy
                exact hfirst
            | succ i => exact hrest i
          · intro hall
            exact ⟨(hall 0).right x y rfl rfl, fun i => hall (i + 1)⟩

theorem equalEntries_iff {es fs : Entries Handle} (hes : Entries.Unique es)
    (hfs : Entries.Unique fs) :
    (es.length = fs.length ∧ Store.equalEntries eq es fs = true) <->
      forall name : String,
        (Entries.get? es name).isSome = (Entries.get? fs name).isSome ∧
          forall v w : Handle, Entries.get? es name = some v -> Entries.get? fs name = some w ->
            eq v w = true := by
  have hsize : forall entries : Entries Handle, (Entries.keys entries).length = entries.length :=
    fun _ => List.length_map ..
  rw [Store.equalEntries, List.all_eq_true]
  constructor
  · rintro ⟨hlength, hall⟩ name
    have hfound : forall {name : String} {v : Handle}, Entries.get? es name = some v ->
        exists w : Handle, Entries.get? fs name = some w ∧ eq v w = true := by
      intro name v hv
      exact (Option.any_eq_true ..).mp (hall (name, v) (Entries.mem_of_get? hv))
    have hsubset : Entries.keys es ⊆ Entries.keys fs := by
      intro name hmem
      rcases Option.isSome_iff_exists.mp (Entries.isSome_get?_iff.mpr hmem) with ⟨v, hv⟩
      rcases hfound hv with ⟨w, hw, -⟩
      exact List.mem_map_of_mem (Entries.mem_of_get? hw)
    have hperm : (Entries.keys es).Perm (Entries.keys fs) := by
      apply (List.Nodup.subperm hes hsubset).perm_of_length_le
      rw [hsize, hsize, hlength]
    refine ⟨?_, fun v w hv hw => ?_⟩
    · rw [Bool.eq_iff_iff, Entries.isSome_get?_iff, Entries.isSome_get?_iff, hperm.mem_iff]
    · rcases hfound hv with ⟨w', hw', hequal⟩
      cases hw.symm.trans hw'
      exact hequal
  · intro hall
    have hperm : (Entries.keys es).Perm (Entries.keys fs) := by
      apply (List.perm_ext_iff_of_nodup hes hfs).mpr
      intro name
      rw [← Entries.isSome_get?_iff, ← Entries.isSome_get?_iff, (hall name).left]
    refine ⟨?_, fun entry hentry => ?_⟩
    · rw [← hsize, ← hsize, hperm.length_eq]
    · have hv := Entries.get?_of_mem hes hentry
      have hsome : (Entries.get? fs entry.1).isSome = true := by
        rw [← (hall entry.1).left, hv]
        rfl
      rcases Option.isSome_iff_exists.mp hsome with ⟨w, hw⟩
      exact (Option.any_eq_true ..).mpr ⟨w, hw, (hall entry.1).right entry.2 w hv hw⟩

theorem alike_array_iff {xs ys : List Handle} :
    (array xs).Alike R (array ys) <->
      forall i : Nat, xs[i]?.isSome = ys[i]?.isSome ∧
        forall x y : Handle, xs[i]? = some x -> ys[i]? = some y -> R x y := by
  constructor
  · intro h i
    exact ⟨h.present (Key.index i), h.related (Key.index i)⟩
  · intro hall
    constructor
    · exact Agrees.array xs ys
    · intro key
      cases key with
      | field name => rfl
      | index i => exact (hall i).left
    · intro key c d hc hd
      cases key with
      | field name => cases hc
      | index i => exact (hall i).right c d hc hd

theorem alike_map_iff {es fs : Entries Handle} :
    (map es).Alike R (map fs) <->
      forall name : String,
        (Entries.get? es name).isSome = (Entries.get? fs name).isSome ∧
          forall v w : Handle, Entries.get? es name = some v -> Entries.get? fs name = some w ->
            R v w := by
  constructor
  · intro h name
    exact ⟨h.present (Key.field name), h.related (Key.field name)⟩
  · intro hall
    constructor
    · exact Agrees.map es fs
    · exact fun key => (hall key.fieldName).left
    · exact fun key => (hall key.fieldName).right

theorem agrees_of_equalNodes {n m : Node} (h : Store.equalNodes eq n m = true) :
    n.Agrees m := by
  unfold Store.equalNodes at h
  split at h
  · exact Agrees.null
  · next x y =>
      rw [beq_iff_eq.mp h]
      exact Agrees.bool y
  · next x y =>
      rw [beq_iff_eq.mp h]
      exact Agrees.integer y
  · exact Agrees.float h
  · next x y =>
      rw [beq_iff_eq.mp h]
      exact Agrees.string y
  · next x y =>
      rw [beq_iff_eq.mp h]
      exact Agrees.bytes y
  · next xs ys => exact Agrees.array xs ys
  · next es fs => exact Agrees.map es fs
  · cases h

theorem Agrees.alike_leaf {n m : Node} (h : n.Agrees m) (hleaf : n.children = [])
    (hleaf' : m.children = []) : n.Alike R m := by
  have hnone : forall {l : Node}, l.children = [] -> forall key : Key, l.child? key = none := by
    intro l hl key
    apply Option.eq_none_iff_forall_ne_some.mpr
    intro c hc
    have hmem := mem_children_of_child? hc
    rw [hl] at hmem
    cases hmem
  constructor
  · exact h
  · intro key
    rw [hnone hleaf, hnone hleaf']
  · intro key c d hc
    rw [hnone hleaf] at hc
    cases hc

theorem equalNodes_iff {n m : Node} (hn : n.UniqueKeys) (hm : m.UniqueKeys) :
    Store.equalNodes eq n m = true <-> n.Alike (fun a b => eq a b = true) m := by
  have hmaps : forall {es fs : Entries Handle}, Entries.Unique es -> Entries.Unique fs ->
      (Store.equalNodes eq (map es) (map fs) = true <->
        (map es).Alike (fun a b => eq a b = true) (map fs)) := by
    intro es fs hes hfs
    rw [alike_map_iff, ← equalEntries_iff hes hfs, Store.equalNodes, Bool.and_eq_true, beq_iff_eq]
  have harrays : forall {xs ys : List Handle},
      Store.equalNodes eq (array xs) (array ys) = true <->
        (array xs).Alike (fun a b => eq a b = true) (array ys) := by
    intro xs ys
    rw [alike_array_iff, ← equalItems_iff, Store.equalNodes]
  constructor
  · intro h
    cases agrees_of_equalNodes h with
    | map es fs => exact (hmaps hn hm).mp h
    | array xs ys => exact harrays.mp h
    | float hequal => exact (Agrees.float hequal).alike_leaf rfl rfl
    | _ => exact Agrees.alike_leaf (by constructor) rfl rfl
  · intro h
    cases h.contents with
    | map es fs => exact (hmaps hn hm).mpr h
    | array xs ys => exact harrays.mpr h
    | float hequal => exact hequal
    | null => rfl
    | _ => exact beq_self_eq_true _

end Computed

end Node

end Troupe
