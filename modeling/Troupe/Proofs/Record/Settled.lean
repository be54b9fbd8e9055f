import Mathlib.Data.String.Basic
import Troupe.Proofs.Wire.Documents

/-!
# Values that settle

A value with a JSON form that becomes a tree does so by way of its document, and a tree keeps
most of a document, but not all: a natural number beyond the signed range becomes a float.
A value is settled if it is read back from what the tree keeps.  A type settles if all values
are settled that can be read from trees at all, however odd the tree.

Here are the single values and the collections; a collection settles if its items do.
-/

namespace Troupe

open Number

/-!
## What trees keep
-/

namespace Tree

mutual

theorem toJson_norm : forall t : Tree, t.norm.toJson = t.toJson
  | null => rfl
  | bool _ => rfl
  | integer _ => rfl
  | string _ => rfl
  | bytes _ => rfl
  | float x => by
      by_cases hfinite : x.isFinite = true
      · rw [norm, if_pos hfinite]
      · rw [norm, if_neg hfinite, toJson, toJson, if_neg hfinite]
  | map es => congrArg Json.object (toJsonEntries_normEntries es)
  | array xs => congrArg Json.array (toJsonItems_normItems xs)

theorem toJsonEntries_normEntries :
    forall es : List (String × Tree), toJsonEntries (normEntries es) = toJsonEntries es
  | [] => rfl
  | (k, t) :: rest => by
      rw [normEntries, toJsonEntries, toJsonEntries, toJson_norm t,
        toJsonEntries_normEntries rest]

theorem toJsonItems_normItems :
    forall xs : List Tree, toJsonItems (normItems xs) = toJsonItems xs
  | [] => rfl
  | t :: rest => by
      rw [normItems, toJsonItems, toJsonItems, toJson_norm t, toJsonItems_normItems rest]

end

end Tree

namespace Json

def throughTree (v : Json) : Json :=
  v.toTree.toJson

theorem throughTree_array (items : List Json) :
    (array items).throughTree = array (items.map throughTree) := by
  have hitems (xs : List Json) : Tree.toJsonItems (toTreeItems xs) = xs.map throughTree := by
    induction xs with
    | nil => rfl
    | cons v rest ih => rw [toTreeItems, Tree.toJsonItems, ih, List.map_cons, throughTree]
  exact congrArg array (hitems items)

theorem throughTree_object (members : List (String × Json)) :
    (object members).throughTree =
      object (members.map fun member => (member.1, member.2.throughTree)) := by
  have hmembers (ms : List (String × Json)) : Tree.toJsonEntries (toTreeMembers ms) =
      ms.map fun member => (member.1, member.2.throughTree) := by
    induction ms with
    | nil => rfl
    | cons member rest ih =>
        rcases member with ⟨k, v⟩
        rw [toTreeMembers, Tree.toJsonEntries, ih, List.map_cons, throughTree]
  exact congrArg object (hmembers members)

theorem throughTree_bool (b : Bool) : (bool b).throughTree = bool b := rfl

theorem throughTree_string (s : String) : (string s).throughTree = string s := rfl

theorem throughTree_natural {n : UInt64} (h : n.toNat < 2 ^ 63) :
    (number (JsonNumber.natural n)).throughTree = number (JsonNumber.natural n) := by
  have hlow : n.toNat < 0x8000000000000000 := h
  rw [throughTree, toTree, JsonNumber.toTree, if_pos hlow]
  exact ofInt64_toInt64 hlow

theorem throughTree_natural_of_le {n : UInt64} (h : 2 ^ 63 ≤ n.toNat) :
    (number (JsonNumber.natural n)).throughTree =
      number (JsonNumber.real (Binary64.ofInt n.toNat)) := by
  have hhigh : ¬ n.toNat < 0x8000000000000000 := Nat.not_lt.mpr h
  have hfinite : (Binary64.ofInt n.toNat).isFinite = true :=
    Binary64.isFinite_ofInt n.toNat_lt
  rw [throughTree, toTree, JsonNumber.toTree, if_neg hhigh, Tree.toJson, if_pos hfinite]

theorem throughTree_ofNat {n : Nat} (h : n < 2 ^ 63) : (ofNat n).throughTree = ofNat n := by
  have hnat : (UInt64.ofNat n).toNat = n := UInt64.toNat_ofNat_of_lt' (h.trans (by decide))
  exact throughTree_natural (by rwa [hnat])

theorem throughTree_ofInt64 (i : Int64) : (ofInt64 i).throughTree = ofInt64 i := by
  rw [throughTree, Tree.toTree_ofInt64, Tree.toJson]

theorem throughTree_real {x : Binary64} (hfinite : x.isFinite = true) :
    (number (JsonNumber.real x)).throughTree = number (JsonNumber.real x) :=
  if_pos hfinite

/-- The document is that of a tree which repeats no key. -/
structure FromTree (v : Json) : Prop where
  kept : v.throughTree = v
  valid : v.Valid

theorem fromTree_toJson {t : Tree} (hunique : t.UniqueKeys) : t.toJson.FromTree := by
  refine ⟨?_, Tree.valid_toJson hunique⟩
  rw [throughTree, Tree.toTree_toJson, Tree.toJson_norm]

theorem validItems_iff {items : List Json} :
    ValidItems items <-> forall v : Json, v ∈ items -> v.Valid := by
  induction items with
  | nil => exact iff_of_true trivial nofun
  | cons v rest ih => rw [ValidItems, ih, List.forall_mem_cons]

theorem validMembers_iff {members : List (String × Json)} :
    ValidMembers members <-> forall member : String × Json, member ∈ members -> member.2.Valid := by
  induction members with
  | nil => exact iff_of_true trivial nofun
  | cons member rest ih => rw [ValidMembers, ih, List.forall_mem_cons]

theorem FromTree.items {items : List Json} (h : (array items).FromTree) {v : Json}
    (hmem : v ∈ items) : v.FromTree := by
  have hkept := h.kept
  rw [throughTree_array, array.injEq] at hkept
  have hsame := List.map_inj_left.mp (hkept.trans (List.map_id items).symm) v hmem
  exact ⟨hsame, validItems_iff.mp h.valid v hmem⟩

theorem FromTree.members {members : List (String × Json)} (h : (object members).FromTree)
    {member : String × Json} (hmem : member ∈ members) : member.2.FromTree := by
  have hkept := h.kept
  rw [throughTree_object, object.injEq] at hkept
  have hsame := List.map_inj_left.mp (hkept.trans (List.map_id members).symm) member hmem
  exact ⟨congrArg Prod.snd hsame, validMembers_iff.mp h.valid.right member hmem⟩

end Json

/-!
## Settled values
-/

namespace JsonForm

variable {α : Type} [JsonForm α]

/-- The value is read back from what a tree keeps of its document, and its document repeats
no key. -/
structure Settled (a : α) : Prop where
  read_back : read (write a).throughTree = .ok a
  valid : (write a).Valid

class Settling (α : Type) [JsonForm α] : Prop where
  settled : forall {v : Json} {a : α}, v.FromTree -> read v = .ok a -> Settled a

theorem ofTree_eq_ok_iff {t : Tree} {a : α} :
    ofTree t = .ok a <-> (read t.toJson : Except ShapeError α) = .ok a := by
  unfold ofTree
  cases (read t.toJson : Except ShapeError α) <;> simp

theorem exists_ofTree_error {t : Tree} (h : forall a : α, read t.toJson ≠ .ok a) :
    exists error : ShapeError,
      (ofTree t : Except CodecError α) =
        .error (CodecError.decode Format.json (DecodeFault.shape error)) := by
  unfold ofTree
  cases hread : (read t.toJson : Except ShapeError α) with
  | error error => exact ⟨error, rfl⟩
  | ok a => exact absurd hread (h a)

theorem Settled.of_kept {a : α} (hkept : (write a).throughTree = write a)
    (hread : read (write a) = .ok a) (hvalid : (write a).Valid) : Settled a :=
  ⟨hkept.symm ▸ hread, hvalid⟩

instance : Settling Bool where
  settled {_ b} _ _ := Settled.of_kept (Json.throughTree_bool b) rfl trivial

instance : Settling String where
  settled {_ s} _ _ := Settled.of_kept (Json.throughTree_string s) rfl trivial

instance : Settling Json where
  settled hfrom hread := by
    cases hread
    exact Settled.of_kept hfrom.kept rfl hfrom.valid

/-!
### Integers
-/

theorem integer?_ofInt64 (i : Int64) : integer? (Json.ofInt64 i) = some i.toInt := by
  unfold Json.ofInt64
  by_cases hneg : i < 0
  · rw [if_pos hneg, integer?]
  · rw [if_neg hneg, integer?, Int64.toNat_toUInt64_of_le (Int64.not_lt.mp hneg)]
    rw [Int64.toNatClampNeg, Int.toNat_of_nonneg]
    exact Int64.le_iff_toInt_le.mp (Int64.not_lt.mp hneg)

theorem integer?_ofNat {n : Nat} (h : n < 2 ^ 64) : integer? (Json.ofNat n) = some (n : Int) := by
  rw [Json.ofNat, integer?, UInt64.toNat_ofNat_of_lt' h]

theorem readInteger_eq_ok_iff {wanted : String} {low high i : Int} {v : Json} :
    readInteger wanted low high v = .ok i <-> integer? v = some i ∧ low ≤ i ∧ i ≤ high := by
  unfold readInteger
  cases hinteger : integer? v with
  | none => exact iff_of_false nofun nofun
  | some j =>
      by_cases hbounds : low ≤ j ∧ j ≤ high
      · simp only [if_pos hbounds, Except.ok.injEq, Option.some.injEq]
        constructor
        · rintro rfl
          exact ⟨rfl, hbounds⟩
        · intro h
          exact h.left
      · simp only [if_neg hbounds, Option.some.injEq]
        refine iff_of_false nofun ?_
        rintro ⟨rfl, hsome⟩
        exact hbounds hsome

/-- No integer in a tree lies beyond the signed range. -/
theorem integer?_fromTree {v : Json} (hfrom : v.FromTree) {i : Int}
    (hinteger : integer? v = some i) : i < 2 ^ 63 := by
  match v, hfrom with
  | Json.number (JsonNumber.natural n), hfrom =>
      cases hinteger
      by_contra hlarge
      have hkept := hfrom.kept
      rw [Json.throughTree_natural_of_le (by omega)] at hkept
      cases hkept
  | Json.number (JsonNumber.negative i), _ =>
      cases hinteger
      exact i.toInt_lt

theorem settled_int64 (i : Int64) : Settled i := by
  apply Settled.of_kept (Json.throughTree_ofInt64 i) _ (Tree.valid_ofInt64 i)
  have hread : readInteger "i64" (-0x8000000000000000) 0x7fffffffffffffff (Json.ofInt64 i) =
      .ok i.toInt :=
    readInteger_eq_ok_iff.mpr
      ⟨integer?_ofInt64 i, i.le_toInt, Int.le_of_lt_add_one i.toInt_lt⟩
  simp only [read, write, hread, Except.map, Int64.ofInt_toInt]

theorem settled_ofNat {a : α} {n : Nat} (hwrite : write a = Json.ofNat n) (hsmall : n < 2 ^ 63)
    (hread : forall v : Json, integer? v = some (n : Int) -> read v = .ok a) : Settled a := by
  apply Settled.of_kept
  · rw [hwrite]
    exact Json.throughTree_ofNat hsmall
  · rw [hwrite]
    exact hread _ (integer?_ofNat (hsmall.trans (by decide)))
  · rw [hwrite]
    trivial

theorem settled_uint8 (n : UInt8) : Settled n := by
  have hlt := n.toNat_lt
  apply settled_ofNat rfl (by omega)
  intro v hinteger
  have hread : readInteger "u8" 0 0xff v = .ok (n.toNat : Int) :=
    readInteger_eq_ok_iff.mpr ⟨hinteger, by omega, by omega⟩
  simp only [read, hread, Except.map, Int.toNat_natCast, UInt8.ofNat_toNat]

theorem settled_uint32 (n : UInt32) : Settled n := by
  have hlt := n.toNat_lt
  apply settled_ofNat rfl (by omega)
  intro v hinteger
  have hread : readInteger "u32" 0 0xffffffff v = .ok (n.toNat : Int) :=
    readInteger_eq_ok_iff.mpr ⟨hinteger, by omega, by omega⟩
  simp only [read, hread, Except.map, Int.toNat_natCast, UInt32.ofNat_toNat]

theorem readCount_lt {wanted : String} {v : Json} (hfrom : v.FromTree) {n : UInt64}
    (hread : readCount wanted v = .ok n) : n.toNat < 2 ^ 63 := by
  unfold readCount at hread
  cases hinteger : readInteger wanted 0 0xffffffffffffffff v with
  | error error =>
      rw [hinteger] at hread
      cases hread
  | ok i =>
      rw [hinteger] at hread
      cases hread
      rcases readInteger_eq_ok_iff.mp hinteger with ⟨hsome, hlow, hhigh⟩
      have hlt := integer?_fromTree hfrom hsome
      have hsize : i.toNat < 2 ^ 64 := by omega
      rw [UInt64.toNat_ofNat_of_lt' hsize]
      omega

/-- Counts pass through trees within the signed range.  Larger ones become floats, which are
no counts. -/
theorem readCount_throughTree_eq_ok_iff {wanted : String} {n m : UInt64} :
    readCount wanted (Json.number (JsonNumber.natural n)).throughTree = .ok m <->
      n.toNat < 2 ^ 63 ∧ n = m := by
  by_cases hsmall : n.toNat < 2 ^ 63
  · have hread : readInteger wanted 0 0xffffffffffffffff (Json.number (JsonNumber.natural n)) =
        .ok (n.toNat : Int) :=
      readInteger_eq_ok_iff.mpr ⟨rfl, by omega, by omega⟩
    rw [Json.throughTree_natural hsmall, readCount, hread, Except.map, Int.toNat_natCast,
      UInt64.ofNat_toNat, Except.ok.injEq]
    exact (and_iff_right hsmall).symm
  · rw [Json.throughTree_natural_of_le (Nat.not_lt.mp hsmall)]
    exact iff_of_false nofun fun h => hsmall h.left

instance : Settling UInt8 where
  settled {_ n} _ _ := settled_uint8 n

instance : Settling Int64 where
  settled {_ i} _ _ := settled_int64 i

instance : Settling UInt64 where
  settled hfrom hread :=
    ⟨readCount_throughTree_eq_ok_iff.mpr ⟨readCount_lt hfrom hread, rfl⟩, trivial⟩

/-!
### Floats
-/

theorem settled_binary64 {x : Binary64} (hfinite : x.isFinite = true) : Settled x := by
  have hwrite : write x = Json.number (JsonNumber.real x) := if_pos hfinite
  refine ⟨?_, ?_⟩
  · rw [hwrite, Json.throughTree_real hfinite]
    rfl
  · rw [hwrite]
    exact hfinite

theorem isFinite_of_read {v : Json} {x : Binary64} (hfrom : v.FromTree) (hread : read v = .ok x) :
    x.isFinite = true := by
  match v, hfrom with
  | Json.number (JsonNumber.real y), hfrom =>
      cases hread
      exact hfrom.valid
  | Json.number (JsonNumber.natural n), _ =>
      cases hread
      exact Binary64.isFinite_ofInt n.toNat_lt
  | Json.number (JsonNumber.negative i), _ =>
      cases hread
      have hlow := i.le_toInt
      have hhigh := i.toInt_lt
      exact Binary64.isFinite_ofInt (by omega)

instance : Settling Binary64 where
  settled hfrom hread := settled_binary64 (isFinite_of_read hfrom hread)

/-!
## Collections
-/

theorem read_option_eq_ok_iff {v : Json} (hnull : forall a : α, read Json.null ≠ .ok a) {a : α} :
    read v = .ok (some a) <-> read v = .ok a := by
  have hother (hv : v ≠ Json.null) :
      (read v : Except ShapeError (Option α)) = (read v).map some := by
    cases v with
    | null => exact absurd rfl hv
    | _ => rfl
  by_cases hv : v = Json.null
  · subst hv
    exact iff_of_false nofun (hnull a)
  · rw [hother hv]
    cases (read v : Except ShapeError α) with
    | error error => exact iff_of_false nofun nofun
    | ok b => simp [Except.map]

theorem settling_option [Settling α] (hnull : forall a : α, read Json.null ≠ .ok a) :
    Settling (Option α) := by
  constructor
  intro v o hfrom hread
  cases o with
  | none => exact Settled.of_kept rfl rfl trivial
  | some a =>
      have ha := Settling.settled hfrom ((read_option_eq_ok_iff hnull).mp hread)
      exact ⟨(read_option_eq_ok_iff hnull).mpr ha.read_back, ha.valid⟩

theorem readAll_cons_eq_ok_iff {v : Json} {rest : List Json} {all : List α} :
    readAll (v :: rest) = .ok all <->
      exists a : α, read v = .ok a ∧
        exists more : List α, readAll rest = .ok more ∧ a :: more = all := by
  simp only [readAll, bind_eq_ok_iff, pure, Except.pure, Except.ok.injEq]

theorem settled_of_readAll [Settling α] {items : List Json}
    (hfrom : forall v : Json, v ∈ items -> v.FromTree) {all : List α}
    (hread : readAll items = .ok all) {a : α} (hmem : a ∈ all) : Settled a := by
  induction items generalizing all with
  | nil =>
      cases hread
      cases hmem
  | cons v rest ih =>
      rcases readAll_cons_eq_ok_iff.mp hread with ⟨first, hfirst, more, hrest, rfl⟩
      rcases List.mem_cons.mp hmem with rfl | hmem
      · exact Settling.settled (hfrom v List.mem_cons_self) hfirst
      · exact ih (fun v hmem => hfrom v (List.mem_cons_of_mem _ hmem)) hrest hmem

theorem readAll_throughTree {all : List α} (hall : forall a : α, a ∈ all -> Settled a) :
    readAll (all.map fun a => (write a).throughTree) = .ok all := by
  induction all with
  | nil => rfl
  | cons a rest ih =>
      rw [List.forall_mem_cons] at hall
      exact readAll_cons_eq_ok_iff.mpr ⟨a, hall.left.read_back, rest, ih hall.right, rfl⟩

instance [Settling α] : Settling (List α) where
  settled {v all} hfrom hread := by
    cases v with
    | array items =>
        have hall (a : α) (hmem : a ∈ all) : Settled a :=
          settled_of_readAll (fun _ => hfrom.items) hread hmem
        constructor
        · simp only [write, Json.throughTree_array, List.map_map]
          exact readAll_throughTree hall
        · refine Json.validItems_iff.mpr fun v hmem => ?_
          rcases List.mem_map.mp hmem with ⟨a, ha, rfl⟩
          exact (hall a ha).valid
    | _ => cases hread

/-!
### Sorted maps
-/

namespace SortedMap

variable {β : Type} {entries : Entries β} {key : String} {value : β}

def Ascending (entries : Entries β) : Prop :=
  entries.Pairwise fun first second => first.1 < second.1

theorem Ascending.unique (h : Ascending entries) : Entries.Unique entries :=
  List.pairwise_map.mpr (h.imp fun hless => hless.ne)

theorem mem_insertSorted {entry : String × β} (hmem : entry ∈ insertSorted entries key value) :
    entry = (key, value) ∨ entry ∈ entries := by
  induction entries with
  | nil => exact Or.inl (List.mem_singleton.mp hmem)
  | cons first rest ih =>
      rcases first with ⟨k, v⟩
      rw [insertSorted] at hmem
      split at hmem
      · exact List.mem_cons.mp hmem
      · split at hmem
        · rcases List.mem_cons.mp hmem with hnew | hrest
          · exact Or.inl hnew
          · exact Or.inr (List.mem_cons_of_mem _ hrest)
        · rcases List.mem_cons.mp hmem with hfirst | hrest
          · exact Or.inr (hfirst ▸ List.mem_cons_self)
          · exact (ih hrest).imp_right (List.mem_cons_of_mem _)

theorem Ascending.insertSorted (h : Ascending entries) (key : String) (value : β) :
    Ascending (insertSorted entries key value) := by
  induction entries with
  | nil => exact List.pairwise_singleton _ _
  | cons first rest ih =>
      rcases first with ⟨k, v⟩
      rcases List.pairwise_cons.mp h with ⟨hfirst, hrest⟩
      rw [SortedMap.insertSorted]
      split
      · next hless =>
          refine List.pairwise_cons.mpr ⟨?_, h⟩
          rw [List.forall_mem_cons]
          exact ⟨hless, fun entry hmem => hless.trans (hfirst entry hmem)⟩
      · next hnotless =>
          split
          · next hsame =>
              subst hsame
              exact List.pairwise_cons.mpr ⟨hfirst, hrest⟩
          · next hother =>
              refine List.pairwise_cons.mpr ⟨fun entry hmem => ?_, ih hrest⟩
              rcases mem_insertSorted hmem with rfl | hmem
              · exact lt_of_le_of_ne (not_lt.mp hnotless) (Ne.symm hother)
              · exact hfirst entry hmem

theorem insertSorted_of_above
    (habove : forall entry : String × β, entry ∈ entries -> entry.1 < key) (value : β) :
    insertSorted entries key value = entries ++ [(key, value)] := by
  induction entries with
  | nil => rfl
  | cons first rest ih =>
      rcases first with ⟨k, v⟩
      rw [List.forall_mem_cons] at habove
      rw [insertSorted, if_neg (lt_asymm habove.left), if_neg habove.left.ne', ih habove.right,
        List.cons_append]

structure Settled (m : SortedMap α) : Prop where
  ascending : Ascending m.entries
  values : forall entry : String × α, entry ∈ m.entries -> JsonForm.Settled entry.2

theorem Settled.insert {m : SortedMap α} (h : m.Settled) (key : String) {value : α}
    (hvalue : JsonForm.Settled value) : (m.insert key value).Settled := by
  refine ⟨h.ascending.insertSorted key value, fun entry hmem => ?_⟩
  rcases mem_insertSorted hmem with rfl | hmem
  · exact hvalue
  · exact h.values entry hmem

theorem readMembers_cons_eq_ok_iff {m all : SortedMap α} {k : String} {v : Json}
    {rest : List (String × Json)} :
    readMembers m ((k, v) :: rest) = .ok all <->
      exists a : α, read v = .ok a ∧ readMembers (m.insert k a) rest = .ok all := by
  simp only [readMembers, bind_eq_ok_iff]

theorem settled_of_readMembers [Settling α] {members : List (String × Json)}
    (hfrom : forall member : String × Json, member ∈ members -> member.2.FromTree)
    {m all : SortedMap α} (hm : m.Settled) (hread : readMembers m members = .ok all) :
    all.Settled := by
  induction members generalizing m with
  | nil =>
      cases hread
      exact hm
  | cons member rest ih =>
      rcases readMembers_cons_eq_ok_iff.mp hread with ⟨a, ha, hrest⟩
      rw [List.forall_mem_cons] at hfrom
      exact ih hfrom.right (hm.insert _ (Settling.settled hfrom.left ha)) hrest

theorem readMembers_throughTree {before after : Entries α}
    (h : Settled { entries := before ++ after }) :
    readMembers { entries := before }
        (after.map fun entry => (entry.1, (write entry.2).throughTree)) =
      .ok { entries := before ++ after } := by
  induction after generalizing before with
  | nil => rw [List.append_nil]; rfl
  | cons entry rest ih =>
      rcases entry with ⟨k, a⟩
      have hvalue := h.values (k, a) (List.mem_append_right _ List.mem_cons_self)
      have habove (entry : String × α) (hmem : entry ∈ before) : entry.1 < k :=
        (List.pairwise_append.mp h.ascending).right.right entry hmem _ List.mem_cons_self
      rw [List.append_cons] at h ⊢
      refine readMembers_cons_eq_ok_iff.mpr ⟨a, hvalue.read_back, ?_⟩
      rw [insert, insertSorted_of_above habove]
      exact ih h

instance [Settling α] : Settling (SortedMap α) where
  settled {v m} hfrom hread := by
    cases v with
    | object members =>
        have hm : m.Settled :=
          settled_of_readMembers (fun _ => hfrom.members) ⟨List.Pairwise.nil, nofun⟩ hread
        constructor
        · have hentries : Settled { entries := [] ++ m.entries } := hm
          simp only [write, Json.throughTree_object, List.map_map]
          exact readMembers_throughTree hentries
        · refine ⟨?_, Json.validMembers_iff.mpr fun member hmem => ?_⟩
          · rw [Entries.Unique, Entries.keys, List.map_map]
            exact hm.ascending.unique
          · rcases List.mem_map.mp hmem with ⟨entry, hentry, rfl⟩
            exact (hm.values entry hentry).valid
    | _ => cases hread

end SortedMap

end JsonForm
end Troupe
