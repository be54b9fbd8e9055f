import Troupe.Proofs.Cbor.Readers

/-!
# The CBOR reader accepts the grammar

A reader with `levels` levels left succeeds exactly on the items of the grammar
whose containers nest at most that deep.  The induction is on the levels; the
loops over items and entries are run with what is known of the reader one level
down.
-/

namespace Troupe
namespace Cbor

open Number Cursor

def Accepts (levels : Nat) : Prop :=
  forall (c after : Cursor) (t : Tree),
    readItem levels c = .ok (t, after) <->
      exists bytes : List UInt8, Encodes t bytes ∧ t.depth ≤ levels ∧ c.Reads bytes after

/-!
## Loops
-/

theorem readItems_eq_ok_iff {levels count : Nat} {c after : Cursor} {items : List Tree}
    (haccepts : Accepts levels) :
    readItems (readItem levels) count c = .ok (items, after) <->
      items.length = count ∧
        exists body : List UInt8,
          EncodesItems items body ∧ Tree.depthItems items ≤ levels ∧ c.Reads body after := by
  induction count generalizing c items with
  | zero =>
      constructor
      · intro h
        cases h
        exact ⟨rfl, [], EncodesItems.nil, Nat.zero_le _, Reads.refl _⟩
      · rintro ⟨hlength, body, hbody, _, hreads⟩
        cases hbody with
        | nil => rw [hreads.eq_of_nil, readItems]
        | cons => simp at hlength
  | succ count ih =>
      rw [readItems, bind_eq_ok_iff]
      constructor
      · rintro ⟨⟨t, middle⟩, hitem, hmore⟩
        rcases bind_eq_ok_iff.mp hmore with ⟨⟨rest, c'⟩, hrest, hdone⟩
        cases hdone
        rcases (haccepts c middle t).mp hitem with ⟨item, hencodes, hdepth, hreads⟩
        rcases ih.mp hrest with ⟨rfl, body, hbody, hdepthRest, hreadsRest⟩
        exact ⟨rfl, item ++ body, EncodesItems.cons hencodes hbody,
          Nat.max_le.mpr ⟨hdepth, hdepthRest⟩, hreads.trans hreadsRest⟩
      · rintro ⟨hlength, body, hbody, hdepth, hreads⟩
        cases hbody with
        | nil => simp at hlength
        | cons hencodes hbody =>
            rcases Nat.max_le.mp hdepth with ⟨hdepthItem, hdepthRest⟩
            rcases hreads.split with ⟨middle, hreadsItem, hreadsRest⟩
            have hitem := (haccepts c middle _).mpr ⟨_, hencodes, hdepthItem, hreadsItem⟩
            have hrest := ih.mpr ⟨Nat.succ.inj hlength, _, hbody, hdepthRest, hreadsRest⟩
            exact ⟨_, hitem, bind_eq_ok_iff.mpr ⟨_, hrest, rfl⟩⟩

theorem readEntries_eq_ok_iff {levels count : Nat} {c after : Cursor}
    {known entries : Entries Tree} (haccepts : Accepts levels)
    (hknown : Entries.Unique known) :
    readEntries (readItem levels) count known c = .ok (entries, after) <->
      exists (added : Entries Tree) (body : List UInt8),
        entries = known ++ added ∧ added.length = count ∧ Entries.Unique entries ∧
          EncodesEntries added body ∧ Tree.depthEntries added ≤ levels ∧
          c.Reads body after := by
  induction count generalizing c known with
  | zero =>
      constructor
      · intro h
        cases h
        exact ⟨[], [], by simp, rfl, hknown, EncodesEntries.nil, Nat.zero_le _, Reads.refl _⟩
      · rintro ⟨added, body, rfl, hlength, _, hbody, _, hreads⟩
        cases hbody with
        | nil => rw [hreads.eq_of_nil, readEntries, List.append_nil]
        | cons => simp at hlength
  | succ count ih =>
      rw [readEntries, bind_eq_ok_iff]
      constructor
      · rintro ⟨⟨key, c1⟩, hkey, hmore⟩
        rcases bind_eq_ok_iff.mp hmore with ⟨⟨t, c2⟩, hitem, hrest⟩
        rcases readKey_eq_ok_iff.mp hkey with ⟨hfresh, head, hhead, hreadsKey⟩
        rcases (haccepts c1 c2 t).mp hitem with ⟨item, hencodes, hdepth, hreads⟩
        rcases (ih (hknown.insert key t)).mp hrest with
          ⟨added, body, hentries, rfl, hunique, hbody, hdepthRest, hreadsRest⟩
        rw [Entries.insert_of_not_mem t hfresh, List.append_assoc] at hentries
        exact ⟨(key, t) :: added, head ++ Text.utf8Bytes key ++ (item ++ body), hentries, rfl,
          hunique, EncodesEntries.cons hhead hencodes hbody,
          Nat.max_le.mpr ⟨hdepth, hdepthRest⟩, hreadsKey.trans (hreads.trans hreadsRest)⟩
      · rintro ⟨added, body, rfl, hlength, hunique, hbody, hdepth, hreads⟩
        cases hbody with
        | nil => simp at hlength
        | @cons key t rest head item body hhead hencodes hbody =>
            have hfresh : key ∉ Entries.keys known :=
              Entries.not_mem_keys_of_unique_append hunique
            rcases Nat.max_le.mp hdepth with ⟨hdepthItem, hdepthRest⟩
            rcases hreads.split with ⟨c1, hreadsKey, hreadsMore⟩
            rcases hreadsMore.split with ⟨c2, hreadsItem, hreadsRest⟩
            have hkey := readKey_eq_ok_iff.mpr ⟨hfresh, head, hhead, hreadsKey⟩
            have hitem := (haccepts c1 c2 t).mpr ⟨item, hencodes, hdepthItem, hreadsItem⟩
            have hsplit : known ++ (key, t) :: rest = Entries.insert known key t ++ rest := by
              rw [Entries.insert_of_not_mem t hfresh, List.append_assoc]
              rfl
            have hrest := (ih (hknown.insert key t)).mpr
              ⟨rest, body, hsplit, Nat.succ.inj hlength, hunique, hbody, hdepthRest, hreadsRest⟩
            exact ⟨_, hkey, bind_eq_ok_iff.mpr ⟨_, hitem, hrest⟩⟩

/-!
## Containers
-/

theorem readArray_eq_ok_iff {inner : Nat} {c after : Cursor} {t : Tree} (hinner : Accepts inner)
    (htype : itemType c = .ok ItemType.array) :
    readItem (inner + 1) c = .ok (t, after) <->
      exists (items : List Tree) (head body : List UInt8),
        t = Tree.array items ∧ Head Major.array items.length head ∧
          EncodesItems items body ∧ Tree.depthItems items ≤ inner ∧
          c.Reads (head ++ body) after := by
  rw [readItem, htype]
  constructor
  · intro h
    rcases bind_eq_ok_iff.mp h with ⟨⟨length, middle⟩, hlength, hmore⟩
    rcases bind_eq_ok_iff.mp hmore with ⟨⟨items, c'⟩, hitems, hdone⟩
    cases hdone
    rcases (readLength_eq_ok_iff Major.array rfl htype).mp hlength with
      ⟨head, hhead, hreadsHead, _⟩
    rcases (readItems_eq_ok_iff hinner).mp hitems with ⟨rfl, body, hbody, hdepth, hreads⟩
    exact ⟨items, head, body, rfl, hhead, hbody, hdepth, hreadsHead.trans hreads⟩
  · rintro ⟨items, head, body, rfl, hhead, hbody, hdepth, hreads⟩
    rcases hreads.split with ⟨middle, hreadsHead, hreadsBody⟩
    have hfits : items.length * 1 ≤ middle.rest.length := by
      rw [hreadsBody.left, List.length_append, Nat.mul_one]
      exact Nat.le_add_right_of_le hbody.length_le
    have hlength := (readLength_eq_ok_iff Major.array rfl htype).mpr
      ⟨head, hhead, hreadsHead, hfits⟩
    have hitems := (readItems_eq_ok_iff hinner).mpr ⟨rfl, body, hbody, hdepth, hreadsBody⟩
    exact bind_eq_ok_iff.mpr ⟨_, hlength, bind_eq_ok_iff.mpr ⟨_, hitems, rfl⟩⟩

theorem readMap_eq_ok_iff {inner : Nat} {c after : Cursor} {t : Tree} (hinner : Accepts inner)
    (htype : itemType c = .ok ItemType.map) :
    readItem (inner + 1) c = .ok (t, after) <->
      exists (entries : Entries Tree) (head body : List UInt8),
        t = Tree.map entries ∧ Entries.Unique entries ∧ Head Major.map entries.length head ∧
          EncodesEntries entries body ∧ Tree.depthEntries entries ≤ inner ∧
          c.Reads (head ++ body) after := by
  rw [readItem, htype]
  constructor
  · intro h
    rcases bind_eq_ok_iff.mp h with ⟨⟨length, middle⟩, hlength, hmore⟩
    rcases bind_eq_ok_iff.mp hmore with ⟨⟨entries, c'⟩, hentries, hdone⟩
    cases hdone
    rcases (readLength_eq_ok_iff Major.map rfl htype).mp hlength with
      ⟨head, hhead, hreadsHead, _⟩
    rcases (readEntries_eq_ok_iff hinner Entries.unique_nil).mp hentries with
      ⟨added, body, rfl, rfl, hunique, hbody, hdepth, hreads⟩
    exact ⟨entries, head, body, rfl, hunique, hhead, hbody, hdepth, hreadsHead.trans hreads⟩
  · rintro ⟨entries, head, body, rfl, hunique, hhead, hbody, hdepth, hreads⟩
    rcases hreads.split with ⟨middle, hreadsHead, hreadsBody⟩
    have hfits : entries.length * 2 ≤ middle.rest.length := by
      rw [hreadsBody.left, List.length_append]
      exact Nat.le_add_right_of_le hbody.length_le
    have hlength := (readLength_eq_ok_iff Major.map rfl htype).mpr
      ⟨head, hhead, hreadsHead, hfits⟩
    have hentries := (readEntries_eq_ok_iff hinner Entries.unique_nil).mpr
      ⟨entries, body, rfl, rfl, hunique, hbody, hdepth, hreadsBody⟩
    exact bind_eq_ok_iff.mpr ⟨_, hlength, bind_eq_ok_iff.mpr ⟨_, hentries, rfl⟩⟩

/-!
## Items

What is read is decided by the type of the item, so both directions go type by
type.
-/

theorem encodes_of_readItem {levels : Nat} {c after : Cursor} {t : Tree}
    (hinner : forall inner : Nat, levels = inner + 1 -> Accepts inner)
    (h : readItem levels c = .ok (t, after)) :
    exists bytes : List UInt8, Encodes t bytes ∧ t.depth ≤ levels ∧ c.Reads bytes after := by
  have hread := h
  unfold readItem at h
  cases htype : itemType c with
  | error error =>
      rw [htype] at h
      cases h
  | ok type =>
      rw [htype] at h
      cases type with
      | null =>
          cases h
          have hfirst := head?_of_onlyByte ItemType.null rfl htype
          exact ⟨[0xf6], Encodes.null, Nat.zero_le _, reads_cons_iff.mpr ⟨hfirst, Reads.refl _⟩⟩
      | bool b =>
          cases h
          cases b with
          | false =>
              have hfirst := head?_of_onlyByte (ItemType.bool false) rfl htype
              exact ⟨[0xf4], Encodes.no, Nat.zero_le _, reads_cons_iff.mpr ⟨hfirst, Reads.refl _⟩⟩
          | true =>
              have hfirst := head?_of_onlyByte (ItemType.bool true) rfl htype
              exact ⟨[0xf5], Encodes.yes, Nat.zero_le _, reads_cons_iff.mpr ⟨hfirst, Reads.refl _⟩⟩
      | unsigned =>
          rcases (readInteger_eq_ok_iff Major.unsigned rfl htype).mp h with
            ⟨n, head, hn, rfl, hhead, hreads⟩
          have hvalue : (Int64.ofInt n).toInt = n :=
            Int64.toInt_ofInt_of_le (by omega) (by omega)
          exact ⟨head, Encodes.unsigned hhead hvalue, Nat.zero_le _, hreads⟩
      | negative =>
          rcases (readInteger_eq_ok_iff Major.negative rfl htype).mp h with
            ⟨n, head, hn, rfl, hhead, hreads⟩
          have hvalue : (Int64.ofInt (-1 - n)).toInt = -1 - n :=
            Int64.toInt_ofInt_of_le (by omega) (by omega)
          exact ⟨head, Encodes.negative hhead hvalue, Nat.zero_le _, hreads⟩
      | half =>
          have hfirst := head?_of_onlyByte ItemType.half rfl htype
          rcases (readFloat_eq_ok_iff hfirst).mp h with ⟨bits, hbits, rfl, hreads⟩
          have hencodes := Encodes.half (UInt16.ofNat bits)
          rw [UInt16.toNat_ofNat_of_lt' hbits] at hencodes
          exact ⟨_, hencodes, Nat.zero_le _, hreads⟩
      | single =>
          have hfirst := head?_of_onlyByte ItemType.single rfl htype
          rcases (readFloat_eq_ok_iff hfirst).mp h with ⟨bits, hbits, rfl, hreads⟩
          have hencodes := Encodes.single (UInt32.ofNat bits)
          rw [UInt32.toNat_ofNat_of_lt' hbits] at hencodes
          exact ⟨_, hencodes, Nat.zero_le _, hreads⟩
      | double =>
          have hfirst := head?_of_onlyByte ItemType.double rfl htype
          rcases (readFloat_eq_ok_iff hfirst).mp h with ⟨bits, hbits, rfl, hreads⟩
          have hencodes := Encodes.double { bits := UInt64.ofNat bits }
          rw [UInt64.toNat_ofNat_of_lt' hbits] at hencodes
          exact ⟨_, hencodes, Nat.zero_le _, hreads⟩
      | text =>
          rcases bind_eq_ok_iff.mp h with ⟨⟨s, c'⟩, htext, hdone⟩
          cases hdone
          rcases (readText_eq_ok_iff htype).mp htext with ⟨head, hhead, hreads⟩
          exact ⟨_, Encodes.string hhead, Nat.zero_le _, hreads⟩
      | bytes =>
          rcases bind_eq_ok_iff.mp h with ⟨⟨b, c'⟩, hbytes, hdone⟩
          cases hdone
          rcases (readBytes_eq_ok_iff Major.bytes rfl htype).mp hbytes with
            ⟨head, hhead, hreads⟩
          exact ⟨_, Encodes.bytes hhead, Nat.zero_le _, hreads⟩
      | array =>
          cases levels with
          | zero => cases h
          | succ inner =>
              rcases (readArray_eq_ok_iff (hinner inner rfl) htype).mp hread with
                ⟨items, head, body, rfl, hhead, hbody, hdepth, hreads⟩
              exact ⟨head ++ body, Encodes.array hhead hbody, Nat.succ_le_succ hdepth, hreads⟩
      | map =>
          cases levels with
          | zero => cases h
          | succ inner =>
              rcases (readMap_eq_ok_iff (hinner inner rfl) htype).mp hread with
                ⟨entries, head, body, rfl, hunique, hhead, hbody, hdepth, hreads⟩
              exact ⟨head ++ body, Encodes.map hunique hhead hbody, Nat.succ_le_succ hdepth,
                hreads⟩
      | _ => cases h

theorem readItem_of_encodes {levels : Nat} {c after : Cursor} {t : Tree} {bytes : List UInt8}
    (hinner : forall inner : Nat, levels = inner + 1 -> Accepts inner)
    (hencodes : Encodes t bytes) (hdepth : t.depth ≤ levels) (hreads : c.Reads bytes after) :
    readItem levels c = .ok (t, after) := by
  unfold readItem
  cases hencodes with
  | null =>
      rw [itemType_of_onlyByte ItemType.null rfl hreads (by decide)]
      rw [(reads_cons_iff.mp hreads).right.eq_of_nil]
  | no =>
      rw [itemType_of_onlyByte (ItemType.bool false) rfl hreads (by decide)]
      rw [(reads_cons_iff.mp hreads).right.eq_of_nil]
  | yes =>
      rw [itemType_of_onlyByte (ItemType.bool true) rfl hreads (by decide)]
      rw [(reads_cons_iff.mp hreads).right.eq_of_nil]
  | @unsigned i n head hhead hvalue =>
      have htype : itemType c = .ok ItemType.unsigned :=
        itemType_of_head rfl hhead (by rwa [List.append_nil])
      have hsmall : n < 0x8000000000000000 := by
        have hbound := Int64.toInt_lt i
        omega
      have htree : Tree.integer i = Tree.integer (Int64.ofInt n) := by
        rw [← hvalue, Int64.ofInt_toInt]
      rw [htype]
      exact (readInteger_eq_ok_iff Major.unsigned rfl htype).mpr
        ⟨n, bytes, hsmall, htree, hhead, hreads⟩
  | @negative i n head hhead hvalue =>
      have htype : itemType c = .ok ItemType.negative :=
        itemType_of_head rfl hhead (by rwa [List.append_nil])
      have hsmall : n < 0x8000000000000000 := by
        have hbound := Int64.le_toInt i
        omega
      have htree : Tree.integer i = Tree.integer (Int64.ofInt (-1 - n)) := by
        rw [← hvalue, Int64.ofInt_toInt]
      rw [htype]
      exact (readInteger_eq_ok_iff Major.negative rfl htype).mpr
        ⟨n, bytes, hsmall, htree, hhead, hreads⟩
  | half bits =>
      rw [itemType_of_onlyByte ItemType.half rfl hreads (fun _ => bigEndian_ne_nil (by decide) _)]
      exact (readFloat_eq_ok_iff (reads_cons_iff.mp hreads).left).mpr
        ⟨bits.toNat, UInt16.toNat_lt bits, rfl, hreads⟩
  | single bits =>
      rw [itemType_of_onlyByte ItemType.single rfl hreads (fun _ => bigEndian_ne_nil (by decide) _)]
      exact (readFloat_eq_ok_iff (reads_cons_iff.mp hreads).left).mpr
        ⟨bits.toNat, UInt32.toNat_lt bits, rfl, hreads⟩
  | double x =>
      have htree : Tree.float x = Tree.float { bits := UInt64.ofNat x.bits.toNat } := by
        rw [UInt64.ofNat_toNat]
      rw [itemType_of_onlyByte ItemType.double rfl hreads (fun _ => bigEndian_ne_nil (by decide) _)]
      exact (readFloat_eq_ok_iff (reads_cons_iff.mp hreads).left).mpr
        ⟨x.bits.toNat, UInt64.toNat_lt x.bits, htree, hreads⟩
  | string hhead =>
      have htype : itemType c = .ok ItemType.text := itemType_of_head rfl hhead hreads
      rw [htype]
      have htext := (readText_eq_ok_iff htype).mpr ⟨_, hhead, hreads⟩
      exact bind_eq_ok_iff.mpr ⟨_, htext, rfl⟩
  | bytes hhead =>
      have htype : itemType c = .ok ItemType.bytes := itemType_of_head rfl hhead hreads
      rw [htype]
      have hbytes := (readBytes_eq_ok_iff Major.bytes rfl htype).mpr ⟨_, hhead, hreads⟩
      exact bind_eq_ok_iff.mpr ⟨_, hbytes, rfl⟩
  | @array items head body hhead hbody =>
      have htype : itemType c = .ok ItemType.array := itemType_of_head rfl hhead hreads
      cases levels with
      | zero => exact absurd hdepth (Nat.not_succ_le_zero _)
      | succ inner =>
          have hdepthItems := Nat.le_of_succ_le_succ hdepth
          have hread := (readArray_eq_ok_iff (hinner inner rfl) htype).mpr
            ⟨items, head, body, rfl, hhead, hbody, hdepthItems, hreads⟩
          rwa [readItem] at hread
  | @map entries head body hunique hhead hbody =>
      have htype : itemType c = .ok ItemType.map := itemType_of_head rfl hhead hreads
      cases levels with
      | zero => exact absurd hdepth (Nat.not_succ_le_zero _)
      | succ inner =>
          have hdepthEntries := Nat.le_of_succ_le_succ hdepth
          have hread := (readMap_eq_ok_iff (hinner inner rfl) htype).mpr
            ⟨entries, head, body, rfl, hunique, hhead, hbody, hdepthEntries, hreads⟩
          rwa [readItem] at hread

theorem accepts_of_inner {levels : Nat}
    (hinner : forall inner : Nat, levels = inner + 1 -> Accepts inner) : Accepts levels := by
  intro c after t
  constructor
  · intro h
    exact encodes_of_readItem hinner h
  · rintro ⟨bytes, hencodes, hdepth, hreads⟩
    exact readItem_of_encodes hinner hencodes hdepth hreads

theorem accepts (levels : Nat) : Accepts levels := by
  induction levels with
  | zero => exact accepts_of_inner (fun inner h => by cases h)
  | succ levels ih =>
      apply accepts_of_inner
      intro inner h
      cases h
      exact ih

/-!
## Whole inputs
-/

theorem decode_eq_ok_iff {input : List UInt8} {t : Tree} :
    decode input = .ok t <-> Encodes t input ∧ t.depth ≤ maxDepth := by
  unfold decode
  rw [bind_eq_ok_iff]
  constructor
  · rintro ⟨⟨t', c⟩, hitem, hdone⟩
    rcases (accepts maxDepth _ _ _).mp hitem with ⟨bytes, hencodes, hdepth, hreads⟩
    dsimp only at hdone
    cases hrest : c.rest with
    | nil =>
        have hinput : input = bytes := by simpa [start, hrest] using hreads.left
        rw [hrest] at hdone
        cases hdone
        rw [hinput]
        exact ⟨hencodes, hdepth⟩
    | cons byte rest =>
        rw [hrest] at hdone
        cases hdone
  · rintro ⟨hencodes, hdepth⟩
    have hreads : (start input).Reads input { rest := [], offset := input.length } := by
      have hstart := reads_start input []
      rwa [List.append_nil] at hstart
    exact ⟨_, (accepts maxDepth _ _ _).mpr ⟨input, hencodes, hdepth, hreads⟩, rfl⟩

end Cbor
end Troupe
