import Troupe.Proofs.Cbor.Grammar
import Troupe.Proofs.Entries
import Troupe.Proofs.Text.Utf8

/-!
# What the parts of the CBOR reader accept

Each reader below the level of whole items gets one statement: it succeeds
exactly when the input starts with bytes of the grammar, and then it has consumed
those bytes.
-/

namespace Troupe
namespace Cbor

open Number Cursor

/-!
## First bytes
-/

theorem forall_byte {P : UInt8 -> Prop} (h : forall n : Nat, n < 256 -> P (UInt8.ofNat n))
    (byte : UInt8) : P byte := by
  have hbyte := h byte.toNat (UInt8.toNat_lt byte)
  rwa [UInt8.ofNat_toNat] at hbyte

def Major.itemType? : Major -> Option ItemType
  | unsigned => some ItemType.unsigned
  | negative => some ItemType.negative
  | bytes => some ItemType.bytes
  | text => some ItemType.text
  | array => some ItemType.array
  | map => some ItemType.map
  | tag => some ItemType.tag
  | simple => none

def ItemType.onlyByte? : ItemType -> Option UInt8
  | null => some 0xf6
  | bool false => some 0xf4
  | bool true => some 0xf5
  | half => some 0xf9
  | single => some 0xfa
  | double => some 0xfb
  | _ => none

theorem typeOfByte_eq_iff_head {major : Major} {type : ItemType}
    (h : major.itemType? = some type) (byte : UInt8) :
    typeOfByte byte = type <-> byte.toNat / 32 = major.code ∧ byte.toNat % 32 < 28 := by
  revert byte
  cases major <;> cases h <;> exact forall_byte (by decide +kernel)

theorem typeOfByte_eq_iff_eq {type : ItemType} {only : UInt8}
    (h : type.onlyByte? = some only) (byte : UInt8) :
    typeOfByte byte = type <-> byte = only := by
  revert byte
  unfold ItemType.onlyByte? at h
  split at h <;> cases h <;> exact forall_byte (by decide +kernel)

theorem wide_of_needsSecondByte (byte : UInt8) (h : needsSecondByte byte = true) :
    24 ≤ byte.toNat % 32 := by
  revert byte
  exact forall_byte (by decide +kernel)

theorem itemType_eq_ok {c : Cursor} {type : ItemType} (h : itemType c = .ok type) :
    exists (byte : UInt8) (rest : List UInt8), c.rest = byte :: rest ∧ typeOfByte byte = type := by
  unfold itemType at h
  cases hrest : c.rest with
  | nil => simp [hrest] at h
  | cons byte rest =>
      simp only [hrest] at h
      split at h
      · cases h
      · cases h
        exact ⟨byte, rest, rfl, rfl⟩

theorem itemType_of_rest {c : Cursor} {byte : UInt8} {rest : List UInt8}
    (hc : c.rest = byte :: rest) (hwide : 24 ≤ byte.toNat % 32 -> rest ≠ []) :
    itemType c = .ok (typeOfByte byte) := by
  unfold itemType
  rw [hc]
  cases hneeds : needsSecondByte byte with
  | false => simp [hneeds]
  | true =>
      have hrest : rest ≠ [] := hwide (wide_of_needsSecondByte byte hneeds)
      simp [hneeds, hrest]

theorem itemType_of_onlyByte (type : ItemType) {c after : Cursor} {only : UInt8}
    {bytes : List UInt8} (h : type.onlyByte? = some only) (hreads : c.Reads (only :: bytes) after)
    (hbytes : 24 ≤ only.toNat % 32 -> bytes ≠ []) : itemType c = .ok type := by
  have hrest : c.rest = only :: (bytes ++ after.rest) := hreads.rest_cons
  rw [itemType_of_rest hrest (fun hwide hnil => hbytes hwide (List.append_eq_nil_iff.mp hnil).left)]
  exact congrArg Except.ok ((typeOfByte_eq_iff_eq h only).mpr rfl)

theorem head?_of_onlyByte (type : ItemType) {c : Cursor} {only : UInt8}
    (h : type.onlyByte? = some only) (htype : itemType c = .ok type) :
    c.rest.head? = some only := by
  rcases itemType_eq_ok htype with ⟨byte, rest, hrest, hbyte⟩
  rw [hrest, (typeOfByte_eq_iff_eq h byte).mp hbyte]
  rfl

theorem itemType_of_head {c after : Cursor} {major : Major} {type : ItemType} {n : Nat}
    {head more : List UInt8} (htype : major.itemType? = some type) (hhead : Head major n head)
    (hreads : c.Reads (head ++ more) after) : itemType c = .ok type := by
  rcases hhead.exists_first with ⟨byte, rest, rfl, hmajor, hinfo, hwide⟩
  have hrest : c.rest = byte :: (rest ++ more ++ after.rest) := hreads.rest_cons
  have hlong : 24 ≤ byte.toNat % 32 -> rest ++ more ++ after.rest ≠ [] := by
    intro h24 hnil
    rw [List.append_eq_nil_iff, List.append_eq_nil_iff] at hnil
    exact hwide h24 hnil.left.left
  rw [itemType_of_rest hrest hlong]
  exact congrArg Except.ok ((typeOfByte_eq_iff_head htype byte).mpr ⟨hmajor, hinfo⟩)

/-!
## Arguments, payloads, and lengths
-/

theorem argument_eq_ok_iff {major : Major} {type : ItemType} {c after : Cursor} {n : Nat}
    (hmajor : major.itemType? = some type) (htype : itemType c = .ok type) :
    readArgument c = .ok (n, after) <->
      exists head : List UInt8, Head major n head ∧ c.Reads head after := by
  rcases itemType_eq_ok htype with ⟨byte, rest, hrest, hbyte⟩
  rcases (typeOfByte_eq_iff_head hmajor byte).mp hbyte with ⟨hcode, hinfo⟩
  exact readArgument_eq_ok_iff hrest hcode hinfo

theorem readBytes_eq_ok_iff (major : Major) {type : ItemType} {c after : Cursor}
    {bytes : List UInt8} (hmajor : major.itemType? = some type) (htype : itemType c = .ok type) :
    readBytes c = .ok (bytes, after) <->
      exists head : List UInt8, Head major bytes.length head ∧ c.Reads (head ++ bytes) after := by
  unfold readBytes
  rw [bind_eq_ok_iff]
  constructor
  · rintro ⟨⟨n, middle⟩, hargument, htake⟩
    rcases (argument_eq_ok_iff hmajor htype).mp hargument with ⟨head, hhead, hreads⟩
    rcases takeBytes_eq_ok_iff.mp htake with ⟨hlength, hpayload⟩
    exact ⟨head, hlength ▸ hhead, hreads.trans hpayload⟩
  · rintro ⟨head, hhead, hreads⟩
    rcases hreads.split with ⟨middle, hfirst, hpayload⟩
    exact ⟨(bytes.length, middle), (argument_eq_ok_iff hmajor htype).mpr ⟨head, hhead, hfirst⟩,
      takeBytes_eq_ok_iff.mpr ⟨rfl, hpayload⟩⟩

theorem readText_eq_ok_iff {c after : Cursor} {s : String}
    (htype : itemType c = .ok ItemType.text) :
    readText c = .ok (s, after) <->
      exists head : List UInt8,
        Head Major.text (Text.utf8Bytes s).length head ∧
          c.Reads (head ++ Text.utf8Bytes s) after := by
  rw [← readBytes_eq_ok_iff Major.text rfl htype]
  unfold readText
  rw [bind_eq_ok_iff]
  constructor
  · rintro ⟨⟨bytes, c'⟩, hbytes, htext⟩
    dsimp only at htext
    cases hs : Text.decodeUtf8 bytes with
    | error fault =>
        rw [hs] at htext
        cases htext
    | ok s' =>
        rw [hs] at htext
        cases htext
        rw [← Text.decodeUtf8_eq_ok_iff.mp hs]
        exact hbytes
  · intro hbytes
    refine ⟨_, hbytes, ?_⟩
    dsimp only
    rw [Text.decodeUtf8_utf8Bytes]
    rfl

theorem readFloat_eq_ok_iff {width : Nat} {pattern : Nat -> Binary64} {c after : Cursor}
    {byte : UInt8} {t : Tree} (hbyte : c.rest.head? = some byte) :
    readFloat width pattern c = .ok (t, after) <->
      exists bits : Nat,
        bits < 256 ^ width ∧ t = Tree.float (pattern bits) ∧
          c.Reads (byte :: bigEndian width bits) after := by
  unfold readFloat
  rw [bind_eq_ok_iff]
  constructor
  · rintro ⟨⟨bytes, c'⟩, htake, hfloat⟩
    cases hfloat
    rcases takeBytes_eq_ok_iff.mp htake with ⟨hlength, hreads⟩
    refine ⟨ofBigEndian bytes, hlength ▸ ofBigEndian_lt bytes, rfl, ?_⟩
    rw [← hlength, bigEndian_ofBigEndian]
    exact reads_cons_iff.mpr ⟨hbyte, hreads⟩
  · rintro ⟨bits, hbits, rfl, hreads⟩
    have hnext := (reads_cons_iff.mp hreads).right
    refine ⟨_, takeBytes_eq_ok_iff.mpr ⟨length_bigEndian width bits, hnext⟩, ?_⟩
    dsimp only
    rw [ofBigEndian_bigEndian hbits]
    rfl

theorem readInteger_eq_ok_iff (major : Major) {type : ItemType} {value : Nat -> Int}
    {c after : Cursor} {t : Tree} (hmajor : major.itemType? = some type)
    (htype : itemType c = .ok type) :
    readInteger value c = .ok (t, after) <->
      exists (n : Nat) (head : List UInt8),
        n < 0x8000000000000000 ∧ t = Tree.integer (Int64.ofInt (value n)) ∧
          Head major n head ∧ c.Reads head after := by
  unfold readInteger
  rw [bind_eq_ok_iff]
  constructor
  · rintro ⟨⟨n, c'⟩, hargument, hinteger⟩
    dsimp only at hinteger
    split at hinteger
    · cases hinteger
      rcases (argument_eq_ok_iff hmajor htype).mp hargument with ⟨head, hhead, hreads⟩
      exact ⟨n, head, by assumption, rfl, hhead, hreads⟩
    · cases hinteger
  · rintro ⟨n, head, hn, rfl, hhead, hreads⟩
    refine ⟨_, (argument_eq_ok_iff hmajor htype).mpr ⟨head, hhead, hreads⟩, ?_⟩
    dsimp only
    rw [if_pos hn]
    rfl

theorem readLength_eq_ok_iff (major : Major) {type : ItemType} {minSize n : Nat}
    {c after : Cursor} (hmajor : major.itemType? = some type) (htype : itemType c = .ok type) :
    readLength minSize c = .ok (n, after) <->
      exists head : List UInt8,
        Head major n head ∧ c.Reads head after ∧ n * minSize ≤ after.rest.length := by
  unfold readLength
  rw [bind_eq_ok_iff]
  constructor
  · rintro ⟨⟨n', c'⟩, hargument, hlength⟩
    dsimp only at hlength
    split at hlength
    · cases hlength
      rcases (argument_eq_ok_iff hmajor htype).mp hargument with ⟨head, hhead, hreads⟩
      exact ⟨head, hhead, hreads, by assumption⟩
    · cases hlength
  · rintro ⟨head, hhead, hreads, hfits⟩
    refine ⟨_, (argument_eq_ok_iff hmajor htype).mpr ⟨head, hhead, hreads⟩, ?_⟩
    dsimp only
    rw [if_pos hfits]
    rfl

theorem readKey_eq_ok_iff {entries : Entries Tree} {c after : Cursor} {key : String} :
    readKey entries c = .ok (key, after) <->
      key ∉ Entries.keys entries ∧
        exists head : List UInt8,
          Head Major.text (Text.utf8Bytes key).length head ∧
            c.Reads (head ++ Text.utf8Bytes key) after := by
  unfold readKey
  rw [bind_eq_ok_iff]
  constructor
  · rintro ⟨type, htype, hkey⟩
    by_cases htext : type = ItemType.text
    · subst htext
      rcases bind_eq_ok_iff.mp hkey with ⟨⟨key', c'⟩, hread, hfresh⟩
      dsimp only at hfresh
      cases hknown : (Entries.get? entries key').isSome with
      | true =>
          rw [hknown] at hfresh
          cases hfresh
      | false =>
          rw [hknown] at hfresh
          cases hfresh
          refine ⟨?_, (readText_eq_ok_iff htype).mp hread⟩
          intro hmem
          rw [Entries.isSome_get?_iff.mpr hmem] at hknown
          cases hknown
    · have hother : (type != ItemType.text) = true := by simp [htext]
      rw [if_pos hother] at hkey
      cases hkey
  · rintro ⟨hfresh, head, hhead, hreads⟩
    have htype : itemType c = .ok ItemType.text := itemType_of_head rfl hhead hreads
    have hread := (readText_eq_ok_iff htype).mpr ⟨head, hhead, hreads⟩
    have hnone : Entries.get? entries key = none := Entries.get?_eq_none_iff.mpr hfresh
    refine ⟨_, htype, bind_eq_ok_iff.mpr ⟨_, hread, ?_⟩⟩
    dsimp only
    rw [hnone]
    rfl

end Cbor
end Troupe
