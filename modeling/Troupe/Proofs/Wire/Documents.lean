import Troupe.Proofs.Cbor.RoundTrip
import Troupe.Proofs.Json.Routes

/-!
# Documents on the wire

The tree of a document holds nothing that a format could lose: no map repeats a key,
there are no bytes, and every float is finite.  Whichever of the two formats it travels
in, the tree comes back as it was, unless it nests too deep to be read.
-/

namespace Troupe

open Number

/-!
## Trees of documents
-/

theorem Number.Binary64.isFinite_ofInt {i : Int} (h : i.natAbs < 2 ^ 64) :
    (Binary64.ofInt i).isFinite = true := by
  have hbelow : ((i.natAbs : ℚ) / (1 : Nat)) < 2 ^ (64 : Int) := by
    rw [Nat.cast_one, div_one]
    exact_mod_cast h
  have hnearest := BinaryFormat.binary64.nearest_lt_infinity Nat.one_pos hbelow
    (by decide) (by decide)
  have hmagnitude : (Binary64.ofInt i).magnitude =
      BinaryFormat.binary64.nearest i.natAbs 1 := by
    rw [Binary64.ofInt, Binary64.ofRatio,
      magnitude_ofMagnitude (hnearest.trans (by decide))]
  rw [Binary64.isFinite, hmagnitude]
  exact decide_eq_true hnearest

theorem JsonNumber.plain_toTree {n : JsonNumber} (hproper : Json.Proper n) :
    n.toTree.Plain := by
  cases n with
  | natural n =>
      rw [toTree]
      split
      · trivial
      · exact Binary64.isFinite_ofInt n.toNat_lt
  | negative i => trivial
  | real x => exact hproper

theorem JsonNumber.uniqueKeys_toTree (n : JsonNumber) : n.toTree.UniqueKeys := by
  cases n with
  | natural n =>
      rw [toTree]
      split <;> trivial
  | negative i => trivial
  | real x => trivial

namespace Json

theorem ofInt64_toInt64 {n : UInt64} (h : n.toNat < 0x8000000000000000) :
    ofInt64 n.toInt64 = number (JsonNumber.natural n) := by
  have hvalue : n.toInt64.toInt = n.toNat := by
    apply BitVec.toInt_eq_toNat_of_lt
    change 2 * n.toNat < 2 ^ 64
    omega
  have hnonneg : ¬ n.toInt64 < 0 := by
    rw [Int64.lt_iff_toInt_lt, hvalue, Int64.toInt_zero]
    omega
  rw [ofInt64, if_neg hnonneg, UInt64.toUInt64_toInt64]

theorem keys_toTreeMembers (ms : Entries Json) :
    Entries.keys (toTreeMembers ms) = Entries.keys ms := by
  induction ms with
  | nil => rfl
  | cons member rest ih =>
      rcases member with ⟨k, v⟩
      exact congrArg (List.cons k) ih

mutual

theorem uniqueKeys_toTree : forall {v : Json}, Valid v -> v.toTree.UniqueKeys
  | null, _ => trivial
  | bool _, _ => trivial
  | number n, _ => n.uniqueKeys_toTree
  | string _, _ => trivial
  | array _, hitems => uniqueKeysItems_toTreeItems hitems
  | object ms, ⟨hkeys, hmembers⟩ => by
      refine ⟨?_, uniqueKeysEntries_toTreeMembers hmembers⟩
      rw [Entries.Unique, keys_toTreeMembers]
      exact hkeys

theorem uniqueKeysItems_toTreeItems :
    forall {xs : List Json}, ValidItems xs -> Tree.UniqueKeysItems (toTreeItems xs)
  | [], _ => trivial
  | _ :: _, ⟨hvalue, hrest⟩ => ⟨uniqueKeys_toTree hvalue, uniqueKeysItems_toTreeItems hrest⟩

theorem uniqueKeysEntries_toTreeMembers :
    forall {ms : List (String × Json)}, ValidMembers ms ->
      Tree.UniqueKeysEntries (toTreeMembers ms)
  | [], _ => trivial
  | (_, _) :: _, ⟨hvalue, hrest⟩ =>
      ⟨uniqueKeys_toTree hvalue, uniqueKeysEntries_toTreeMembers hrest⟩

end

mutual

theorem plain_toTree : forall {v : Json}, Valid v -> v.toTree.Plain
  | null, _ => trivial
  | bool _, _ => trivial
  | number _, hproper => JsonNumber.plain_toTree hproper
  | string _, _ => trivial
  | array _, hitems => plainItems_toTreeItems hitems
  | object _, ⟨_, hmembers⟩ => plainEntries_toTreeMembers hmembers

theorem plainItems_toTreeItems :
    forall {xs : List Json}, ValidItems xs -> Tree.PlainItems (toTreeItems xs)
  | [], _ => trivial
  | _ :: _, ⟨hvalue, hrest⟩ => ⟨plain_toTree hvalue, plainItems_toTreeItems hrest⟩

theorem plainEntries_toTreeMembers :
    forall {ms : List (String × Json)}, ValidMembers ms -> Tree.PlainEntries (toTreeMembers ms)
  | [], _ => trivial
  | (_, _) :: _, ⟨hvalue, hrest⟩ => ⟨plain_toTree hvalue, plainEntries_toTreeMembers hrest⟩

end

end Json

/-!
## The codec for both formats
-/

namespace Codec

theorem encode_standard_cbor (t : Tree) : encode Format.cbor t standard = .ok (Cbor.encode t) :=
  rfl

theorem encode_standard_json (t : Tree) :
    encode Format.json t standard = .ok (Text.utf8Bytes t.canonical) :=
  rfl

theorem encode_standard_other {format : Format} (hcbor : format ≠ Format.cbor)
    (hjson : format ≠ Format.json) (t : Tree) :
    encode format t standard = .error (CodecError.unsupportedFormat format) := by
  simp [standard, encode, encodeFirst, supports, hcbor, hjson]

theorem decode_standard_cbor (payload : List UInt8) :
    decode Format.cbor payload standard = decode Format.cbor payload cbor :=
  rfl

theorem decode_standard_json (payload : List UInt8) :
    decode Format.json payload standard = decode Format.json payload json :=
  rfl

end Codec

namespace Format

/-- A format takes trees up to a depth; in CBOR, lengths have at most 64 bits. -/
inductive Carries : Format -> Tree -> Prop where
  | cbor {t : Tree} (hmeasured : Cbor.Measured t) (hdepth : t.depth ≤ 64) : Carries Format.cbor t
  | json {t : Tree} (hdepth : t.depth ≤ 127) : Carries Format.json t

/-- What is written for the tree of a document is read back as that tree. -/
theorem Carries.round_trip {format : Format} {v : Json} (h : format.Carries v.toTree)
    (hvalid : v.Valid) {payload : List UInt8}
    (hencode : Codec.standard.encode format v.toTree = .ok payload) :
    Codec.standard.decode format payload = .ok v.toTree := by
  have hunique := Json.uniqueKeys_toTree hvalid
  cases h with
  | cbor hmeasured hdepth =>
      obtain rfl : Cbor.encode v.toTree = payload := Except.ok.inj hencode
      rw [Codec.decode_standard_cbor, Codec.decode_cbor_eq_ok_iff]
      exact Cbor.decode_eq_ok_iff.mpr ⟨Cbor.encodes_encode hunique hmeasured, hdepth⟩
  | json hdepth =>
      obtain rfl : Text.utf8Bytes v.toTree.canonical = payload := Except.ok.inj hencode
      have hdecode := (Codec.decode_json_of_spells (Codec.spells_canonical hunique)).left hdepth
      rw [Codec.decode_standard_json, hdecode, Tree.norm_of_plain (Json.plain_toTree hvalid)]

end Format
end Troupe
