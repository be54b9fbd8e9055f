import Troupe.Proofs.Cbor.Acceptance
import Troupe.Proofs.Number.Widening
import Troupe.Wire.Codec

/-!
# The CBOR codec

The codec accepts exactly the grammar up to its nesting limit, and what it writes
comes back unchanged.  Written trees nest as deep as they like, so the limit is
met again only when they are read.
-/

namespace Troupe

open Number

namespace Cbor

/-- An item ends where its own bytes say and is an item of one tree only, since one
reader reads them. -/
theorem Encodes.append_inj {t t' : Tree} {bytes bytes' rest rest' : List UInt8}
    (h : Encodes t bytes) (h' : Encodes t' bytes') (heq : bytes ++ rest = bytes' ++ rest') :
    t = t' ∧ bytes = bytes' ∧ rest = rest' := by
  have hreads' : (Cursor.start (bytes ++ rest)).Reads bytes'
      { rest := rest', offset := bytes'.length } := heq ▸ Cursor.reads_start bytes' rest'
  have hread := (accepts (max t.depth t'.depth) _ _ _).mpr
    ⟨bytes, h, Nat.le_max_left _ _, Cursor.reads_start bytes rest⟩
  have hread' := (accepts (max t.depth t'.depth) _ _ _).mpr
    ⟨bytes', h', Nat.le_max_right _ _, hreads'⟩
  rw [hread] at hread'
  simp only [Except.ok.injEq, Prod.mk.injEq, Cursor.mk.injEq] at hread'
  rcases hread' with ⟨htree, rfl, -⟩
  exact ⟨htree, List.append_cancel_right heq, rfl⟩

theorem Encodes.unique {t t' : Tree} {bytes : List UInt8}
    (h : Encodes t bytes) (h' : Encodes t' bytes) : t = t' := by
  have hends : bytes ++ [] = bytes ++ [] := rfl
  exact (h.append_inj h' hends).left

theorem decode_of_depth {t : Tree} {bytes : List UInt8}
    (hencodes : Encodes t bytes) (hdepth : maxDepth < t.depth) :
    exists error : CborError, decode bytes = .error error := by
  cases hdecode : decode bytes with
  | error error => exact ⟨error, rfl⟩
  | ok t' =>
      rcases decode_eq_ok_iff.mp hdecode with ⟨hencodes', hdepth'⟩
      rw [hencodes.unique hencodes'] at hdepth
      exact absurd hdepth' (Nat.not_le_of_lt hdepth)

end Cbor

/-!
## Payloads
-/

namespace Codec

theorem encode_cbor (t : Tree) : encode Format.cbor t cbor = .ok (Cbor.encode t) := by
  simp [encode]

theorem decode_cbor (payload : List UInt8) :
    decode Format.cbor payload cbor =
      (Cbor.decode payload).mapError fun error =>
        CodecError.decode Format.cbor (DecodeFault.cbor error) := by
  simp [decode]

theorem decode_cbor_eq_ok_iff {payload : List UInt8} {t : Tree} :
    decode Format.cbor payload cbor = .ok t <-> Cbor.decode payload = .ok t := by
  rw [decode_cbor]
  cases Cbor.decode payload with
  | ok t' =>
      constructor
      · intro h
        cases h
        rfl
      · intro h
        cases h
        rfl
  | error error =>
      constructor
      · intro h
        cases h
      · intro h
        cases h

theorem decode_cbor_eq_error_iff {payload : List UInt8} :
    (exists error : Cbor.CborError,
        decode Format.cbor payload cbor =
          .error (CodecError.decode Format.cbor (DecodeFault.cbor error))) <->
      forall t : Tree, Cbor.decode payload ≠ .ok t := by
  rw [decode_cbor]
  cases Cbor.decode payload with
  | ok t =>
      constructor
      · rintro ⟨error, h⟩
        cases h
      · intro h
        exact absurd rfl (h t)
  | error error =>
      constructor
      · intro _ t h
        cases h
      · intro _
        exact ⟨error, rfl⟩

/-- What is written for a tree is read back as that tree, to the bit, the variant,
and the position of each entry, unless the tree nests too deep to be read. -/
theorem cbor_round_trip {t : Tree} (hunique : t.UniqueKeys) (hmeasured : Cbor.Measured t) :
    exists payload : List UInt8,
      encode Format.cbor t cbor = .ok payload ∧
        (t.depth ≤ 64 -> decode Format.cbor payload cbor = .ok t) ∧
        (64 < t.depth ->
          exists error : Cbor.CborError,
            decode Format.cbor payload cbor =
              .error (CodecError.decode Format.cbor (DecodeFault.cbor error))) := by
  have hencodes := Cbor.encodes_encode hunique hmeasured
  refine ⟨Cbor.encode t, encode_cbor t, ?_, ?_⟩
  · intro hdepth
    exact decode_cbor_eq_ok_iff.mpr (Cbor.decode_eq_ok_iff.mpr ⟨hencodes, hdepth⟩)
  · intro hdepth
    rcases Cbor.decode_of_depth hencodes hdepth with ⟨error, herror⟩
    exact ⟨error, by rw [decode_cbor, herror]; rfl⟩

theorem cbor_round_trip_nested :
    exists payload : List UInt8,
      encode Format.cbor
          (Tree.map [("x", Tree.array [Tree.float { bits := 0x7ff4000000000001 }]),
            ("", Tree.bytes [0xff])]) cbor = .ok payload ∧
        decode Format.cbor payload cbor =
          .ok (Tree.map [("x", Tree.array [Tree.float { bits := 0x7ff4000000000001 }]),
            ("", Tree.bytes [0xff])]) := by
  have hunique : Tree.UniqueKeys
      (Tree.map [("x", Tree.array [Tree.float { bits := 0x7ff4000000000001 }]),
        ("", Tree.bytes [0xff])]) := by
    simp [Tree.UniqueKeys, Tree.UniqueKeysEntries, Tree.UniqueKeysItems, Entries.Unique,
      Entries.keys]
  have hmeasured : Cbor.Measured
      (Tree.map [("x", Tree.array [Tree.float { bits := 0x7ff4000000000001 }]),
        ("", Tree.bytes [0xff])]) := by
    refine ⟨by decide, by decide, ⟨by decide, trivial, trivial⟩, by decide, ?_, trivial⟩
    exact show 1 < 2 ^ 64 by decide
  rcases cbor_round_trip hunique hmeasured with ⟨payload, hencode, hshallow, _⟩
  exact ⟨payload, hencode, hshallow (by decide)⟩

/-- The codec accepts the items of the grammar that nest within the limit and
nothing else, and the grammar's narrower floats are read without loss. -/
theorem decode_cbor_exact :
    (forall (payload : List UInt8) (t : Tree),
        decode Format.cbor payload cbor = .ok t <-> Cbor.Encodes t payload ∧ t.depth ≤ 64) ∧
      (forall payload : List UInt8,
        (exists error : Cbor.CborError,
            decode Format.cbor payload cbor =
              .error (CodecError.decode Format.cbor (DecodeFault.cbor error))) <->
          ¬ exists t : Tree, Cbor.Encodes t payload ∧ t.depth ≤ 64) ∧
      (forall bits : UInt16,
        BinaryFormat.binary16.Embeds bits.toNat
          (Binary64.widen BinaryFormat.binary16 bits.toNat)) ∧
      (forall bits : UInt32,
        BinaryFormat.binary32.Embeds bits.toNat
          (Binary64.widen BinaryFormat.binary32 bits.toNat)) := by
  refine ⟨?_, ?_, ?_, ?_⟩
  · intro payload t
    rw [decode_cbor_eq_ok_iff]
    exact Cbor.decode_eq_ok_iff
  · intro payload
    rw [decode_cbor_eq_error_iff]
    constructor
    · rintro h ⟨t, ht⟩
      exact h t (Cbor.decode_eq_ok_iff.mpr ht)
    · intro h t ht
      exact h ⟨t, Cbor.decode_eq_ok_iff.mp ht⟩
  · intro bits
    exact Binary64.embeds_widen BinaryFormat.narrow_binary16 bits.toNat
  · intro bits
    exact Binary64.embeds_widen BinaryFormat.narrow_binary32 bits.toNat

end Codec
end Troupe
