import Mathlib.Algebra.Group.Int.Defs
import Mathlib.Algebra.Group.Nat.Defs
import Mathlib.Data.List.Induction
import Mathlib.Tactic.SplitIfs
import Troupe.Cbor.Decode
import Troupe.Proofs.Cursor

/-!
# Heads of CBOR items

A head carries the major type of its item and one number, in any of five widths.
`readArgument_eq_ok_iff` says that the number is read back from exactly the heads
that carry it, and `head_shortest` that the writer's head is one of them.
-/

namespace Troupe
namespace Cbor

/-!
## Numbers as bytes
-/

theorem length_bigEndian (width n : Nat) : (bigEndian width n).length = width := by
  induction width generalizing n with
  | zero => rfl
  | succ width ih => simp [bigEndian, ih]

theorem bigEndian_ne_nil {width : Nat} (h : 0 < width) (n : Nat) : bigEndian width n ≠ [] := by
  apply List.ne_nil_of_length_pos
  rw [length_bigEndian]
  exact h

theorem ofBigEndian_append (bytes : List UInt8) (b : UInt8) :
    ofBigEndian (bytes ++ [b]) = ofBigEndian bytes * 256 + b.toNat := by
  simp [ofBigEndian]

theorem ofBigEndian_bigEndian {width n : Nat} (h : n < 256 ^ width) :
    ofBigEndian (bigEndian width n) = n := by
  induction width generalizing n with
  | zero =>
      have hn : n = 0 := by simpa using h
      rw [hn]
      rfl
  | succ width ih =>
      have hlow : (UInt8.ofNat n).toNat = n % 256 := UInt8.toNat_ofNat'
      have hhigh : n / 256 < 256 ^ width := by
        rw [Nat.pow_succ] at h
        omega
      rw [bigEndian, ofBigEndian_append, ih hhigh, hlow]
      omega

theorem ofBigEndian_lt (bytes : List UInt8) : ofBigEndian bytes < 256 ^ bytes.length := by
  induction bytes using List.reverseRecOn with
  | nil => simp [ofBigEndian]
  | append_singleton bytes b ih =>
      have hb : b.toNat < 256 := UInt8.toNat_lt b
      rw [ofBigEndian_append, List.length_append, List.length_singleton, Nat.pow_succ]
      omega

theorem bigEndian_ofBigEndian (bytes : List UInt8) :
    bigEndian bytes.length (ofBigEndian bytes) = bytes := by
  induction bytes using List.reverseRecOn with
  | nil => rfl
  | append_singleton bytes b ih =>
      have hb : b.toNat < 256 := UInt8.toNat_lt b
      have hhigh : (ofBigEndian bytes * 256 + b.toNat) / 256 = ofBigEndian bytes := by omega
      have hlow : UInt8.ofNat (ofBigEndian bytes * 256 + b.toNat) = b := by
        rw [← UInt8.toNat_inj, UInt8.toNat_ofNat']
        omega
      rw [ofBigEndian_append, List.length_append, List.length_singleton, bigEndian, hhigh, hlow, ih]

/-!
## Heads

The argument of a head stands in its first byte if it is small, and otherwise in
the one, two, four, or eight bytes after it.  Nothing forces the shortest form.
-/

def lead (major : Major) (info : Nat) : UInt8 :=
  UInt8.ofNat (major.code * 32 + info)

/-- The bytes are a head of the major type that carries the number. -/
inductive Head (major : Major) : Nat -> List UInt8 -> Prop where
  | direct {n : Nat} : n < 24 -> Head major n [lead major n]
  | wide {n : Nat} (k : Nat) :
      k < 4 -> n < 256 ^ 2 ^ k ->
        Head major n (lead major (24 + k) :: bigEndian (2 ^ k) n)

theorem code_le (major : Major) : major.code ≤ 7 := by
  cases major <;> decide

theorem toNat_lead {major : Major} {info : Nat} (h : info < 32) :
    (lead major info).toNat = major.code * 32 + info := by
  have hcode := code_le major
  rw [lead, UInt8.toNat_ofNat']
  omega

theorem eq_lead {major : Major} {byte : UInt8} (h : byte.toNat / 32 = major.code) :
    byte = lead major (byte.toNat % 32) := by
  rw [← UInt8.toNat_inj, toNat_lead (Nat.mod_lt _ (by decide)), ← h]
  omega

theorem head_shortest (major : Major) {n : Nat} (h : n < 2 ^ 64) :
    Head major n (head major n) := by
  unfold head
  split_ifs with h0 h1 h2 h3
  · exact Head.direct h0
  · exact Head.wide 0 (by decide) h1
  · exact Head.wide 1 (by decide) h2
  · exact Head.wide 2 (by decide) h3
  · exact Head.wide 3 (by decide) h

namespace Head

variable {major : Major} {n : Nat} {bytes : List UInt8}

theorem length_pos (h : Head major n bytes) : 0 < bytes.length := by
  cases h <;> simp

theorem exists_first (h : Head major n bytes) :
    exists (byte : UInt8) (rest : List UInt8),
      bytes = byte :: rest ∧ byte.toNat / 32 = major.code ∧ byte.toNat % 32 < 28 ∧
        (24 ≤ byte.toNat % 32 -> rest ≠ []) := by
  cases h with
  | direct hn =>
      refine ⟨lead major n, [], rfl, ?_⟩
      rw [toNat_lead (by omega)]
      omega
  | wide k hk hn =>
      refine ⟨lead major (24 + k), bigEndian (2 ^ k) n, rfl, ?_⟩
      rw [toNat_lead (by omega)]
      refine ⟨by omega, by omega, ?_⟩
      intro _
      exact bigEndian_ne_nil (Nat.two_pow_pos k) n

end Head

/-!
## Reading arguments
-/

open Cursor

theorem takeBytes_eq_ok_iff {count : Nat} {c after : Cursor} {bytes : List UInt8} :
    takeBytes count c = .ok (bytes, after) <->
      bytes.length = count ∧ c.Reads bytes after := by
  unfold takeBytes
  constructor
  · intro h
    split_ifs at h with hcount
    cases h
    exact ⟨by rw [List.length_take, Nat.min_eq_left hcount], reads_advance hcount⟩
  · rintro ⟨rfl, hreads⟩
    have hcount : bytes.length ≤ c.rest.length := by
      rw [hreads.left, List.length_append]
      omega
    rw [if_pos hcount, hreads.take_eq, hreads.advance_eq]

theorem readArgument_cons {c : Cursor} {byte : UInt8} {rest : List UInt8}
    (h : c.rest = byte :: rest) :
    readArgument c =
      if byte.toNat % 32 < 24 then .ok (byte.toNat % 32, c.next)
      else
        (takeBytes (2 ^ (byte.toNat % 32 - 24)) c.next).bind
          fun (bytes, c) => .ok (ofBigEndian bytes, c) := by
  unfold readArgument
  rw [h]
  rfl

/-- The number is read from exactly the heads that carry it. -/
theorem readArgument_eq_ok_iff {major : Major} {c after : Cursor} {byte : UInt8}
    {rest : List UInt8} {n : Nat} (hc : c.rest = byte :: rest)
    (hmajor : byte.toNat / 32 = major.code) (hinfo : byte.toNat % 32 < 28) :
    readArgument c = .ok (n, after) <->
      exists bytes : List UInt8, Head major n bytes ∧ c.Reads bytes after := by
  have hlead : byte = lead major (byte.toNat % 32) := eq_lead hmajor
  have hhead : c.rest.head? = some byte := by rw [hc]; rfl
  rw [readArgument_cons hc]
  constructor
  · intro h
    split_ifs at h with hdirect
    · cases h
      refine ⟨[byte], ?_, reads_cons_iff.mpr ⟨hhead, Reads.refl c.next⟩⟩
      have hshort : Head major (byte.toNat % 32) [lead major (byte.toNat % 32)] :=
        Head.direct hdirect
      rwa [← hlead] at hshort
    · cases htake : takeBytes (2 ^ (byte.toNat % 32 - 24)) c.next with
      | error error => simp [htake, Except.bind] at h
      | ok result =>
          rcases result with ⟨bytes, c'⟩
          rw [htake] at h
          cases h
          rcases takeBytes_eq_ok_iff.mp htake with ⟨hlength, hreads⟩
          refine ⟨byte :: bytes, ?_, reads_cons_iff.mpr ⟨hhead, hreads⟩⟩
          have hwide : Head major (ofBigEndian bytes) _ :=
            Head.wide (byte.toNat % 32 - 24) (by omega) (hlength ▸ ofBigEndian_lt bytes)
          rw [← hlength, bigEndian_ofBigEndian] at hwide
          rwa [Nat.add_sub_cancel' (Nat.not_lt.mp hdirect), ← hlead] at hwide
  · rintro ⟨bytes, hargument, hreads⟩
    cases hargument with
    | direct hn =>
        rcases reads_cons_iff.mp hreads with ⟨hfirst, hnext⟩
        have hbyte : byte = lead major n := by simpa [hhead] using hfirst
        have hmod : byte.toNat % 32 = n := by
          rw [hbyte, toNat_lead (by omega)]
          omega
        rw [hmod, if_pos hn, hnext.eq_of_nil]
    | wide k hk hn =>
        rcases reads_cons_iff.mp hreads with ⟨hfirst, hnext⟩
        have hbyte : byte = lead major (24 + k) := by simpa [hhead] using hfirst
        have hmod : byte.toNat % 32 = 24 + k := by
          rw [hbyte, toNat_lead (by omega)]
          omega
        have htake := takeBytes_eq_ok_iff.mpr ⟨length_bigEndian (2 ^ k) n, hnext⟩
        rw [hmod, if_neg (by omega), Nat.add_sub_cancel_left, htake]
        simp [Except.bind, ofBigEndian_bigEndian hn]

/-!
## Heads in front of other bytes

A head ends where its own first byte says, whatever follows it, and among the heads
for a number the writer's is the only one of its length and shorter than all others.
-/

namespace Head

variable {major : Major} {n : Nat} {bytes : List UInt8}

theorem lt (h : Head major n bytes) : n < 2 ^ 64 := by
  cases h with
  | direct hn => exact Nat.lt_trans hn (by decide)
  | wide k hk hn =>
      have hwidth : 256 ^ 2 ^ k ≤ 256 ^ 2 ^ 3 :=
        Nat.pow_le_pow_right (by decide) (Nat.pow_le_pow_right (by decide) (Nat.le_of_lt_succ hk))
      exact Nat.lt_of_lt_of_le hn hwidth

theorem append_inj {n' : Nat} {bytes' rest rest' : List UInt8} (h : Head major n bytes)
    (h' : Head major n' bytes') (heq : bytes ++ rest = bytes' ++ rest') :
    bytes = bytes' ∧ rest = rest' := by
  rcases h.exists_first with ⟨byte, more, hbytes, hmajor, hinfo, -⟩
  have hfirst : (start (bytes ++ rest)).rest = byte :: (more ++ rest) := by
    rw [hbytes]
    rfl
  have hreads' : (start (bytes ++ rest)).Reads bytes' { rest := rest', offset := bytes'.length } :=
    heq ▸ reads_start bytes' rest'
  have hread := (readArgument_eq_ok_iff hfirst hmajor hinfo).mpr ⟨bytes, h, reads_start bytes rest⟩
  have hread' := (readArgument_eq_ok_iff hfirst hmajor hinfo).mpr ⟨bytes', h', hreads'⟩
  rw [hread] at hread'
  simp only [Except.ok.injEq, Prod.mk.injEq, Cursor.mk.injEq] at hread'
  rcases hread' with ⟨-, rfl, -⟩
  exact ⟨List.append_cancel_right heq, rfl⟩

theorem eq_head_or_longer (h : Head major n bytes) :
    bytes = head major n ∨ (head major n).length < bytes.length := by
  cases h with
  | direct hn => exact Or.inl (if_pos hn).symm
  | wide k hk hn =>
      have hwidths : k = 0 ∨ k = 1 ∨ k = 2 ∨ k = 3 := by omega
      unfold Cbor.head
      rcases hwidths with rfl | rfl | rfl | rfl <;>
        split_ifs <;>
          simp [length_bigEndian, lead] <;>
            omega

theorem length_head_le (h : Head major n bytes) : (head major n).length ≤ bytes.length := by
  rcases h.eq_head_or_longer with heq | hlonger
  · exact Nat.le_of_eq (congrArg List.length heq.symm)
  · exact Nat.le_of_lt hlonger

end Head

end Cbor
end Troupe
