import Mathlib.Tactic.SplitIfs
import Troupe.Text.Utf8

/-!
# UTF-8, both ways

Decoding accepts exactly what encoding produces: `decodeUtf8_eq_ok_iff` says that
bytes decode to a text if and only if they are its encoding.

## Sequences by their length

The lead byte decides how many bytes follow and which second bytes are allowed.
The facts about single bytes are stated over natural numbers, where `omega`
reaches them.
-/

namespace Troupe
namespace Text

theorem leadInfo_eq (a : UInt8) :
    leadInfo a =
      if a.toNat < 0xc2 ∨ 0xf4 < a.toNat then none
      else if a.toNat < 0xe0 then some (0x80, 0xbf, 0)
      else if a.toNat < 0xf0 then
        some (if a.toNat = 0xe0 then 0xa0 else 0x80, if a.toNat = 0xed then 0x9f else 0xbf, 1)
      else
        some (if a.toNat = 0xf0 then 0x90 else 0x80, if a.toNat = 0xf4 then 0x8f else 0xbf, 2) := by
  simp only [leadInfo, Bool.and_eq_true, decide_eq_true_eq, beq_iff_eq, UInt8.le_iff_toNat_le,
    ← UInt8.toNat_inj, UInt8.reduceToNat]
  split_ifs <;> first | rfl | omega

theorem range_of_leadInfo {a low high : UInt8} {more : Nat}
    (h : leadInfo a = some (low, high, more)) :
    (more = 0 ∧ (0xc2 ≤ a.toNat ∧ a.toNat ≤ 0xdf) ∧ low.toNat = 0x80 ∧ high.toNat = 0xbf) ∨
      (more = 1 ∧ (0xe0 ≤ a.toNat ∧ a.toNat ≤ 0xef) ∧
        low.toNat = (if a.toNat = 0xe0 then 0xa0 else 0x80) ∧
        high.toNat = (if a.toNat = 0xed then 0x9f else 0xbf)) ∨
      (more = 2 ∧ (0xf0 ≤ a.toNat ∧ a.toNat ≤ 0xf4) ∧
        low.toNat = (if a.toNat = 0xf0 then 0x90 else 0x80) ∧
        high.toNat = (if a.toNat = 0xf4 then 0x8f else 0xbf)) := by
  rw [leadInfo_eq] at h
  split_ifs at h <;> cases h <;> simp_all <;> omega

theorem isContinuation_iff {b : UInt8} :
    isContinuation b = true <-> 0x80 ≤ b.toNat ∧ b.toNat ≤ 0xbf := by
  simp [isContinuation, UInt8.le_iff_toNat_le]

def TwoBytes (a b : UInt8) : Prop :=
  (0xc2 ≤ a.toNat ∧ a.toNat ≤ 0xdf) ∧ 0x80 ≤ b.toNat ∧ b.toNat ≤ 0xbf

/-- The bytes of a three-byte sequence that is neither overlong nor a surrogate. -/
def ThreeBytes (a b c : UInt8) : Prop :=
  (0xe0 ≤ a.toNat ∧ a.toNat ≤ 0xef) ∧
    ((if a.toNat = 0xe0 then 0xa0 else 0x80) ≤ b.toNat ∧
      b.toNat ≤ (if a.toNat = 0xed then 0x9f else 0xbf)) ∧
    0x80 ≤ c.toNat ∧ c.toNat ≤ 0xbf

/-- The bytes of a four-byte sequence that is neither overlong nor beyond the
last code point. -/
def FourBytes (a b c d : UInt8) : Prop :=
  (0xf0 ≤ a.toNat ∧ a.toNat ≤ 0xf4) ∧
    ((if a.toNat = 0xf0 then 0x90 else 0x80) ≤ b.toNat ∧
      b.toNat ≤ (if a.toNat = 0xf4 then 0x8f else 0xbf)) ∧
    (0x80 ≤ c.toNat ∧ c.toNat ≤ 0xbf) ∧ 0x80 ≤ d.toNat ∧ d.toNat ≤ 0xbf

def twoPoint (a b : UInt8) : Nat :=
  a.toNat % 32 * 64 + b.toNat % 64

def threePoint (a b c : UInt8) : Nat :=
  (a.toNat % 16 * 64 + b.toNat % 64) * 64 + c.toNat % 64

def fourPoint (a b c d : UInt8) : Nat :=
  ((a.toNat % 8 * 64 + b.toNat % 64) * 64 + c.toNat % 64) * 64 + d.toNat % 64

theorem decodeChar_one {a : UInt8} {rest : List UInt8} (ha : a.toNat < 0x80) :
    decodeChar (a :: rest) = .ok (Char.ofNat a.toNat, 1) := by
  have hlow : a < 0x80 := UInt8.lt_iff_toNat_lt.mpr ha
  simp [decodeChar, hlow]

theorem decodeChar_two {a b : UInt8} {rest : List UInt8} (h : TwoBytes a b) :
    decodeChar (a :: b :: rest) = .ok (Char.ofNat (twoPoint a b), 2) := by
  rcases h with ⟨ha, hb⟩
  have hlead : leadInfo a = some (0x80, 0xbf, 0) := by
    rw [leadInfo_eq, if_neg (by omega), if_pos (by omega)]
  have hhigh : ¬ a.toNat < 128 := by omega
  have hbits : a.toNat < 224 := by omega
  simp [decodeChar, hlead, leadBits, UInt8.le_iff_toNat_le, UInt8.lt_iff_toNat_lt, hhigh, hbits,
    hb, twoPoint]

theorem decodeChar_three {a b c : UInt8} {rest : List UInt8} (h : ThreeBytes a b c) :
    decodeChar (a :: b :: c :: rest) = .ok (Char.ofNat (threePoint a b c), 3) := by
  rcases h with ⟨ha, hb, hc⟩
  have hlead : leadInfo a =
      some (if a.toNat = 0xe0 then 0xa0 else 0x80, if a.toNat = 0xed then 0x9f else 0xbf, 1) := by
    rw [leadInfo_eq, if_neg (by omega), if_neg (by omega), if_pos (by omega)]
  have hhigh : ¬ a.toNat < 128 := by omega
  have hbits : ¬ a.toNat < 224 ∧ a.toNat < 240 := by omega
  have hsecond : ((if a.toNat = 0xe0 then 0xa0 else 0x80 : UInt8) ≤ b) ∧
      b ≤ (if a.toNat = 0xed then 0x9f else 0xbf : UInt8) := by
    constructor <;> rw [UInt8.le_iff_toNat_le] <;> split_ifs at hb ⊢ <;> simp <;> omega
  simp [decodeChar, hlead, leadBits, UInt8.lt_iff_toNat_lt, hhigh, hbits, hsecond,
    isContinuation_iff.mpr hc, threePoint]

theorem decodeChar_four {a b c d : UInt8} {rest : List UInt8} (h : FourBytes a b c d) :
    decodeChar (a :: b :: c :: d :: rest) = .ok (Char.ofNat (fourPoint a b c d), 4) := by
  rcases h with ⟨ha, hb, hc, hd⟩
  have hlead : leadInfo a =
      some (if a.toNat = 0xf0 then 0x90 else 0x80, if a.toNat = 0xf4 then 0x8f else 0xbf, 2) := by
    rw [leadInfo_eq, if_neg (by omega), if_neg (by omega), if_neg (by omega)]
  have hhigh : ¬ a.toNat < 128 := by omega
  have hbits : ¬ a.toNat < 224 ∧ ¬ a.toNat < 240 := by omega
  have hsecond : ((if a.toNat = 0xf0 then 0x90 else 0x80 : UInt8) ≤ b) ∧
      b ≤ (if a.toNat = 0xf4 then 0x8f else 0xbf : UInt8) := by
    constructor <;> rw [UInt8.le_iff_toNat_le] <;> split_ifs at hb ⊢ <;> simp <;> omega
  simp [decodeChar, hlead, leadBits, UInt8.lt_iff_toNat_lt, hhigh, hbits, hsecond,
    isContinuation_iff.mpr hc, isContinuation_iff.mpr hd, fourPoint]

/-!
## Sequences and characters

`Sequence c bytes` says that the bytes are one well-formed sequence and that it
stands for the character.  Encoding and decoding both agree with it, hence with
each other.
-/

inductive Sequence : Char -> List UInt8 -> Prop where
  | one {a : UInt8} : a.toNat < 0x80 -> Sequence (Char.ofNat a.toNat) [a]
  | two {a b : UInt8} : TwoBytes a b -> Sequence (Char.ofNat (twoPoint a b)) [a, b]
  | three {a b c : UInt8} :
      ThreeBytes a b c -> Sequence (Char.ofNat (threePoint a b c)) [a, b, c]
  | four {a b c d : UInt8} :
      FourBytes a b c d -> Sequence (Char.ofNat (fourPoint a b c d)) [a, b, c, d]

namespace Sequence

theorem length_pos {c : Char} {bytes : List UInt8} (h : Sequence c bytes) :
    0 < bytes.length := by
  cases h <;> simp

theorem decodeChar_append {c : Char} {bytes : List UInt8} (h : Sequence c bytes)
    (rest : List UInt8) : decodeChar (bytes ++ rest) = .ok (c, bytes.length) := by
  cases h with
  | one ha => exact decodeChar_one ha
  | two h => exact decodeChar_two h
  | three h => exact decodeChar_three h
  | four h => exact decodeChar_four h

theorem val_ofNat {n : Nat} (h : n.isValidChar) : (Char.ofNat n).val.toNat = n := by
  rw [Char.ofNat, dif_pos h]
  rfl

theorem encodeChar_eq {c : Char} {bytes : List UInt8} (h : Sequence c bytes) :
    String.utf8EncodeChar c = bytes := by
  cases h with
  | @one a ha =>
      simp only [String.utf8EncodeChar, val_ofNat (n := a.toNat) (by left; omega)]
      rw [if_pos (by omega), UInt8.ofNat_toNat]
  | @two a b h =>
      rcases h with ⟨ha, hb⟩
      have hrange : 0x80 ≤ twoPoint a b ∧ twoPoint a b ≤ 0x7ff := by
        unfold twoPoint
        omega
      simp only [String.utf8EncodeChar, val_ofNat (n := twoPoint a b) (by left; omega)]
      rw [if_neg (by omega), if_pos hrange.right]
      simp only [List.cons.injEq, and_true, ← UInt8.toNat_inj, UInt8.toNat_ofNat', twoPoint]
      omega
  | @three a b c h =>
      rcases h with ⟨ha, hb, hc⟩
      have hrange : (0x800 ≤ threePoint a b c ∧ threePoint a b c < 0xd800) ∨
          (0xdfff < threePoint a b c ∧ threePoint a b c ≤ 0xffff) := by
        unfold threePoint
        split_ifs at hb <;> omega
      have hvalid : (threePoint a b c).isValidChar := by
        rcases hrange with hrange | hrange
        · left
          omega
        · right
          omega
      simp only [String.utf8EncodeChar, val_ofNat hvalid]
      rw [if_neg (by omega), if_neg (by omega), if_pos (by omega)]
      simp only [List.cons.injEq, and_true, ← UInt8.toNat_inj, UInt8.toNat_ofNat', threePoint]
      split_ifs at hb <;> omega
  | @four a b c d h =>
      rcases h with ⟨ha, hb, hc, hd⟩
      have hrange : 0xffff < fourPoint a b c d ∧ fourPoint a b c d < 0x110000 := by
        unfold fourPoint
        split_ifs at hb <;> omega
      simp only [String.utf8EncodeChar, val_ofNat (n := fourPoint a b c d) (by right; omega)]
      rw [if_neg (by omega), if_neg (by omega), if_neg (by omega)]
      simp only [List.cons.injEq, and_true, ← UInt8.toNat_inj, UInt8.toNat_ofNat', fourPoint]
      split_ifs at hb <;> omega

theorem of_encodeChar (c : Char) : Sequence c (String.utf8EncodeChar c) := by
  have hvalid : c.val.toNat.isValidChar := c.valid
  have hchar : Char.ofNat c.val.toNat = c := Char.ofNat_toNat c
  unfold String.utf8EncodeChar
  generalize c.val.toNat = v at hvalid hchar
  subst hchar
  dsimp only
  split_ifs with h1 h2 h3
  · have hone : (UInt8.ofNat v).toNat = v := by
      rw [UInt8.toNat_ofNat']
      omega
    have h := one (a := UInt8.ofNat v) (by omega)
    rwa [hone] at h
  · have hbytes : TwoBytes (UInt8.ofNat (v / 64 % 32 + 192)) (UInt8.ofNat (v % 64 + 128)) := by
      simp only [TwoBytes, UInt8.toNat_ofNat']
      omega
    have hpoint : twoPoint (UInt8.ofNat (v / 64 % 32 + 192)) (UInt8.ofNat (v % 64 + 128)) = v := by
      simp only [twoPoint, UInt8.toNat_ofNat']
      omega
    have h := two hbytes
    rwa [hpoint] at h
  · have hbytes : ThreeBytes (UInt8.ofNat (v / 4096 % 16 + 224))
        (UInt8.ofNat (v / 64 % 64 + 128)) (UInt8.ofNat (v % 64 + 128)) := by
      simp only [ThreeBytes, UInt8.toNat_ofNat']
      rcases hvalid with hvalid | hvalid <;> split_ifs <;> omega
    have hpoint : threePoint (UInt8.ofNat (v / 4096 % 16 + 224))
        (UInt8.ofNat (v / 64 % 64 + 128)) (UInt8.ofNat (v % 64 + 128)) = v := by
      simp only [threePoint, UInt8.toNat_ofNat']
      omega
    have h := three hbytes
    rwa [hpoint] at h
  · have hlarge : v < 0x110000 := by
      rcases hvalid with hvalid | hvalid <;> omega
    have hbytes : FourBytes (UInt8.ofNat (v / 262144 % 8 + 240))
        (UInt8.ofNat (v / 4096 % 64 + 128)) (UInt8.ofNat (v / 64 % 64 + 128))
        (UInt8.ofNat (v % 64 + 128)) := by
      simp only [FourBytes, UInt8.toNat_ofNat']
      split_ifs <;> omega
    have hpoint : fourPoint (UInt8.ofNat (v / 262144 % 8 + 240))
        (UInt8.ofNat (v / 4096 % 64 + 128)) (UInt8.ofNat (v / 64 % 64 + 128))
        (UInt8.ofNat (v % 64 + 128)) = v := by
      simp only [fourPoint, UInt8.toNat_ofNat']
      omega
    have h := four hbytes
    rwa [hpoint] at h

theorem of_decodeChar {bytes : List UInt8} {c : Char} {n : Nat}
    (h : decodeChar bytes = .ok (c, n)) :
    exists sequence rest : List UInt8,
      Sequence c sequence ∧ bytes = sequence ++ rest ∧ n = sequence.length := by
  cases bytes with
  | nil => simp [decodeChar] at h
  | cons a rest =>
      by_cases ha : a.toNat < 0x80
      · rw [decodeChar_one ha] at h
        cases h
        exact ⟨[a], rest, one ha, rfl, rfl⟩
      · have hlow : ¬ a < 0x80 := by rwa [UInt8.lt_iff_toNat_lt]
        cases hlead : leadInfo a with
        | none => simp [decodeChar, hlow, hlead] at h
        | some info =>
            rcases info with ⟨low, high, more⟩
            cases rest with
            | nil => simp [decodeChar, hlow, hlead] at h
            | cons b rest =>
                simp only [decodeChar, hlow, if_false, hlead] at h
                split_ifs at h with hrange
                have hb : low.toNat ≤ b.toNat ∧ b.toNat ≤ high.toNat := by
                  simpa [UInt8.le_iff_toNat_le] using hrange
                rcases range_of_leadInfo hlead with
                  ⟨rfl, ha', hends⟩ | ⟨rfl, ha', hends⟩ | ⟨rfl, ha', hends⟩
                · cases h
                  have hbits : leadBits a = a.toNat % 32 := by
                    rw [leadBits, if_pos (UInt8.lt_iff_toNat_lt.mpr (by simp; omega))]
                  have hbytes : TwoBytes a b := ⟨ha', by omega⟩
                  rw [hbits]
                  exact ⟨[a, b], rest, two hbytes, rfl, rfl⟩
                · have hbits : leadBits a = a.toNat % 16 := by
                    rw [leadBits, if_neg (by rw [UInt8.lt_iff_toNat_lt]; simp; omega),
                      if_pos (UInt8.lt_iff_toNat_lt.mpr (by simp; omega))]
                  cases rest with
                  | nil => simp at h
                  | cons x rest =>
                      simp only at h
                      split_ifs at h with hx
                      cases h
                      have hbytes : ThreeBytes a b x :=
                        ⟨ha', by omega, isContinuation_iff.mp hx⟩
                      rw [hbits]
                      exact ⟨[a, b, x], rest, three hbytes, rfl, rfl⟩
                · have hbits : leadBits a = a.toNat % 8 := by
                    rw [leadBits, if_neg (by rw [UInt8.lt_iff_toNat_lt]; simp; omega),
                      if_neg (by rw [UInt8.lt_iff_toNat_lt]; simp; omega)]
                  cases rest with
                  | nil => simp at h
                  | cons x rest =>
                      simp only at h
                      split_ifs at h with hx
                      cases rest with
                      | nil => simp at h
                      | cons y rest =>
                          simp only at h
                          split_ifs at h with hy
                          cases h
                          have hbytes : FourBytes a b x y :=
                            ⟨ha', by omega, isContinuation_iff.mp (by simpa using hx),
                              isContinuation_iff.mp hy⟩
                          rw [hbits]
                          exact ⟨[a, b, x, y], rest, four hbytes, rfl, rfl⟩

end Sequence

/-!
## Whole texts
-/

theorem decodeChar_encodeChar (c : Char) (rest : List UInt8) :
    decodeChar (String.utf8EncodeChar c ++ rest) =
      .ok (c, (String.utf8EncodeChar c).length) :=
  (Sequence.of_encodeChar c).decodeChar_append rest

theorem decodeChar_eq_ok {bytes : List UInt8} {c : Char} {n : Nat}
    (h : decodeChar bytes = .ok (c, n)) :
    bytes = String.utf8EncodeChar c ++ bytes.drop n ∧ 0 < n := by
  rcases Sequence.of_decodeChar h with ⟨sequence, rest, hsequence, hbytes, hn⟩
  have hdrop : bytes.drop n = rest := by
    rw [hbytes, hn, List.drop_left]
  constructor
  · rw [hdrop, hsequence.encodeChar_eq, hbytes]
  · rw [hn]
    exact hsequence.length_pos

theorem decodeCharsFrom_succ {bytes : List UInt8} (fuel offset : Nat) (h : bytes ≠ []) :
    decodeCharsFrom (fuel + 1) offset bytes =
      match decodeChar bytes with
      | .error skip => .error { validUpTo := offset, skip := skip }
      | .ok (c, n) =>
          match decodeCharsFrom fuel (offset + n) (bytes.drop n) with
          | .error fault => .error fault
          | .ok cs => .ok (c :: cs) := by
  cases bytes with
  | nil => exact absurd rfl h
  | cons a rest => rfl

theorem decodeCharsFrom_encode (cs : List Char) (fuel offset : Nat)
    (hfuel : (cs.flatMap String.utf8EncodeChar).length ≤ fuel) :
    decodeCharsFrom fuel offset (cs.flatMap String.utf8EncodeChar) = .ok cs := by
  induction cs generalizing fuel offset with
  | nil => simp [decodeCharsFrom]
  | cons c cs ih =>
      have hpos : 0 < (String.utf8EncodeChar c).length := (Sequence.of_encodeChar c).length_pos
      have hchar := decodeChar_encodeChar c (cs.flatMap String.utf8EncodeChar)
      rw [List.flatMap_cons, List.length_append] at hfuel
      cases fuel with
      | zero => omega
      | succ fuel =>
          have hrest := ih fuel (offset + (String.utf8EncodeChar c).length) (by omega)
          have hne : String.utf8EncodeChar c ++ cs.flatMap String.utf8EncodeChar ≠ [] := by
            intro hnil
            rw [List.append_eq_nil_iff] at hnil
            simp [hnil.left] at hpos
          rw [List.flatMap_cons, decodeCharsFrom_succ fuel offset hne, hchar]
          simp only [List.drop_left, hrest]

theorem encode_of_decodeCharsFrom {fuel offset : Nat} {bytes : List UInt8} {cs : List Char}
    (h : decodeCharsFrom fuel offset bytes = .ok cs) :
    bytes = cs.flatMap String.utf8EncodeChar := by
  induction fuel generalizing offset bytes cs with
  | zero =>
      cases bytes with
      | nil =>
          cases h
          rfl
      | cons a rest => simp [decodeCharsFrom] at h
  | succ fuel ih =>
      cases bytes with
      | nil =>
          cases h
          rfl
      | cons a rest =>
          rw [decodeCharsFrom_succ fuel offset (List.cons_ne_nil a rest)] at h
          cases hchar : decodeChar (a :: rest) with
          | error skip => simp [hchar] at h
          | ok result =>
              rcases result with ⟨c, n⟩
              simp only [hchar] at h
              cases hrest : decodeCharsFrom fuel (offset + n) ((a :: rest).drop n) with
              | error fault => simp [hrest] at h
              | ok more =>
                  simp only [hrest] at h
                  cases h
                  rw [List.flatMap_cons, ← ih hrest]
                  exact (decodeChar_eq_ok hchar).left

theorem decodeUtf8_utf8Bytes (s : String) : decodeUtf8 (utf8Bytes s) = .ok s := by
  rw [decodeUtf8, utf8Bytes, decodeCharsFrom_encode s.toList _ 0 (Nat.le_refl _)]
  simp only [String.ofList_toList]

/-- Bytes are text exactly when they are its encoding. -/
theorem decodeUtf8_eq_ok_iff {bytes : List UInt8} {s : String} :
    decodeUtf8 bytes = .ok s <-> bytes = utf8Bytes s := by
  constructor
  · intro h
    unfold decodeUtf8 at h
    cases hchars : decodeCharsFrom bytes.length 0 bytes with
    | error fault => simp [hchars] at h
    | ok cs =>
        simp only [hchars] at h
        cases h
        rw [utf8Bytes, String.toList_ofList]
        exact encode_of_decodeCharsFrom hchars
  · intro h
    rw [h]
    exact decodeUtf8_utf8Bytes s

end Text
end Troupe
