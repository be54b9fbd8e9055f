import Troupe.Json.Reader
import Troupe.Json.Text
import Troupe.Proofs.Cursor
import Troupe.Proofs.Text.Ascii
import Troupe.Proofs.Text.Utf8

/-!
# Strings read back

Each character of a string is written either as its own bytes, none of which is
a quote, a backslash, or a control character, or as an escape that stands for it.
The reader undoes one character after the other.
-/

namespace Troupe
namespace Json

open Number Text

/-!
## Bytes that stand for themselves
-/

def Plain (b : UInt8) : Prop :=
  b ≠ 0x22 ∧ 0x20 ≤ b.toNat ∧ b ≠ 0x5c

theorem readStringBytes_plain {b : UInt8} (hb : Plain b) (done : List UInt8) (offset : Nat)
    (more : List UInt8) :
    readStringBytes done offset (b :: more) = readStringBytes (b :: done) (offset + 1) more := by
  rcases hb with ⟨hquote, hcontrol, hslash⟩
  have hblank : ¬ b < 0x20 := by
    rw [UInt8.lt_iff_toNat_lt]
    exact Nat.not_lt.mpr hcontrol
  rw [readStringBytes.eq_def]
  dsimp only
  rw [beq_eq_false_iff_ne.mpr hquote, if_neg Bool.false_ne_true, if_neg hblank,
    bne_iff_ne.mpr hslash, if_pos rfl]

theorem readStringBytes_plains {bs : List UInt8} (hbs : forall b : UInt8, b ∈ bs -> Plain b)
    (done : List UInt8) (offset : Nat) (more : List UInt8) :
    readStringBytes done offset (bs ++ more) =
      readStringBytes (bs.reverse ++ done) (offset + bs.length) more := by
  induction bs generalizing done offset with
  | nil => rfl
  | cons b rest ih =>
      have hrest := ih (fun b' hmem => hbs b' (List.mem_cons_of_mem b hmem)) (b :: done)
        (offset + 1)
      rw [List.cons_append, readStringBytes_plain (hbs b List.mem_cons_self), hrest,
        List.reverse_cons, List.append_assoc, List.length_cons]
      have hoffset : offset + 1 + rest.length = offset + (rest.length + 1) := by omega
      rw [hoffset]
      rfl

theorem plain_of_large {b : UInt8} (h : 0x80 ≤ b.toNat) : Plain b := by
  refine ⟨?_, by omega, ?_⟩
  · rintro rfl
    exact absurd h (by decide)
  · rintro rfl
    exact absurd h (by decide)

theorem plain_utf8EncodeChar {c : Char} (hquote : c ≠ '"') (hslash : c ≠ '\\')
    (hcontrol : ¬ c.toNat < 0x20) : forall b : UInt8, b ∈ String.utf8EncodeChar c -> Plain b := by
  by_cases hascii : c.toNat < 128
  · rw [utf8EncodeChar_of_ascii hascii]
    intro b hmem
    have hb := List.mem_singleton.mp hmem
    have hvalue : b.toNat = c.toNat := by
      rw [hb]
      exact toNat_asciiByte hascii
    refine ⟨?_, by omega, ?_⟩
    · rintro rfl
      exact hquote (Char.toNat_inj.mp hvalue.symm)
    · rintro rfl
      exact hslash (Char.toNat_inj.mp hvalue.symm)
  · have hlarge : forall b : UInt8, b ∈ String.utf8EncodeChar c -> 0x80 ≤ b.toNat := by
      have hsequence := Sequence.of_encodeChar c
      generalize String.utf8EncodeChar c = bytes at hsequence
      intro b hmem
      cases hsequence with
      | @one a ha =>
          rw [Char.toNat, Sequence.val_ofNat (by left; omega)] at hascii
          exact absurd ha hascii
      | two h =>
          rcases h with ⟨ha, hb⟩
          simp only [List.mem_cons, List.not_mem_nil, or_false] at hmem
          rcases hmem with rfl | rfl <;> omega
      | three h =>
          rcases h with ⟨ha, hb, hc⟩
          simp only [List.mem_cons, List.not_mem_nil, or_false] at hmem
          split_ifs at hb <;> rcases hmem with rfl | rfl | rfl <;> omega
      | four h =>
          rcases h with ⟨ha, hb, hc, hd⟩
          simp only [List.mem_cons, List.not_mem_nil, or_false] at hmem
          split_ifs at hb <;> rcases hmem with rfl | rfl | rfl | rfl <;> omega
    intro b hmem
    exact plain_of_large (hlarge b hmem)

/-!
## Escapes
-/

theorem readStringBytes_letter {letter x : UInt8} (hletter : letter ≠ 0x75)
    (hsimple : simpleEscape? letter = some x) (done : List UInt8) (offset : Nat)
    (more : List UInt8) :
    readStringBytes done offset (0x5c :: letter :: more) =
      readStringBytes (x :: done) (offset + 2) more := by
  rw [readStringBytes.eq_def]
  dsimp only
  rw [if_neg (by decide), if_neg (by decide), if_neg (by decide), bne_iff_ne.mpr hletter,
    if_pos rfl, hsimple]

theorem readStringBytes_hex {h1 h2 h3 h4 : UInt8} {unit : Nat}
    (hunit : hexUnit? h1 h2 h3 h4 = some unit) (hsmall : unit < 0xd800) (done : List UInt8)
    (offset : Nat) (more : List UInt8) :
    readStringBytes done offset (0x5c :: 0x75 :: h1 :: h2 :: h3 :: h4 :: more) =
      readStringBytes ((codePointBytes unit).reverse ++ done) (offset + 6) more := by
  have hrange : (decide (unit < 0xd800) || decide (0xdfff < unit)) = true := by
    rw [decide_eq_true hsmall, Bool.true_or]
  rw [readStringBytes.eq_def]
  dsimp only
  rw [if_neg (by decide), if_neg (by decide), if_neg (by decide), if_neg (by decide), hunit]
  dsimp only
  rw [if_pos hrange]

theorem hexUnit?_hexDigits {n : Nat} (hn : n < 0x20) :
    hexUnit? (asciiByte (hexDigit (n / 16 / 16 / 16))) (asciiByte (hexDigit (n / 16 / 16)))
      (asciiByte (hexDigit (n / 16))) (asciiByte (hexDigit n)) = some n := by
  revert n
  decide

theorem bytesOf_hexFixed {n : Nat} (hn : n < 0x20) :
    bytesOf (hexFixed 4 n) =
      [asciiByte (hexDigit (n / 16 / 16 / 16)), asciiByte (hexDigit (n / 16 / 16)),
        asciiByte (hexDigit (n / 16)), asciiByte (hexDigit n)] := by
  revert n
  decide

theorem readStringBytes_escapeChar (c : Char) (done : List UInt8) (offset : Nat)
    (more : List UInt8) :
    readStringBytes done offset (bytesOf (escapeChar c) ++ more) =
      readStringBytes ((String.utf8EncodeChar c).reverse ++ done)
        (offset + (bytesOf (escapeChar c)).length) more := by
  unfold escapeChar
  split_ifs with hquote hslash hbackspace htab hline hfeed hreturn hcontrol
  · rw [eq_of_beq hquote]
    exact readStringBytes_letter (by decide) rfl done offset more
  · rw [eq_of_beq hslash]
    exact readStringBytes_letter (by decide) rfl done offset more
  · rw [eq_of_beq hbackspace]
    exact readStringBytes_letter (by decide) rfl done offset more
  · rw [eq_of_beq htab]
    exact readStringBytes_letter (by decide) rfl done offset more
  · rw [eq_of_beq hline]
    exact readStringBytes_letter (by decide) rfl done offset more
  · rw [eq_of_beq hfeed]
    exact readStringBytes_letter (by decide) rfl done offset more
  · rw [eq_of_beq hreturn]
    exact readStringBytes_letter (by decide) rfl done offset more
  · have hbytes : codePointBytes c.toNat = String.utf8EncodeChar c := by
      rw [codePointBytes, Char.ofNat_toNat]
    rw [bytesOf_cons, bytesOf_cons, bytesOf_hexFixed hcontrol, ← hbytes]
    exact readStringBytes_hex (hexUnit?_hexDigits hcontrol) (by omega) done offset more
  · have hplain : forall b : UInt8, b ∈ String.utf8EncodeChar c -> Plain b := by
      apply plain_utf8EncodeChar
      · intro h
        exact hquote (beq_iff_eq.mpr h)
      · intro h
        exact hslash (beq_iff_eq.mpr h)
      · exact hcontrol
    have hself : bytesOf [c] = String.utf8EncodeChar c := List.append_nil _
    rw [hself]
    exact readStringBytes_plains hplain done offset more

/-!
## Whole strings
-/

theorem readStringBytes_escaped (cs : List Char) (done : List UInt8) (offset : Nat)
    (more : List UInt8) :
    readStringBytes done offset (bytesOf (cs.flatMap escapeChar) ++ more) =
      readStringBytes ((bytesOf cs).reverse ++ done)
        (offset + (bytesOf (cs.flatMap escapeChar)).length) more := by
  induction cs generalizing done offset with
  | nil => rfl
  | cons c rest ih =>
      rw [List.flatMap_cons, bytesOf_append, List.append_assoc, readStringBytes_escapeChar, ih,
        bytesOf_cons, List.reverse_append, List.append_assoc, List.length_append, Nat.add_assoc]

def quoted (s : String) : List UInt8 :=
  bytesOf (writeString s)

theorem quoted_eq (s : String) :
    quoted s = 0x22 :: (bytesOf (s.toList.flatMap escapeChar) ++ [0x22]) := by
  rw [quoted, writeString, bytesOf_cons, bytesOf_append]
  rfl

theorem readString_eq {c after : Cursor} {s : String} (hreads : c.Reads (quoted s) after) :
    c.rest.head? = some 0x22 ∧ readString c.next = .ok (s, after) := by
  rw [quoted_eq] at hreads
  rcases Cursor.reads_cons_iff.mp hreads with ⟨hhead, hrest, hoffset⟩
  refine ⟨hhead, ?_⟩
  have hafter : after = { rest := after.rest
                          offset := c.next.offset +
                            (bytesOf (s.toList.flatMap escapeChar)).length + 1 } := by
    cases after
    rw [List.length_append, List.length_singleton] at hoffset
    dsimp only at hoffset
    rw [hoffset, Nat.add_assoc]
  have hbytes : readStringBytes [] c.next.offset c.next.rest = .ok (utf8Bytes s, after) := by
    rw [hrest, List.append_assoc, readStringBytes_escaped, List.append_nil, List.singleton_append,
      readStringBytes.eq_def]
    dsimp only
    rw [if_pos (by decide), List.reverse_reverse, bytesOf_toList, ← hafter]
  unfold readString
  refine bind_eq_ok_iff.mpr ⟨_, hbytes, ?_⟩
  dsimp only
  rw [decodeUtf8_utf8Bytes]
  rfl

end Json
end Troupe
