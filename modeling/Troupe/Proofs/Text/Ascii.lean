import Troupe.Text.Utf8

/-!
# Bytes of character lists

Text is written as a list of characters and read as bytes.  A character of ASCII
is one byte, its own number.
-/

namespace Troupe
namespace Text

def bytesOf (cs : List Char) : List UInt8 :=
  cs.flatMap String.utf8EncodeChar

theorem utf8Bytes_ofList (cs : List Char) : utf8Bytes (String.ofList cs) = bytesOf cs := by
  rw [utf8Bytes, String.toList_ofList, bytesOf]

theorem bytesOf_toList (s : String) : bytesOf s.toList = utf8Bytes s := by
  rfl

theorem bytesOf_cons (c : Char) (cs : List Char) :
    bytesOf (c :: cs) = String.utf8EncodeChar c ++ bytesOf cs := by
  rfl

theorem bytesOf_append (cs cs' : List Char) : bytesOf (cs ++ cs') = bytesOf cs ++ bytesOf cs' :=
  List.flatMap_append

def asciiByte (c : Char) : UInt8 :=
  UInt8.ofNat c.toNat

theorem utf8EncodeChar_of_ascii {c : Char} (h : c.toNat < 128) :
    String.utf8EncodeChar c = [asciiByte c] := by
  have hval : c.val.toNat ≤ 0x7f := Nat.le_of_lt_succ h
  unfold String.utf8EncodeChar
  rw [if_pos hval]
  rfl

theorem bytesOf_ascii {cs : List Char} (h : forall c : Char, c ∈ cs -> c.toNat < 128) :
    bytesOf cs = cs.map asciiByte := by
  induction cs with
  | nil => rfl
  | cons c rest ih =>
      have hrest := ih (fun c' hmem => h c' (List.mem_cons_of_mem c hmem))
      rw [bytesOf_cons, utf8EncodeChar_of_ascii (h c List.mem_cons_self), hrest]
      rfl

theorem toNat_asciiByte {c : Char} (h : c.toNat < 128) : (asciiByte c).toNat = c.toNat :=
  UInt8.toNat_ofNat_of_lt' (Nat.lt_trans h (by decide))

end Text
end Troupe
