import Troupe.Proofs.Cbor.Heads

/-!
# The grammar of accepted CBOR

`Encodes t bytes` says that the bytes are one data item for the tree, in any of
the spellings that are accepted: heads of every width, floats of every width.
Tags, indefinite lengths, the remaining simple values, reserved heads, and map
keys that are not distinct texts have no rule.  Nesting is not bounded here.

What the writer produces lies in the grammar, except where a length does not fit
into a head.
-/

namespace Troupe
namespace Cbor

open Number

mutual

inductive Encodes : Tree -> List UInt8 -> Prop where
  | null : Encodes Tree.null [0xf6]
  | no : Encodes (Tree.bool false) [0xf4]
  | yes : Encodes (Tree.bool true) [0xf5]
  | unsigned {i : Int64} {n : Nat} {head : List UInt8} :
      Head Major.unsigned n head -> i.toInt = n -> Encodes (Tree.integer i) head
  | negative {i : Int64} {n : Nat} {head : List UInt8} :
      Head Major.negative n head -> i.toInt = -1 - n -> Encodes (Tree.integer i) head
  | half (bits : UInt16) :
      Encodes (Tree.float (Binary64.widen BinaryFormat.binary16 bits.toNat))
        (0xf9 :: bigEndian 2 bits.toNat)
  | single (bits : UInt32) :
      Encodes (Tree.float (Binary64.widen BinaryFormat.binary32 bits.toNat))
        (0xfa :: bigEndian 4 bits.toNat)
  | double (x : Binary64) : Encodes (Tree.float x) (0xfb :: bigEndian 8 x.bits.toNat)
  | string {s : String} {head : List UInt8} :
      Head Major.text (Text.utf8Bytes s).length head ->
        Encodes (Tree.string s) (head ++ Text.utf8Bytes s)
  | bytes {b head : List UInt8} :
      Head Major.bytes b.length head -> Encodes (Tree.bytes b) (head ++ b)
  | array {items : List Tree} {head body : List UInt8} :
      Head Major.array items.length head -> EncodesItems items body ->
        Encodes (Tree.array items) (head ++ body)
  | map {entries : Entries Tree} {head body : List UInt8} :
      Entries.Unique entries -> Head Major.map entries.length head ->
        EncodesEntries entries body -> Encodes (Tree.map entries) (head ++ body)

inductive EncodesItems : List Tree -> List UInt8 -> Prop where
  | nil : EncodesItems [] []
  | cons {t : Tree} {rest : List Tree} {item body : List UInt8} :
      Encodes t item -> EncodesItems rest body -> EncodesItems (t :: rest) (item ++ body)

inductive EncodesEntries : Entries Tree -> List UInt8 -> Prop where
  | nil : EncodesEntries [] []
  | cons {k : String} {t : Tree} {rest : Entries Tree} {head item body : List UInt8} :
      Head Major.text (Text.utf8Bytes k).length head -> Encodes t item ->
        EncodesEntries rest body ->
        EncodesEntries ((k, t) :: rest) (head ++ Text.utf8Bytes k ++ (item ++ body))

end

/-!
## Sizes

Items are not empty, so a container never declares more of them than there are
bytes after its head; a map entry takes at least two.
-/

theorem Encodes.length_pos {t : Tree} {bytes : List UInt8} (h : Encodes t bytes) :
    0 < bytes.length := by
  cases h with
  | null => simp
  | no => simp
  | yes => simp
  | unsigned hhead => exact hhead.length_pos
  | negative hhead => exact hhead.length_pos
  | half => simp
  | single => simp
  | double => simp
  | string hhead => exact Nat.lt_of_lt_of_le hhead.length_pos (by simp)
  | bytes hhead => exact Nat.lt_of_lt_of_le hhead.length_pos (by simp)
  | array hhead => exact Nat.lt_of_lt_of_le hhead.length_pos (by simp)
  | map _ hhead => exact Nat.lt_of_lt_of_le hhead.length_pos (by simp)

theorem EncodesItems.length_le {items : List Tree} {body : List UInt8}
    (h : EncodesItems items body) : items.length ≤ body.length := by
  induction items generalizing body with
  | nil => simp
  | cons t rest ih =>
      cases h with
      | cons hitem hrest =>
          have hpos := hitem.length_pos
          have hle := ih hrest
          simp only [List.length_cons, List.length_append]
          omega

theorem EncodesEntries.length_le {entries : Entries Tree} {body : List UInt8}
    (h : EncodesEntries entries body) : entries.length * 2 ≤ body.length := by
  induction entries generalizing body with
  | nil => simp
  | cons entry rest ih =>
      cases h with
      | cons hkey hitem hrest =>
          have hkeyPos := hkey.length_pos
          have hpos := hitem.length_pos
          have hle := ih hrest
          simp only [List.length_cons, List.length_append]
          omega

/-!
## The writer's spelling
-/

mutual

/-- Every text, byte string, and container in the tree has a length of at most
64 bits. -/
def Measured : Tree -> Prop
  | Tree.string s => (Text.utf8Bytes s).length < 2 ^ 64
  | Tree.bytes b => b.length < 2 ^ 64
  | Tree.array xs => xs.length < 2 ^ 64 ∧ MeasuredItems xs
  | Tree.map es => es.length < 2 ^ 64 ∧ MeasuredEntries es
  | _ => True

def MeasuredItems : List Tree -> Prop
  | [] => True
  | t :: rest => Measured t ∧ MeasuredItems rest

def MeasuredEntries : List (String × Tree) -> Prop
  | [] => True
  | (k, t) :: rest => (Text.utf8Bytes k).length < 2 ^ 64 ∧ Measured t ∧ MeasuredEntries rest

end

theorem encodes_encodeInteger (i : Int64) : Encodes (Tree.integer i) (encodeInteger i) := by
  have hlow : -2 ^ 63 ≤ i.toInt := Int64.le_toInt i
  have hhigh : i.toInt < 2 ^ 63 := Int64.toInt_lt i
  unfold encodeInteger
  by_cases hneg : i.toInt < 0
  · rw [if_pos hneg]
    exact Encodes.negative (head_shortest _ (by omega)) (by omega)
  · rw [if_neg hneg]
    exact Encodes.unsigned (head_shortest _ (by omega)) (by omega)

mutual

theorem encodes_encode :
    forall {t : Tree}, t.UniqueKeys -> Measured t -> Encodes t (encode t)
  | Tree.null, _, _ => Encodes.null
  | Tree.bool false, _, _ => Encodes.no
  | Tree.bool true, _, _ => Encodes.yes
  | Tree.integer i, _, _ => encodes_encodeInteger i
  | Tree.float x, _, _ => Encodes.double x
  | Tree.string _, _, hlength => Encodes.string (head_shortest _ hlength)
  | Tree.bytes _, _, hlength => Encodes.bytes (head_shortest _ hlength)
  | Tree.array _, hunique, ⟨hlength, hitems⟩ =>
      Encodes.array (head_shortest _ hlength) (encodesItems_encodeItems hunique hitems)
  | Tree.map _, ⟨hkeys, hunique⟩, ⟨hlength, hentries⟩ =>
      Encodes.map hkeys (head_shortest _ hlength)
        (encodesEntries_encodeEntries hunique hentries)

theorem encodesItems_encodeItems :
    forall {items : List Tree}, Tree.UniqueKeysItems items -> MeasuredItems items ->
      EncodesItems items (encodeItems items)
  | [], _, _ => EncodesItems.nil
  | _ :: _, ⟨hunique, huniqueRest⟩, ⟨hmeasured, hmeasuredRest⟩ =>
      EncodesItems.cons (encodes_encode hunique hmeasured)
        (encodesItems_encodeItems huniqueRest hmeasuredRest)

theorem encodesEntries_encodeEntries :
    forall {entries : Entries Tree}, Tree.UniqueKeysEntries entries ->
      MeasuredEntries entries -> EncodesEntries entries (encodeEntries entries)
  | [], _, _ => EncodesEntries.nil
  | (_, _) :: _, ⟨hunique, huniqueRest⟩, ⟨hkey, hmeasured, hmeasuredRest⟩ =>
      EncodesEntries.cons (head_shortest _ hkey) (encodes_encode hunique hmeasured)
        (encodesEntries_encodeEntries huniqueRest hmeasuredRest)

end

end Cbor
end Troupe
