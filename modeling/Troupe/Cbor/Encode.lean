import Troupe.Text.Utf8
import Troupe.Tree.Basic

/-!
# Trees in CBOR

Every tree has exactly one encoding: integers and lengths take the shortest head,
lengths are definite, floats take eight bytes, and map entries keep their order.

An item starts with a head, whose first byte holds the major type in its upper
three bits and, in the lower five, either a small argument or the width of the
argument that follows.
-/

namespace Troupe
namespace Cbor

open Number

/-- The last `width` bytes of a number, the most significant first. -/
def bigEndian : Nat -> Nat -> List UInt8
  | 0, _ => []
  | width + 1, n => bigEndian width (n / 256) ++ [UInt8.ofNat n]

inductive Major where
  | unsigned
  | negative
  | bytes
  | text
  | array
  | map
  | tag
  | simple
deriving DecidableEq, Repr

def Major.code : Major -> Nat
  | unsigned => 0
  | negative => 1
  | bytes => 2
  | text => 3
  | array => 4
  | map => 5
  | tag => 6
  | simple => 7

/-- A head of the shortest width for its argument. -/
def head (major : Major) (n : Nat) : List UInt8 :=
  let lead (info : Nat) : UInt8 := UInt8.ofNat (major.code * 32 + info)
  if n < 24 then [lead n]
  else if n < 0x100 then lead 24 :: bigEndian 1 n
  else if n < 0x10000 then lead 25 :: bigEndian 2 n
  else if n < 0x100000000 then lead 26 :: bigEndian 4 n
  else lead 27 :: bigEndian 8 n

def encodeInteger (i : Int64) : List UInt8 :=
  if i.toInt < 0 then head Major.negative (-1 - i.toInt).toNat
  else head Major.unsigned i.toInt.toNat

def encodeText (s : String) : List UInt8 :=
  let bytes := Text.utf8Bytes s
  head Major.text bytes.length ++ bytes

mutual

def encode : Tree -> List UInt8
  | Tree.null => [0xf6]
  | Tree.bool false => [0xf4]
  | Tree.bool true => [0xf5]
  | Tree.integer i => encodeInteger i
  | Tree.float x => 0xfb :: bigEndian 8 x.bits.toNat
  | Tree.string s => encodeText s
  | Tree.bytes b => head Major.bytes b.length ++ b
  | Tree.array xs => head Major.array xs.length ++ encodeItems xs
  | Tree.map es => head Major.map es.length ++ encodeEntries es

def encodeItems : List Tree -> List UInt8
  | [] => []
  | t :: rest => encode t ++ encodeItems rest

def encodeEntries : List (String × Tree) -> List UInt8
  | [] => []
  | (k, t) :: rest => encodeText k ++ (encode t ++ encodeEntries rest)

end

end Cbor
end Troupe
