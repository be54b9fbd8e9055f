import Troupe.Text.Hex

/-!
# Actor ids

An actor is known by a 128-bit number, written as thirty-two hexadecimal digits
in five groups.
-/

namespace Troupe

structure ActorId where
  bits : BitVec 128
deriving DecidableEq, Repr

namespace ActorId

def ofNat (n : Nat) : ActorId :=
  { bits := BitVec.ofNat 128 n }

def less (a b : ActorId) : Bool :=
  a.bits.toNat < b.bits.toNat

/-- Splits off pieces of the given lengths; the rest is the last piece. -/
def pieces : List Nat -> List Char -> List (List Char)
  | [], cs => [cs]
  | n :: rest, cs => cs.take n :: pieces rest (cs.drop n)

def text (id : ActorId) : String :=
  String.ofList ((pieces [8, 4, 4, 4] (Text.hexFixed 32 id.bits.toNat)).intersperse ['-']).flatten

/-!
## Reading
-/

def ofDigits? (digits : List Char) : Option ActorId :=
  if digits.length = 32 then (Text.hexNumber? digits).map ofNat
  else none

def ofGroups? (cs : List Char) : Option ActorId :=
  let groups := cs.splitOn '-'
  if groups.map List.length = [8, 4, 4, 4, 12] then ofDigits? groups.flatten
  else none

/-- An id may also be given without hyphens, in braces, or as a name in the
`urn:uuid:` space. -/
def parse? (s : String) : Option ActorId :=
  match s.toList with
  | 'u' :: 'r' :: 'n' :: ':' :: 'u' :: 'u' :: 'i' :: 'd' :: ':' :: cs => ofGroups? cs
  | '\x7b' :: cs =>
      if cs.getLast? = some '\x7d' then ofGroups? cs.dropLast
      else none
  | cs =>
      match ofDigits? cs with
      | some id => some id
      | none => ofGroups? cs

end ActorId
end Troupe
