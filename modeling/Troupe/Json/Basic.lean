import Troupe.Text.Base64
import Troupe.Tree.Basic

/-!
# JSON documents

The document model between value trees and JSON text, and between value trees and
typed records.  It differs from trees in two places: JSON has no byte strings and
no float that is not finite, and its integers reach from `-2 ^ 63` to
`2 ^ 64 - 1`.

## Conversions

`Tree.toJson` writes bytes as Base64 text and a float that is not finite as
null.  `Json.toTree` turns a natural number beyond the signed range into the
nearest float.  All other leaves correspond one to one.
-/

namespace Troupe

open Number

/-- A JSON number: an unsigned integer, a negative one, or a finite float. -/
inductive JsonNumber where
  | natural (n : UInt64)
  | negative (i : Int64)
  | real (x : Binary64)
deriving DecidableEq, Repr

inductive Json where
  | null
  | bool (b : Bool)
  | number (n : JsonNumber)
  | string (s : String)
  | array (items : List Json)
  | object (members : List (String × Json))
deriving Inhabited

namespace Json

def ofNat (n : Nat) : Json :=
  number (JsonNumber.natural (UInt64.ofNat n))

def ofInt64 (i : Int64) : Json :=
  if i < 0 then number (JsonNumber.negative i)
  else number (JsonNumber.natural i.toUInt64)

end Json

/-!
## From trees and back
-/

namespace Tree

mutual

def toJson : Tree -> Json
  | null => Json.null
  | bool b => Json.bool b
  | integer i => Json.ofInt64 i
  | float x => if x.isFinite then Json.number (JsonNumber.real x) else Json.null
  | string s => Json.string s
  | bytes b => Json.string (Text.base64 b)
  | map es => Json.object (toJsonEntries es)
  | array xs => Json.array (toJsonItems xs)

def toJsonEntries : List (String × Tree) -> List (String × Json)
  | [] => []
  | (k, t) :: rest => (k, toJson t) :: toJsonEntries rest

def toJsonItems : List Tree -> List Json
  | [] => []
  | t :: rest => toJson t :: toJsonItems rest

end

end Tree

def JsonNumber.toTree : JsonNumber -> Tree
  | natural n =>
      if n.toNat < 0x8000000000000000 then Tree.integer n.toInt64
      else Tree.float (Binary64.ofInt n.toNat)
  | negative i => Tree.integer i
  | real x => Tree.float x

namespace Json

mutual

def toTree : Json -> Tree
  | null => Tree.null
  | bool b => Tree.bool b
  | number n => n.toTree
  | string s => Tree.string s
  | array xs => Tree.array (toTreeItems xs)
  | object ms => Tree.map (toTreeMembers ms)

def toTreeItems : List Json -> List Tree
  | [] => []
  | v :: rest => toTree v :: toTreeItems rest

def toTreeMembers : List (String × Json) -> List (String × Tree)
  | [] => []
  | (k, v) :: rest => (k, toTree v) :: toTreeMembers rest

end

end Json
end Troupe
