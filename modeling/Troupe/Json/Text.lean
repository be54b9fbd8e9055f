import Troupe.Json.Basic
import Troupe.Number.FloatText
import Troupe.Text.Hex

/-!
# JSON text, written

Two layouts: compact, without any blank, and pretty, with two spaces per level
and one entry per line.  Empty containers are written `[]` and an empty pair of
braces in both.

## Strings

Quotes, backslashes and the characters below U+0020 are escaped, five of those
with a letter; every other character is written as it is.
-/

namespace Troupe

open Number

namespace Json

def escapeChar (c : Char) : List Char :=
  if c == '"' then ['\\', '"']
  else if c == '\\' then ['\\', '\\']
  else if c == '\x08' then ['\\', 'b']
  else if c == '\t' then ['\\', 't']
  else if c == '\n' then ['\\', 'n']
  else if c == '\x0c' then ['\\', 'f']
  else if c == '\r' then ['\\', 'r']
  else if c.toNat < 0x20 then '\\' :: 'u' :: Text.hexFixed 4 c.toNat
  else [c]

def writeString (s : String) : List Char :=
  '"' :: (s.toList.flatMap escapeChar ++ ['"'])

end Json

def JsonNumber.write : JsonNumber -> List Char
  | natural n => Nat.toDigits 10 n.toNat
  | negative i => '-' :: Nat.toDigits 10 i.toInt.natAbs
  | real x => (x.text FloatNotation.json).toList

namespace Json

def writeLeaf (word : String) : List Char :=
  word.toList

/-!
## Compact layout
-/

mutual

def writeCompact : Json -> List Char
  | null => writeLeaf "null"
  | bool true => writeLeaf "true"
  | bool false => writeLeaf "false"
  | number n => n.write
  | string s => writeString s
  | array xs => '[' :: (writeItems xs ++ [']'])
  | object ms => '\x7b' :: (writeMembers ms ++ ['\x7d'])

def writeItems : List Json -> List Char
  | [] => []
  | v :: rest => writeCompact v ++ writeMoreItems rest

def writeMoreItems : List Json -> List Char
  | [] => []
  | v :: rest => ',' :: (writeCompact v ++ writeMoreItems rest)

def writeMembers : List (String × Json) -> List Char
  | [] => []
  | (k, v) :: rest => writeString k ++ ':' :: (writeCompact v ++ writeMoreMembers rest)

def writeMoreMembers : List (String × Json) -> List Char
  | [] => []
  | (k, v) :: rest =>
      ',' :: (writeString k ++ ':' :: (writeCompact v ++ writeMoreMembers rest))

end

/-!
## Pretty layout
-/

def newLine (level : Nat) : List Char :=
  '\n' :: List.replicate (2 * level) ' '

mutual

/-- A value whose enclosing line is indented for `level`. -/
def writePretty (level : Nat) : Json -> List Char
  | null => writeLeaf "null"
  | bool true => writeLeaf "true"
  | bool false => writeLeaf "false"
  | number n => n.write
  | string s => writeString s
  | array [] => writeLeaf "[]"
  | array (v :: rest) =>
      '[' :: (newLine (level + 1) ++ writePretty (level + 1) v ++
        prettyMoreItems (level + 1) rest ++ newLine level ++ [']'])
  | object [] => ['\x7b', '\x7d']
  | object ((k, v) :: rest) =>
      '\x7b' :: (newLine (level + 1) ++ writeString k ++ [':', ' '] ++
        writePretty (level + 1) v ++ prettyMoreMembers (level + 1) rest ++ newLine level ++
        ['\x7d'])

def prettyMoreItems (level : Nat) : List Json -> List Char
  | [] => []
  | v :: rest => ',' :: (newLine level ++ writePretty level v ++ prettyMoreItems level rest)

def prettyMoreMembers (level : Nat) : List (String × Json) -> List Char
  | [] => []
  | (k, v) :: rest =>
      ',' :: (newLine level ++ writeString k ++ [':', ' '] ++ writePretty level v ++
        prettyMoreMembers level rest)

end

def compact (v : Json) : String :=
  String.ofList (writeCompact v)

def pretty (v : Json) : String :=
  String.ofList (writePretty 0 v)

end Json

def Tree.canonical (t : Tree) : String :=
  t.toJson.compact

def Tree.pretty (t : Tree) : String :=
  t.toJson.pretty

end Troupe
