import Troupe.Unicode.Identifier

/-!
# Paths

A path addresses a place in a value tree by the keys that lead there from the
root.  It is written as segments between slashes; empty segments are ignored, so
`a//b/` is the same path as `a/b`, and the empty path addresses the root.

## Segments and keys

A segment is either made of ASCII digits or an identifier.  Digits in canonical
form, that is without a leading zero and below `2 ^ 64`, are an index; every
other segment is the name of a field.  Where a map meets an index, the index
counts as the field named by its decimal digits.
-/

namespace Troupe

inductive Key where
  | field (name : String)
  | index (position : Nat)
deriving DecidableEq, Repr

namespace Key

/-- The map entry that the key addresses; also the key's text. -/
def fieldName : Key -> String
  | field name => name
  | index position => toString position

end Key

inductive SegmentFault where
  | badStart
  | badCharacter (c : Char)
  | stated (text : String)
deriving DecidableEq, Repr

def SegmentFault.message : SegmentFault -> String
  | badStart => "must start with a letter or underscore followed by letter/digit"
  | badCharacter c => "invalid character '" ++ String.singleton c ++ "' in identifier"
  | stated text => text

/-- Why a text is not a path.  Positions count the segments that are not empty. -/
inductive PathError where
  | invalidSegment (segment : String) (position : Nat) (fault : SegmentFault)
  | invalidPath (text : String)
deriving DecidableEq, Repr

def PathError.message : PathError -> String
  | invalidSegment segment position fault =>
      "invalid path segment '" ++ segment ++ "' at position " ++ toString position ++ ": " ++
        fault.message
  | invalidPath text => "invalid path: " ++ text

/-!
## Reading segments

The identifier classes are a parameter: the rules below need nothing of them.
-/

/-- The characters that may start an identifier and those that may continue one. -/
structure IdentifierClasses where
  starts : Char -> Bool
  continues : Char -> Bool

namespace IdentifierClasses

def unicode : IdentifierClasses :=
  { starts := Unicode.isXidStart, continues := Unicode.isXidContinue }

/-- An underscore starts an identifier only if something follows that may
continue it. -/
def startsWell (classes : IdentifierClasses) : List Char -> Bool
  | [] => false
  | first :: rest =>
      classes.starts first || (first == '_' && rest.head?.any classes.continues)

def fault? (classes : IdentifierClasses) (segment : List Char) : Option SegmentFault :=
  if segment.all Char.isDigit then none
  else if !classes.startsWell segment then some SegmentFault.badStart
  else (segment.tail.find? fun c => !classes.continues c).map SegmentFault.badCharacter

end IdentifierClasses

structure Path where
  segments : List String
deriving DecidableEq, Repr

namespace Path

def pieces (s : String) : List (List Char) :=
  (s.toList.splitOn '/').filter fun piece => !piece.isEmpty

def firstFault? (classes : IdentifierClasses) : Nat -> List (List Char) -> Option PathError
  | _, [] => none
  | position, segment :: rest =>
      match classes.fault? segment with
      | some fault =>
          some (PathError.invalidSegment (String.ofList segment) position fault)
      | none => firstFault? classes (position + 1) rest

def parseWith (classes : IdentifierClasses) (s : String) : Except PathError Path :=
  match firstFault? classes 0 (pieces s) with
  | some error => .error error
  | none => .ok { segments := (pieces s).map String.ofList }

def parse (s : String) : Except PathError Path :=
  parseWith IdentifierClasses.unicode s

def root : Path :=
  { segments := [] }

def text (path : Path) : String :=
  "/".intercalate path.segments

def length (path : Path) : Nat :=
  path.segments.length

def isEmpty (path : Path) : Bool :=
  path.segments.isEmpty

def join (path other : Path) : Path :=
  { segments := path.segments ++ other.segments }

def withoutPlus : List Char -> List Char
  | '+' :: rest => rest
  | cs => cs

/-- The number below `2 ^ 64` that a segment writes in decimal digits.  A plus sign may
stand before them, though no segment that is read begins with one. -/
def position? (segment : String) : Option Nat :=
  let digits := withoutPlus segment.toList
  if !digits.isEmpty && digits.all Char.isDigit then
    let position := Nat.ofDigitChars 10 digits 0
    if position < 0x10000000000000000 then some position else none
  else none

def keyOfSegment (segment : String) : Key :=
  let canonical := segment == "0" || segment.toList.head? != some '0'
  match position? segment with
  | some position => if canonical then Key.index position else Key.field segment
  | none => Key.field segment

def keys (path : Path) : List Key :=
  path.segments.map keyOfSegment

/-- The path without its last segment, and the key of that segment. -/
def splitLast? (path : Path) : Option (Path × Key) :=
  path.segments.getLast?.map fun last =>
    ({ segments := path.segments.dropLast }, keyOfSegment last)

/-- Paths are ordered segment by segment, a path before its extensions. -/
def compareSegments : List String -> List String -> Ordering
  | [], [] => Ordering.eq
  | [], _ :: _ => Ordering.lt
  | _ :: _, [] => Ordering.gt
  | a :: as, b :: bs => (compare a b).then (compareSegments as bs)

def order (path other : Path) : Ordering :=
  compareSegments path.segments other.segments

end Path
end Troupe
