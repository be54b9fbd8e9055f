import Troupe.Cbor.Encode
import Troupe.Cursor

/-!
# CBOR, read

A reader for one data item that accepts more spellings than are written (longer
heads, shorter floats) but only what a tree can hold: no tags, no indefinite
lengths, no simple values besides the booleans and null, no map keys other than
distinct texts, no integers beyond 64 signed bits.

Two guards protect it from hostile input: containers nest at most `maxDepth`
deep, and a declared length is refused at once if the bytes left could not hold
that many items.

## Errors

Each error carries the offset it is reported at.  What an item is, is decided by
its first byte; a byte counts as read once its item is under way.
-/

namespace Troupe
namespace Cbor

open Number

/-- Containers nested deeper than this are refused. -/
def maxDepth : Nat := 64

/-- What the first byte of an item announces. -/
inductive ItemType where
  | null
  | bool (b : Bool)
  | unsigned
  | negative
  | half
  | single
  | double
  | bytes
  | text
  | array
  | map
  | tag
  | undefined
  | simple
  | indefiniteBytes
  | indefiniteText
  | indefiniteArray
  | indefiniteMap
  | endMark
  | reserved (byte : UInt8)
deriving DecidableEq, Repr

def ItemType.label : ItemType -> String
  | null => "null"
  | bool _ => "bool"
  | unsigned => "u64"
  | negative => "i64"
  | half => "f16"
  | single => "f32"
  | double => "f64"
  | bytes => "bytes"
  | text => "string"
  | array => "array"
  | map => "map"
  | tag => "tag"
  | undefined => "undefined"
  | simple => "simple"
  | indefiniteBytes => "indefinite bytes"
  | indefiniteText => "indefinite string"
  | indefiniteArray => "indefinite array"
  | indefiniteMap => "indefinite map"
  | endMark => "break"
  | reserved byte => "0x" ++ String.ofList (Nat.toDigits 16 byte.toNat)

inductive CborError where
  | endOfInput (offset : Nat)
  | invalidUtf8 (start : Nat) (fault : Text.Utf8Fault) (offset : Nat)
  | trailingBytes (count : Nat)
  | integerTooLarge (offset : Nat)
  | tooDeep
  | unsupported (item : ItemType) (offset : Nat)
  | keyNotText (offset : Nat)
  | duplicateKey (key : String) (offset : Nat)
  | lengthTooLarge (length remaining : Nat)
deriving DecidableEq, Repr

def CborError.message : CborError -> String
  | endOfInput offset => "end of input bytes at offset " ++ toString offset
  | invalidUtf8 start fault offset =>
      "invalid utf-8 at position " ++ toString start ++ ": " ++ fault.message ++
        " at offset " ++ toString offset
  | trailingBytes count => toString count ++ " trailing bytes after top-level item"
  | integerTooLarge offset => "integer at offset " ++ toString offset ++ " exceeds i64"
  | tooDeep => "nesting exceeds " ++ toString maxDepth ++ " levels"
  | unsupported item offset =>
      item.label ++ " at offset " ++ toString offset ++ " is not supported"
  | keyNotText offset =>
      "map key at offset " ++ toString offset ++ " is not a definite text string"
  | duplicateKey key offset =>
      "duplicate map key '" ++ key ++ "' at offset " ++ toString offset
  | lengthTooLarge length remaining =>
      "declared length " ++ toString length ++ " exceeds the " ++ toString remaining ++
        " remaining bytes"

/-!
## First bytes
-/

/-- The type of an item by the lower five bits of its first byte, for the types
whose argument is a number. -/
def withArgument (definite indefinite : ItemType) (byte : UInt8) (info : Nat) : ItemType :=
  if info < 28 then definite
  else if info = 31 then indefinite
  else ItemType.reserved byte

def typeOfByte (byte : UInt8) : ItemType :=
  let info := byte.toNat % 32
  let reserved := ItemType.reserved byte
  match byte.toNat / 32 with
  | 0 => withArgument ItemType.unsigned reserved byte info
  | 1 => withArgument ItemType.negative reserved byte info
  | 2 => withArgument ItemType.bytes ItemType.indefiniteBytes byte info
  | 3 => withArgument ItemType.text ItemType.indefiniteText byte info
  | 4 => withArgument ItemType.array ItemType.indefiniteArray byte info
  | 5 => withArgument ItemType.map ItemType.indefiniteMap byte info
  | 6 => withArgument ItemType.tag reserved byte info
  | _ =>
      if info < 20 then ItemType.simple
      else if info = 20 then ItemType.bool false
      else if info = 21 then ItemType.bool true
      else if info = 22 then ItemType.null
      else if info = 23 then ItemType.undefined
      else if info = 24 then ItemType.simple
      else if info = 25 then ItemType.half
      else if info = 26 then ItemType.single
      else if info = 27 then ItemType.double
      else if info = 31 then ItemType.endMark
      else reserved

/-- Whether the first byte announces a negative integer with a wide argument,
whose size class depends on the byte after it. -/
def needsSecondByte (byte : UInt8) : Bool :=
  0x38 ≤ byte && byte ≤ 0x3b

/-- The type of the next item; nothing is read. -/
def itemType (c : Cursor) : Except CborError ItemType :=
  match c.rest with
  | [] => .error (CborError.endOfInput c.offset)
  | byte :: rest =>
      if needsSecondByte byte && rest.isEmpty then .error (CborError.endOfInput c.offset)
      else .ok (typeOfByte byte)

/-!
## Arguments and payloads
-/

def ofBigEndian (bytes : List UInt8) : Nat :=
  bytes.foldl (fun n b => n * 256 + b.toNat) 0

/-- The next `count` bytes, or none at all. -/
def takeBytes (count : Nat) (c : Cursor) : Except CborError (List UInt8 × Cursor) :=
  if count ≤ c.rest.length then .ok (c.rest.take count, c.advance count)
  else .error (CborError.endOfInput c.offset)

def readArgument (c : Cursor) : Except CborError (Nat × Cursor) :=
  match c.rest with
  | [] => .error (CborError.endOfInput c.offset)
  | byte :: _ =>
      let info := byte.toNat % 32
      if info < 24 then .ok (info, c.next)
      else do
        let (bytes, c) <- takeBytes (Nat.pow 2 (info - 24)) c.next
        return (ofBigEndian bytes, c)

def readBytes (c : Cursor) : Except CborError (List UInt8 × Cursor) := do
  let (length, c) <- readArgument c
  takeBytes length c

def readText (start : Cursor) : Except CborError (String × Cursor) := do
  let (bytes, c) <- readBytes start
  match Text.decodeUtf8 bytes with
  | .ok s => return (s, c)
  | .error fault => throw (CborError.invalidUtf8 start.offset fault c.offset)

def readFloat (width : Nat) (decode : Nat -> Binary64) (c : Cursor) :
    Except CborError (Tree × Cursor) := do
  let (bytes, c) <- takeBytes width c.next
  return (Tree.float (decode (ofBigEndian bytes)), c)

def readInteger (value : Nat -> Int) (start : Cursor) :
    Except CborError (Tree × Cursor) := do
  let (n, c) <- readArgument start
  if n < 0x8000000000000000 then return (Tree.integer (Int64.ofInt (value n)), c)
  else throw (CborError.integerTooLarge start.offset)

/-- A declared number of items that take at least `minSize` bytes each. -/
def readLength (minSize : Nat) (c : Cursor) : Except CborError (Nat × Cursor) := do
  let (length, c) <- readArgument c
  if length * minSize ≤ c.rest.length then return (length, c)
  else throw (CborError.lengthTooLarge length c.rest.length)

/-!
## Items
-/

def readItems (item : Cursor -> Except CborError (Tree × Cursor)) :
    Nat -> Cursor -> Except CborError (List Tree × Cursor)
  | 0, c => .ok ([], c)
  | count + 1, c => do
      let (t, c) <- item c
      let (items, c) <- readItems item count c
      return (t :: items, c)

def readKey (entries : Entries Tree) (start : Cursor) :
    Except CborError (String × Cursor) := do
  let type <- itemType start
  if type != ItemType.text then throw (CborError.keyNotText start.offset)
  let (key, c) <- readText start
  if (Entries.get? entries key).isSome then
    throw (CborError.duplicateKey key start.offset)
  return (key, c)

def readEntries (item : Cursor -> Except CborError (Tree × Cursor)) :
    Nat -> Entries Tree -> Cursor -> Except CborError (Entries Tree × Cursor)
  | 0, entries, c => .ok (entries, c)
  | count + 1, entries, c => do
      let (key, c) <- readKey entries c
      let (value, c) <- item c
      readEntries item count (Entries.insert entries key value) c

/-- An item in which containers nest at most `levels` deep. -/
def readItem (levels : Nat) (start : Cursor) : Except CborError (Tree × Cursor) :=
  match itemType start with
  | .error error => .error error
  | .ok ItemType.null => .ok (Tree.null, start.next)
  | .ok (ItemType.bool b) => .ok (Tree.bool b, start.next)
  | .ok ItemType.unsigned => readInteger (fun n => n) start
  | .ok ItemType.negative => readInteger (fun n => -1 - n) start
  | .ok ItemType.half => readFloat 2 (Binary64.widen BinaryFormat.binary16) start
  | .ok ItemType.single => readFloat 4 (Binary64.widen BinaryFormat.binary32) start
  | .ok ItemType.double => readFloat 8 (fun n => { bits := UInt64.ofNat n }) start
  | .ok ItemType.text => do
      let (s, c) <- readText start
      return (Tree.string s, c)
  | .ok ItemType.bytes => do
      let (b, c) <- readBytes start
      return (Tree.bytes b, c)
  | .ok ItemType.array =>
      match levels with
      | 0 => .error CborError.tooDeep
      | inner + 1 => do
          let (length, c) <- readLength 1 start
          let (items, c) <- readItems (readItem inner) length c
          return (Tree.array items, c)
  | .ok ItemType.map =>
      match levels with
      | 0 => .error CborError.tooDeep
      | inner + 1 => do
          let (length, c) <- readLength 2 start
          let (entries, c) <- readEntries (readItem inner) length [] c
          return (Tree.map entries, c)
  | .ok other => .error (CborError.unsupported other start.offset)

/-- The tree that the bytes encode, with no byte left over. -/
def decode (input : List UInt8) : Except CborError Tree := do
  let (t, c) <- readItem maxDepth (Cursor.start input)
  if c.rest.isEmpty then return t
  else throw (CborError.trailingBytes c.rest.length)

end Cbor
end Troupe
