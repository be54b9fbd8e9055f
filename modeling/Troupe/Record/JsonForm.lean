import Troupe.Json.Basic
import Troupe.Number.FloatText
import Troupe.Text.Quoted

/-!
# Typed records in JSON

A type with a JSON form can be written as a JSON document and read back from one.
Reading accepts more than writing produces: records may leave out fields that
have a default, come with fields they do not know, or be given as the list of
their fields; whole numbers are taken for floats.

## Errors

A reading error says what was found and what was wanted.  The fields of a record
are read in the order in which the document gives them, and the first field that
does not fit decides.
-/

namespace Troupe

open Number

inductive ShapeError where
  | invalidType (found : String) (wanted : String)
  | integerOutOfRange (i : Int) (wanted : String)
  | missingField (name : String)
  | tooManyItems (count : Nat)
  | tooFewItems (count : Nat) (wanted : String)
  | unknownCode (what : String) (code : Nat)
deriving DecidableEq, Repr

def ShapeError.message : ShapeError -> String
  | invalidType found wanted => "invalid type: " ++ found ++ ", expected " ++ wanted
  | integerOutOfRange i wanted =>
      "invalid value: integer `" ++ toString i ++ "`, expected " ++ wanted
  | missingField name => "missing field `" ++ name ++ "`"
  | tooManyItems count =>
      "invalid length " ++ toString count ++ ", expected fewer elements in array"
  | tooFewItems count wanted =>
      "invalid length " ++ toString count ++ ", expected " ++ wanted
  | unknownCode what code => "unknown " ++ what ++ " " ++ toString code

namespace Json

/-- How an error names what a document holds. -/
def found : Json -> String
  | null => "null"
  | bool b => "boolean `" ++ toString b ++ "`"
  | number (JsonNumber.natural n) => "integer `" ++ toString n.toNat ++ "`"
  | number (JsonNumber.negative i) => "integer `" ++ toString i.toInt ++ "`"
  | number (JsonNumber.real x) => "floating point `" ++ x.text FloatNotation.plain ++ "`"
  | string s => "string " ++ Text.quote s
  | array _ => "sequence"
  | object _ => "map"

def mismatch {α : Type} (v : Json) (wanted : String) : Except ShapeError α :=
  .error (ShapeError.invalidType v.found wanted)

end Json

/-- Types whose values are written as JSON documents and read back from them. -/
class JsonForm (α : Type) where
  write : α -> Json
  read : Json -> Except ShapeError α

namespace JsonForm

/-!
## Numbers
-/

def integer? : Json -> Option Int
  | Json.number (JsonNumber.natural n) => some n.toNat
  | Json.number (JsonNumber.negative i) => some i.toInt
  | _ => none

def readInteger (wanted : String) (low high : Int) (v : Json) : Except ShapeError Int :=
  match integer? v with
  | none => v.mismatch wanted
  | some i =>
      if low ≤ i ∧ i ≤ high then .ok i
      else .error (ShapeError.integerOutOfRange i wanted)

instance : JsonForm UInt8 where
  write n := Json.ofNat n.toNat
  read v := (readInteger "u8" 0 0xff v).map fun i => UInt8.ofNat i.toNat

instance : JsonForm UInt32 where
  write n := Json.ofNat n.toNat
  read v := (readInteger "u32" 0 0xffffffff v).map fun i => UInt32.ofNat i.toNat

/-- A 64-bit count; the name under which errors ask for it varies. -/
def readCount (wanted : String) (v : Json) : Except ShapeError UInt64 :=
  (readInteger wanted 0 0xffffffffffffffff v).map fun i => UInt64.ofNat i.toNat

instance : JsonForm UInt64 where
  write n := Json.number (JsonNumber.natural n)
  read := readCount "u64"

instance : JsonForm Int64 where
  write := Json.ofInt64
  read v := (readInteger "i64" (-0x8000000000000000) 0x7fffffffffffffff v).map Int64.ofInt

instance : JsonForm Binary64 where
  write x := if x.isFinite then Json.number (JsonNumber.real x) else Json.null
  read v :=
    match v with
    | Json.number (JsonNumber.real x) => .ok x
    | other =>
        match integer? other with
        | some i => .ok (Binary64.ofInt i)
        | none => other.mismatch "f64"

/-!
## Other single values
-/

instance : JsonForm Bool where
  write := Json.bool
  read v :=
    match v with
    | Json.bool b => .ok b
    | other => other.mismatch "a boolean"

instance : JsonForm String where
  write := Json.string
  read v :=
    match v with
    | Json.string s => .ok s
    | other => other.mismatch "a string"

instance : JsonForm Json where
  write := id
  read := .ok

/-- The null is the form of nothing. -/
instance {α : Type} [JsonForm α] : JsonForm (Option α) where
  write o :=
    match o with
    | none => Json.null
    | some a => write a
  read v :=
    match v with
    | Json.null => .ok none
    | other => (read other).map some

/-!
## Collections
-/

def readAll {α : Type} [JsonForm α] : List Json -> Except ShapeError (List α)
  | [] => .ok []
  | v :: rest => do
      let a <- read v
      let all <- readAll rest
      return a :: all

instance {α : Type} [JsonForm α] : JsonForm (List α) where
  write all := Json.array (all.map write)
  read v :=
    match v with
    | Json.array items => readAll items
    | other => other.mismatch "a sequence"

structure SortedMap (α : Type) where
  entries : Entries α

namespace SortedMap

variable {α : Type}

def insertSorted : Entries α -> String -> α -> Entries α
  | [], key, value => [(key, value)]
  | (k, v) :: rest, key, value =>
      if key < k then (key, value) :: (k, v) :: rest
      else if key = k then (key, value) :: rest
      else (k, v) :: insertSorted rest key value

def insert (m : SortedMap α) (key : String) (value : α) : SortedMap α :=
  { entries := insertSorted m.entries key value }

end SortedMap

def readMembers {α : Type} [JsonForm α] :
    SortedMap α -> List (String × Json) -> Except ShapeError (SortedMap α)
  | m, [] => .ok m
  | m, (k, v) :: rest => do
      let a <- read v
      readMembers (m.insert k a) rest

instance {α : Type} [JsonForm α] : JsonForm (SortedMap α) where
  write m := Json.object (m.entries.map fun entry => (entry.1, write entry.2))
  read v :=
    match v with
    | Json.object members => readMembers { entries := [] } members
    | other => other.mismatch "a map"

/-!
## Records

A record is read into a draft, field by field.  A draft that starts out with the
defaults is complete at every moment; one that starts out empty is checked for
missing fields at the end.
-/

/-- A field of a record: its name, and how its form is put into a draft. -/
structure Field (δ : Type) where
  name : String
  put : Json -> δ -> Except ShapeError δ

def Field.of {α δ : Type} [JsonForm α] (name : String) (set : α -> δ -> δ) : Field δ :=
  { name := name, put := fun v draft => (read v).map fun a => set a draft }

/-- Members in the order given; those that name no field are skipped. -/
def putMembers {δ : Type} (fields : List (Field δ)) :
    δ -> List (String × Json) -> Except ShapeError δ
  | draft, [] => .ok draft
  | draft, (k, v) :: rest =>
      match fields.find? fun field => field.name == k with
      | none => putMembers fields draft rest
      | some field =>
          match field.put v draft with
          | .error error => .error error
          | .ok draft => putMembers fields draft rest

/-- Items in the order of the fields, as far as either reaches. -/
def putItems {δ : Type} : List (Field δ) -> δ -> List Json -> Except ShapeError δ
  | field :: fields, draft, v :: rest =>
      match field.put v draft with
      | .error error => .error error
      | .ok draft => putItems fields draft rest
  | _, draft, _ => .ok draft

/-- A record in which every field has a default. -/
def readWithDefaults {δ : Type} (name : String) (fields : List (Field δ)) (defaults : δ)
    (v : Json) : Except ShapeError δ :=
  match v with
  | Json.object members => putMembers fields defaults members
  | Json.array items =>
      match putItems fields defaults items with
      | .error error => .error error
      | .ok draft =>
          if items.length ≤ fields.length then .ok draft
          else .error (ShapeError.tooManyItems items.length)
  | other => other.mismatch ("struct " ++ name)

/-- A record in which every field is required.  `complete` turns a draft into the
record, or names the first field that it lacks. -/
def readRequired {α δ : Type} (name : String) (fields : List (Field δ)) (empty : δ)
    (complete : δ -> Except ShapeError α) (v : Json) : Except ShapeError α :=
  match v with
  | Json.object members =>
      match putMembers fields empty members with
      | .error error => .error error
      | .ok draft => complete draft
  | Json.array items =>
      match putItems fields empty items with
      | .error error => .error error
      | .ok draft =>
          if items.length < fields.length then
            .error (ShapeError.tooFewItems items.length
              ("struct " ++ name ++ " with " ++ toString fields.length ++ " element" ++
                (if fields.length = 1 then "" else "s")))
          else if fields.length < items.length then
            .error (ShapeError.tooManyItems items.length)
          else complete draft
  | other => other.mismatch ("struct " ++ name)

def required {α : Type} (name : String) (o : Option α) : Except ShapeError α :=
  match o with
  | some a => .ok a
  | none => .error (ShapeError.missingField name)

end JsonForm
end Troupe
