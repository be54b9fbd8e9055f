import Troupe.Record.JsonForm
import Troupe.Tree.Basic

/-!
# Properties

An actor exports values under declared names.  A declaration gives the property
an id, a description, a type and an access mode; types and modes travel as small
numbers.
-/

namespace Troupe

inductive PropType where
  | uint
  | sint
  | str
  | bytes
  | float
  | object
deriving DecidableEq, Repr

namespace PropType

def code : PropType -> UInt8
  | uint => 0
  | sint => 1
  | str => 2
  | bytes => 3
  | float => 4
  | object => 5

def ofCode? (code : UInt8) : Option PropType :=
  [uint, sint, str, bytes, float, object].find? fun type => type.code == code

def text : PropType -> String
  | uint => "Uint"
  | sint => "Sint"
  | str => "Str"
  | bytes => "Bytes"
  | float => "Float"
  | object => "Object"

/-- Whether a property of the type may hold a value.  An integer may stand where
a float is wanted. -/
def admits : PropType -> Tree -> Bool
  | uint, Tree.integer i => 0 ≤ i
  | sint, Tree.integer _ => true
  | float, Tree.float _ => true
  | float, Tree.integer _ => true
  | str, Tree.string _ => true
  | bytes, Tree.bytes _ => true
  | object, Tree.map _ => true
  | object, Tree.array _ => true
  | _, _ => false

instance : JsonForm PropType where
  write type := JsonForm.write type.code
  read v := do
    let code : UInt8 <- JsonForm.read v
    match ofCode? code with
    | some type => .ok type
    | none => .error (ShapeError.unknownCode "property type" code.toNat)

end PropType

/-- Who may change a property: the actor alone, or also the outside. -/
inductive PropMode where
  | read
  | write
  | readWrite
deriving DecidableEq, Repr

namespace PropMode

def code : PropMode -> UInt8
  | read => 0
  | write => 1
  | readWrite => 2

def ofCode? (code : UInt8) : Option PropMode :=
  [read, write, readWrite].find? fun mode => mode.code == code

def text : PropMode -> String
  | read => "Read"
  | write => "Write"
  | readWrite => "ReadWrite"

def writable : PropMode -> Bool
  | read => false
  | write => true
  | readWrite => true

instance : JsonForm PropMode where
  write mode := JsonForm.write mode.code
  read v := do
    let code : UInt8 <- JsonForm.read v
    match ofCode? code with
    | some mode => .ok mode
    | none => .error (ShapeError.unknownCode "property mode" code.toNat)

end PropMode

structure PropertyInfo where
  id : UInt32
  name : String
  description : String
  type : PropType
  mode : PropMode
deriving DecidableEq, Repr

namespace PropertyInfo

/-- A description of a property that no actor has declared yet. -/
def create (name : String) (type : PropType) (mode : PropMode)
    (description : String) : PropertyInfo :=
  { id := 0, name := name, description := description, type := type, mode := mode }

def text (info : PropertyInfo) : String :=
  info.name ++ "#" ++ toString info.id.toNat ++ " (" ++ info.type.text ++ ", " ++
    info.mode.text ++ ")"

structure Draft where
  id : Option UInt32
  name : Option String
  description : Option String
  type : Option PropType
  mode : Option PropMode

def fields : List (JsonForm.Field Draft) :=
  [JsonForm.Field.of "id" fun id d => { d with id := some id },
    JsonForm.Field.of "name" fun name d => { d with name := some name },
    JsonForm.Field.of "desc" fun desc d => { d with description := some desc },
    JsonForm.Field.of "type" fun type d => { d with type := some type },
    JsonForm.Field.of "mode" fun mode d => { d with mode := some mode }]

def Draft.complete (d : Draft) : Except ShapeError PropertyInfo := do
  let id <- JsonForm.required "id" d.id
  let name <- JsonForm.required "name" d.name
  let description <- JsonForm.required "desc" d.description
  let type <- JsonForm.required "type" d.type
  let mode <- JsonForm.required "mode" d.mode
  return { id := id, name := name, description := description, type := type, mode := mode }

instance : JsonForm PropertyInfo where
  write info :=
    Json.object
      [("id", JsonForm.write info.id), ("name", JsonForm.write info.name),
        ("desc", JsonForm.write info.description), ("type", JsonForm.write info.type),
        ("mode", JsonForm.write info.mode)]
  read :=
    JsonForm.readRequired "PropertyInfo" fields
      { id := none, name := none, description := none, type := none, mode := none }
      Draft.complete

end PropertyInfo
end Troupe
