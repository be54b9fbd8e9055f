import Troupe.Message.Basic
import Troupe.Record.JsonForm

/-!
# Messages from payloads

A schema is a message type that can be read from payloads: reading turns the JSON
form of a payload into the body of a message, or says what does not fit.
-/

namespace Troupe

structure Schema where
  label : String
  name : String
  read : Json -> Except ShapeError Json

namespace Schema

def type (schema : Schema) : MessageType :=
  MessageType.defined schema.label schema.name

def message (schema : Schema) (body : Json) : Message :=
  Message.defined schema.label schema.name body

def ofTree (schema : Schema) (payload : Tree) : Except ShapeError Message :=
  (schema.read payload.toJson).map schema.message

end Schema
end Troupe
