import Troupe.Json.Basic
import Troupe.Text.Hex
import Troupe.Text.Utf8

/-!
# Messages

A message has a type, and a type has a name from which its 32-bit id is hashed.
Programs that were built apart address each other's messages by name alone; ids
may collide, so wherever a message is handed over the type itself is compared,
not only the id.

## Types

Three types belong to the system: raw payloads, property writes, and timer fires.
All others are defined by programs.  A defined type is told from others by its
label; the name need not be its own.
-/

namespace Troupe

/-!
## Ids
-/

/-- The 32-bit FNV-1a hash of a byte string. -/
def fnv1a (bytes : List UInt8) : UInt32 :=
  bytes.foldl (fun hash b => (hash ^^^ b.toUInt32) * 0x01000193) 0x811c9dc5

structure MsgId where
  value : UInt32
deriving DecidableEq, Repr

namespace MsgId

def ofName (name : String) : MsgId :=
  { value := fnv1a (Text.utf8Bytes name) }

def text (id : MsgId) : String :=
  "0x" ++ String.ofList (Text.hexFixed 8 id.value.toNat)

end MsgId

/-!
## Types and messages
-/

/-- The name of a timer, unique within its actor. -/
structure TimerHandle where
  number : Nat
deriving DecidableEq, Repr

def TimerHandle.text (timer : TimerHandle) : String :=
  "timer#" ++ toString timer.number

inductive MessageType where
  | raw
  | setProps
  | timerFired
  | defined (label : String) (name : String)
deriving DecidableEq, Repr

namespace MessageType

def name : MessageType -> String
  | raw => "RawMessage"
  | setProps => "SetProps"
  | timerFired => "TimerFired"
  | defined _ name => name

def id (type : MessageType) : MsgId :=
  MsgId.ofName type.name

end MessageType

/-- A message of a defined type has the JSON form of its contents for a body. -/
inductive Message where
  | raw (topic : String) (payload : Tree)
  | setProps (topic : String) (payload : Tree)
  | timerFired (timer : TimerHandle)
  | defined (label : String) (name : String) (body : Json)

namespace Message

def type : Message -> MessageType
  | raw _ _ => MessageType.raw
  | setProps _ _ => MessageType.setProps
  | timerFired _ => MessageType.timerFired
  | defined label name _ => MessageType.defined label name

end Message
end Troupe
