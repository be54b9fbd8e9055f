import Troupe.Text.Quoted
import Troupe.Time
import Troupe.Wire.Format

/-!
# Configuration

What can be set for an actor, for a thread that several actors share, and for the
system as a whole.  Every setting has a default, which also fills in for what a
configuration document leaves out.
-/

namespace Troupe

structure ActorConfig where
  name : String
  mailboxCapacity : Option UInt64
  /-- How long senders wait while the actor's mailbox is full. -/
  enqueueTimeout : Duration
  stackSize : UInt64
  priority : UInt8
deriving DecidableEq, Repr

namespace ActorConfig

def defaults : ActorConfig :=
  { name := "actor", mailboxCapacity := none, enqueueTimeout := Duration.ofMillis 100
    stackSize := 262144, priority := 1 }

/-- A timeout is written in whole milliseconds, of which the lower 64 bits are
kept. -/
def writeTimeout (timeout : Duration) : Json :=
  Json.ofNat timeout.wholeMillis

def fields : List (JsonForm.Field ActorConfig) :=
  [JsonForm.Field.of "name" fun name c => { c with name := name },
    { name := "mailbox_capacity"
      put := fun v c =>
        match v with
        | Json.null => .ok { c with mailboxCapacity := none }
        | other =>
            (JsonForm.readCount "usize" other).map fun n =>
              { c with mailboxCapacity := some n } },
    { name := "enqueue_timeout"
      put := fun v c =>
        (JsonForm.readCount "u64" v).map fun n =>
          { c with enqueueTimeout := Duration.ofMillis n.toNat } },
    { name := "stack_size"
      put := fun v c => (JsonForm.readCount "usize" v).map fun n => { c with stackSize := n } },
    JsonForm.Field.of "priority" fun priority c => { c with priority := priority }]

instance : JsonForm ActorConfig where
  write c :=
    Json.object
      [("name", JsonForm.write c.name), ("mailbox_capacity", JsonForm.write c.mailboxCapacity),
        ("enqueue_timeout", writeTimeout c.enqueueTimeout),
        ("stack_size", JsonForm.write c.stackSize), ("priority", JsonForm.write c.priority)]
  read := JsonForm.readWithDefaults "ActorConfig" fields defaults

end ActorConfig

structure ThreadConfig where
  name : String
  stackSize : UInt64
deriving DecidableEq, Repr

namespace ThreadConfig

def defaults : ThreadConfig :=
  { name := "shared", stackSize := 262144 }

def fields : List (JsonForm.Field ThreadConfig) :=
  [JsonForm.Field.of "name" fun name c => { c with name := name },
    { name := "stack_size"
      put := fun v c => (JsonForm.readCount "usize" v).map fun n => { c with stackSize := n } }]

instance : JsonForm ThreadConfig where
  write c :=
    Json.object [("name", JsonForm.write c.name), ("stack_size", JsonForm.write c.stackSize)]
  read := JsonForm.readWithDefaults "ThreadConfig" fields defaults

def diagnostic (c : ThreadConfig) : String :=
  "ThreadConfig \x7b name: " ++ Text.quote c.name ++ ", stack_size: " ++
    toString c.stackSize.toNat ++ " \x7d"

end ThreadConfig

structure SystemConfig where
  maxActors : UInt64
  /-- The first segment of the topics that the system's actors use. -/
  device : String
  wireFormat : Format
  /-- The capacity of mailboxes for which none is configured. -/
  mailboxCapacity : UInt64
deriving DecidableEq, Repr

namespace SystemConfig

def defaults : SystemConfig :=
  { maxActors := 64, device := "node", wireFormat := Format.cbor, mailboxCapacity := 16 }

def fields : List (JsonForm.Field SystemConfig) :=
  [{ name := "max_actors"
     put := fun v c => (JsonForm.readCount "usize" v).map fun n => { c with maxActors := n } },
    JsonForm.Field.of "device" fun device c => { c with device := device },
    JsonForm.Field.of "wire_format" fun format c => { c with wireFormat := format },
    { name := "mailbox_capacity"
      put := fun v c =>
        (JsonForm.readCount "usize" v).map fun n => { c with mailboxCapacity := n } }]

instance : JsonForm SystemConfig where
  write c :=
    Json.object
      [("max_actors", JsonForm.write c.maxActors), ("device", JsonForm.write c.device),
        ("wire_format", JsonForm.write c.wireFormat),
        ("mailbox_capacity", JsonForm.write c.mailboxCapacity)]
  read := JsonForm.readWithDefaults "RuntimeConfig" fields defaults

end SystemConfig
end Troupe
