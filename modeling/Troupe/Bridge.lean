import Troupe.ActorError
import Troupe.Message.Schema

/-!
# The bridge between topics and mailboxes

Outbound, the bridge encodes values in the system's wire format and hands them to
the transport.  Inbound, it decodes a payload once and puts a message into the
mailbox of every actor bound to a matching pattern, each binding reading the
payload its own way.

Bindings are made while actors start up; once the bridge is sealed, the table of
bindings no longer changes.
-/

namespace Troupe

/-- Where an actor can be reached. -/
structure ActorRef where
  id : ActorId
  name : String
  enqueueTimeout : Duration
deriving DecidableEq, Repr

def ActorRef.refusal (target : ActorRef) : EnqueueError -> ActorError
  | EnqueueError.full env => ActorError.mailboxFull target.name env
  | EnqueueError.closed _ => ActorError.actorStopped target.name

/-- What a binding makes of a payload. -/
inductive Reading where
  | typed (schema : Schema)
  | raw
  | setProps

namespace Reading

def type : Reading -> MessageType
  | typed schema => schema.type
  | raw => MessageType.raw
  | setProps => MessageType.setProps

def message (topic : String) (payload : Tree) : Reading -> Except CodecError Message
  | typed schema =>
      (schema.ofTree payload).mapError fun error =>
        CodecError.decode Format.json (DecodeFault.shape error)
  | raw => .ok (Message.raw topic payload)
  | setProps => .ok (Message.setProps topic payload)

end Reading

structure Binding where
  pattern : TopicPattern
  target : ActorRef
  reading : Reading

/-- What became of a payload at one binding. -/
structure Delivery where
  actor : String
  message : String
  outcome : Except ActorError Unit

structure Bridge where
  transport : Transport
  format : Format
  bindings : List Binding
  isSealed : Bool

namespace Bridge

def create (transport : Transport) (format : Format) : Bridge :=
  { transport := transport, format := format, bindings := [], isSealed := false }

def diagnostic (b : Bridge) : String :=
  "Bridge \x7b format: Format(" ++ Text.quote b.format.name ++ "), bindings: " ++
    toString b.bindings.length ++ ", sealed: " ++ toString b.isSealed ++ ", .. \x7d"

/-!
## Outbound
-/

def publishTree (b : Bridge) (topic : String) (t : Tree) : Except ActorError Bridge :=
  match Codec.standard.encode b.format t with
  | .error error => .error (ActorError.codec error)
  | .ok payload =>
      match b.transport.send topic payload with
      | .error error => .error (ActorError.transport error)
      | .ok transport => .ok { b with transport := transport }

def publish (b : Bridge) (topic : String) (body : Json) : Except ActorError Bridge :=
  b.publishTree topic body.toTree

/-!
## Bindings
-/

def bind (b : Bridge) (pattern : String) (target : ActorRef) (reading : Reading) :
    Except ActorError Bridge :=
  match TopicPattern.parse pattern with
  | .error fault => .error (ActorError.invalidTopic pattern fault)
  | .ok pattern =>
      if b.isSealed then .error ActorError.bindingsSealed
      else
        .ok { b with
          bindings :=
            b.bindings ++ [{ pattern := pattern, target := target, reading := reading }] }

def sealBindings (b : Bridge) : Bridge :=
  { b with isSealed := true }

/-- The bindings that a payload on a topic goes to. -/
def bound (b : Bridge) (topic : String) : List Binding :=
  b.bindings.filter fun binding => binding.pattern.covers topic

/-!
## Inbound

How an envelope gets into an actor's mailbox, and what else may happen until it
is there, is a parameter.
-/

variable {σ : Type}

def deliverTo (send : ActorRef -> Envelope -> σ -> Except ActorError Unit × σ)
    (topic : String) (payload : Tree) (binding : Binding) (s : σ) : Delivery × σ :=
  let (outcome, s) :=
    match binding.reading.message topic payload with
    | .ok message => send binding.target (Envelope.ofMessage message) s
    | .error error => (.error (ActorError.codec error), s)
  ({ actor := binding.target.name, message := binding.reading.type.name, outcome := outcome },
    s)

def deliverAll (send : ActorRef -> Envelope -> σ -> Except ActorError Unit × σ)
    (topic : String) (payload : Tree) : List Binding -> σ -> List Delivery × σ
  | [], s => ([], s)
  | binding :: rest, s =>
      let (delivery, s) := deliverTo send topic payload binding s
      let (deliveries, s) := deliverAll send topic payload rest s
      (delivery :: deliveries, s)

def deliverTree (b : Bridge) (send : ActorRef -> Envelope -> σ -> Except ActorError Unit × σ)
    (topic : String) (payload : Tree) (s : σ) : List Delivery × σ :=
  deliverAll send topic payload (b.bound topic) s

def decode (b : Bridge) (payload : List UInt8) : Except ActorError Tree :=
  (Codec.standard.decode b.format payload).mapError ActorError.codec

/-- Delivers a payload; one that does not decode goes nowhere. -/
def deliver (b : Bridge) (send : ActorRef -> Envelope -> σ -> Except ActorError Unit × σ)
    (topic : String) (payload : List UInt8) (s : σ) :
    Except ActorError (List Delivery) × σ :=
  match b.decode payload with
  | .error error => (.error error, s)
  | .ok t =>
      let (deliveries, s) := b.deliverTree send topic t s
      (.ok deliveries, s)

/-!
## Reports
-/

def delivered (deliveries : List Delivery) : Nat :=
  deliveries.countP fun d => d.outcome.isOk

def failures (deliveries : List Delivery) : List Delivery :=
  deliveries.filter fun d => !d.outcome.isOk

end Bridge
end Troupe
