import Troupe.ActorId
import Troupe.Message.Basic
import Troupe.Text.Quoted

/-!
# Envelopes

An envelope carries one message together with the actor that sent it, if an actor
did.  A message is taken out under its own type only.
-/

namespace Troupe

structure Envelope where
  message : Message
  sender : Option ActorId

namespace Envelope

def ofMessage (message : Message) : Envelope :=
  { message := message, sender := none }

def sentBy (message : Message) (sender : ActorId) : Envelope :=
  { message := message, sender := some sender }

def name (env : Envelope) : String :=
  env.message.type.name

def id (env : Envelope) : MsgId :=
  env.message.type.id

/-- Whether the message is of a type: of its id, and of the type itself. -/
def holds (env : Envelope) (type : MessageType) : Bool :=
  env.id == type.id && env.message.type == type

def look? (env : Envelope) (type : MessageType) : Option Message :=
  if env.holds type then some env.message else none

/-- The message, or the envelope back if the message is of another type. -/
def take (env : Envelope) (type : MessageType) : Except Envelope Message :=
  if env.holds type then .ok env.message else .error env

theorem holds_iff {env : Envelope} {type : MessageType} :
    env.holds type = true <-> env.message.type = type := by
  constructor
  · intro h
    simp only [holds, Bool.and_eq_true, beq_iff_eq] at h
    exact h.right
  · intro h
    simp [holds, id, h]

def diagnostic (env : Envelope) : String :=
  let sender :=
    match env.sender with
    | none => "None"
    | some id => "Some(ActorId(" ++ id.text ++ "))"
  "Envelope \x7b name: " ++ Text.quote env.name ++ ", id: MsgId(" ++
    toString env.id.value.toNat ++ "), sender: " ++ sender ++ ", .. \x7d"

end Envelope
end Troupe
