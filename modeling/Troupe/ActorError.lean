import Troupe.Mailbox
import Troupe.Property.Basic
import Troupe.Store.Access
import Troupe.Topic
import Troupe.Transport
import Troupe.Wire.Codec

/-!
# Errors of the actor system

Every refusal has a cause of its own; texts are made from causes in one place.
A cause may also be given as a ready text, for programs that state their own.
-/

namespace Troupe

inductive Exhaustion where
  | actorLimit (limit : Nat)
  | stated (text : String)
deriving DecidableEq, Repr

def Exhaustion.message : Exhaustion -> String
  | actorLimit limit => "actor limit of " ++ toString limit ++ " reached"
  | stated text => text

inductive ConfigFault where
  | zeroCapacity (actor : String)
  | badName (actor : String)
  | emptyGroup (thread : String)
  | stated (text : String)
deriving DecidableEq, Repr

def ConfigFault.message : ConfigFault -> String
  | zeroCapacity actor => "actor '" ++ actor ++ "' has a zero mailbox capacity"
  | badName actor => "'" ++ actor ++ "' is not a valid actor name"
  | emptyGroup thread => "thread group '" ++ thread ++ "' has no actors"
  | stated text => text

inductive PropertyFault where
  | declaredTwice
  | badInitial (kind : Kind) (type : PropType)
  | notMap (kind : Kind)
  | notDeclared
  | readOnly
  | badValue (kind : Kind) (type : PropType)
  | stated (text : String)
deriving DecidableEq, Repr

def PropertyFault.message : PropertyFault -> String
  | declaredTwice => "declared twice"
  | badInitial kind type => "initial " ++ kind.text ++ " is not a " ++ type.text
  | notMap kind => "write must be a map, got " ++ kind.text
  | notDeclared => "not declared"
  | readOnly => "read-only"
  | badValue kind type => kind.text ++ " is not a " ++ type.text
  | stated text => text

inductive ActorError where
  | mailboxFull (actor : String) (envelope : Envelope)
  | actorStopped (actor : String)
  | actorNotFound (actor : String)
  | duplicateActor (actor : String)
  | startupFailure (actor message : String)
  | resourceExhausted (cause : Exhaustion)
  | invalidConfig (fault : ConfigFault)
  | bindingsSealed
  | notStarting (actor : String)
  | invalidTopic (topic : String) (fault : PatternFault)
  | transport (error : TransportError)
  | property (name : String) (fault : PropertyFault)
  | handler (text : String)
  | value (error : ValueError)
  | codec (error : CodecError)

namespace ActorError

def message : ActorError -> String
  | mailboxFull actor _ => "mailbox of '" ++ actor ++ "' is full"
  | actorStopped actor => "actor '" ++ actor ++ "' has stopped"
  | actorNotFound actor => "actor not found: " ++ actor
  | duplicateActor actor => "actor already registered: " ++ actor
  | startupFailure actor message => "startup of '" ++ actor ++ "' failed: " ++ message
  | resourceExhausted cause => "resource exhausted: " ++ cause.message
  | invalidConfig fault => "invalid config: " ++ fault.message
  | bindingsSealed => "topic bindings are sealed"
  | notStarting actor => "'" ++ actor ++ "' subscribed outside of startup"
  | invalidTopic topic fault => "invalid topic '" ++ topic ++ "': " ++ fault.message
  | transport error => "transport error: " ++ error.message
  | property name fault => "property '" ++ name ++ "': " ++ fault.message
  | handler text => "handler error: " ++ text
  | value error => "value error: " ++ error.message
  | codec error => "codec error: " ++ error.message

/-- The envelope that a full mailbox handed back. -/
def envelope? : ActorError -> Option Envelope
  | mailboxFull _ env => some env
  | _ => none

end ActorError
end Troupe
