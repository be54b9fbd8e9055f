import Troupe.Bridge

/-!
# Programs of hooks

What a hook does is given as a tree of requests: each node asks the system for
something, and what follows depends on the answer.  Most requests are answered at
once.  A hook waits where it tells another actor something, where it sleeps, and
where it holds until it is released.  A hook that panics ends its actor's part in
everything.
-/

namespace Troupe

inductive Request where
  | now
  | myself
  | find (name : String)
  | declare (info : PropertyInfo) (initial : Tree)
  | subscribe (pattern : String) (reading : Reading)
  | publishInfo
  | publishProps
  | publishTree (topic : String) (t : Tree)
  | publish (topic : String) (body : Json)
  | announce (message : String) (body : Json)
  | declarations
  | values
  | valueAt (path : String)
  | setValue (path : String) (t : Tree)
  | insertValue (name : String) (t : Tree)
  | raise (event : Message)
  | startTimer (period : Duration) (repeating : Bool)
  | cancelTimer (timer : TimerHandle)
  | cancelAllTimers
  | timerActive (timer : TimerHandle)
  | timerLeft (timer : TimerHandle)
  | timerCount
  | stop

structure Identity where
  ref : ActorRef
  device : String
  thread : String

namespace Request

def Answer : Request -> Type
  | now => Instant
  | myself => Identity
  | find _ => Option ActorRef
  | declare _ _ => Except ActorError Unit
  | subscribe _ _ => Except ActorError Unit
  | publishInfo => Except ActorError Unit
  | publishProps => Except ActorError Unit
  | publishTree _ _ => Except ActorError Unit
  | publish _ _ => Except ActorError Unit
  | announce _ _ => Except ActorError Unit
  | declarations => List PropertyInfo
  | values => Tree
  | valueAt _ => Except ActorError Tree
  | setValue _ _ => Except ActorError Unit
  | insertValue _ _ => Except ActorError (Option Tree)
  | raise _ => Except ActorError Nat
  | startTimer _ _ => TimerHandle
  | cancelTimer _ => Bool
  | cancelAllTimers => Nat
  | timerActive _ => Bool
  | timerLeft _ => Option Duration
  | timerCount => Nat
  | stop => Unit

end Request

inductive Program (β : Type) where
  | done (result : β)
  | ask (request : Request) (next : request.Answer -> Program β)
  /-- Waits while the target's mailbox is full, as long as its senders may. -/
  | tell (target : ActorRef) (message : Message) (next : Except ActorError Unit -> Program β)
  | sleep (span : Duration) (next : Program β)
  | hold (next : Program β)
  /-- The hook panics, and the actor is gone. -/
  | panic

namespace Program

variable {β γ : Type}

def bind : Program β -> (β -> Program γ) -> Program γ
  | done result, f => f result
  | ask request next, f => ask request fun answer => bind (next answer) f
  | tell target message next, f => tell target message fun outcome => bind (next outcome) f
  | sleep span next, f => sleep span (bind next f)
  | hold next, f => hold (bind next f)
  | panic, _ => panic

instance : Monad Program where
  pure := done
  bind := bind

def answer (request : Request) : Program request.Answer :=
  ask request done

/-- Tells an actor that is known by name. -/
def emit (target : String) (message : Message) : Program (Except ActorError Unit) :=
  ask (Request.find target) fun found : Option ActorRef =>
    match found with
    | some ref => tell ref message done
    | none => done (.error (ActorError.actorNotFound target))

def tellSelf (message : Message) : Program (Except ActorError Unit) :=
  ask Request.myself fun self : Identity => tell self.ref message done

end Program
end Troupe
