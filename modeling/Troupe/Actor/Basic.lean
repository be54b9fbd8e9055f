import Troupe.Bridge
import Troupe.Handlers
import Troupe.Property.Props
import Troupe.Timers

/-!
# Actors

An actor is a mailbox with a life: it starts up, handles one envelope at a time,
and, once a stop is requested, discards what is queued and winds down.  What it
does with an envelope is up to the hooks of the program behind it; this is
everything else.
-/

namespace Troupe

inductive ActorState where
  | created
  | starting
  | running
  | draining
  | stopped
deriving DecidableEq, Repr

namespace ActorState

def text : ActorState -> String
  | created => "Created"
  | starting => "Starting"
  | running => "Running"
  | draining => "Draining"
  | stopped => "Stopped"

/-- The place of a state on the way from creation to the end. -/
def rank : ActorState -> Nat
  | created => 0
  | starting => 1
  | running => 2
  | draining => 3
  | stopped => 4

def less (a b : ActorState) : Bool :=
  a.rank < b.rank

end ActorState

structure ActorStats where
  /-- Envelopes that a hook was started for, or that were writes of properties. -/
  delivered : Nat
  unmatched : Nat
  failed : Nat
  discarded : Nat
  firesDropped : Nat
  startupError : Option String
deriving DecidableEq, Repr

def ActorStats.zero : ActorStats :=
  { delivered := 0, unmatched := 0, failed := 0, discarded := 0, firesDropped := 0
    startupError := none }

/-- The parts of a program that an actor calls. -/
inductive Hook (α : Type) where
  | start
  | timer (timer : TimerHandle)
  /-- A write from outside; `previous` holds the names written with their earlier
  values. -/
  | props (previous : List (String × Tree))
  | message (handler : α) (message : Message)
  | stop

/-- What an actor does by itself between hooks. -/
inductive Duty (α : Type) where
  | publish (state : ActorState)
  | begin (hook : Hook α)
  /-- Take the next envelope, the stop flag having been looked at. -/
  | take
  /-- Wait until there is a reason to look again. -/
  | wait
  | handle (env : Envelope)
  | requestStop
  /-- Close the mailbox, and discard and count what is queued. -/
  | drain
  | cancelTimers

structure Actor (α : Type) where
  ref : ActorRef
  device : String
  handlers : Handlers α
  mailbox : Mailbox
  state : ActorState
  stopRequested : Bool
  stats : ActorStats
  timers : Timers
  props : Props
  /-- The hook under way. -/
  hook : Option (Hook α)
  /-- The duties ahead, which wait for the hook under way. -/
  agenda : List (Duty α)

namespace Actor

variable {α : Type}

def startingUp : List (Duty α) :=
  [Duty.publish ActorState.starting, Duty.begin Hook.start]

def create (ref : ActorRef) (device : String) (handlers : Handlers α) (capacity : Nat) :
    Actor α :=
  { ref := ref, device := device, handlers := handlers, mailbox := Mailbox.create capacity
    state := ActorState.created, stopRequested := false, stats := ActorStats.zero
    timers := Timers.empty, props := Props.empty, hook := none, agenda := startingUp }

def topic (a : Actor α) (message : String) : String :=
  topicFor a.device a.ref.name message

/-- Whether the program is starting up, which is when it may bind topics. -/
def isStarting (a : Actor α) : Bool :=
  match a.hook with
  | some Hook.start => true
  | _ => false

/-!
## From outside
-/

def accept (a : Actor α) (env : Envelope) : Except EnqueueError (Actor α) :=
  match a.mailbox.tryEnqueue env with
  | .ok mailbox => .ok { a with mailbox := mailbox }
  | .error error => .error error

def requestStop (a : Actor α) : Actor α :=
  { a with stopRequested := true }

def startupError? (a : Actor α) : Option ActorError :=
  a.stats.startupError.map (ActorError.startupFailure a.ref.name)

/-!
## Timers

Timers fire from the moment the actor starts until a stop is requested.
-/

def timersRun (a : Actor α) : Bool :=
  !a.stopRequested && (a.state = ActorState.starting || a.state = ActorState.running)

def timersDue (a : Actor α) (now : Instant) : Bool :=
  a.timersRun && !(a.timers.due now).isEmpty

def nextFire? (a : Actor α) : Option Instant :=
  if a.timersRun then a.timers.nextDeadline? else none

def fireTimers (a : Actor α) (now : Instant) : Actor α :=
  if a.timersRun then
    let (firing, _) := a.timers.fireDue now a.ref.id a.mailbox
    { a with
      timers := firing.timers
      mailbox := firing.mailbox
      stats := { a.stats with firesDropped := a.stats.firesDropped + firing.dropped } }
  else a

end Actor
end Troupe
