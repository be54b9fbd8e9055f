import Troupe.Actor.Startup
import Troupe.Events
import Troupe.Program
import Troupe.Registry

/-!
# Systems

A system is its registered actors with the programs that play them, the bridge,
the listeners, and the clocks.  Performers are kept in the order in which they
were spawned and are addressed by their position.

## Time

Each performer reads one of the system's clocks.  In live time there is a single
clock, and timers lie too far ahead to matter.  In virtual time each thread has a
clock of its own, which jumps to whatever the thread waits for next.
-/

namespace Troupe

inductive Activity (β : Type) where
  /-- Between hooks. -/
  | free
  | sleeping (until_ : Instant) (next : Program β)
  | sending (target : ActorRef) (env : Envelope) (deadline : Instant)
      (next : Except ActorError Unit -> Program β)
  | holding (next : Program β)
  /-- Ready to go on. -/
  | ready (next : Program β)
  /-- Gone in the middle of a hook. -/
  | gone

/-- An actor with the program that plays it: its private state `mind`, and what it
does for each hook. -/
structure Performer (σ α : Type) where
  actor : Actor α
  mind : σ
  play : Hook α -> σ -> Program (Except ActorError Unit × σ)
  activity : Activity (Except ActorError Unit × σ)
  thread : String
  clock : Nat

def Performer.isGone {σ α : Type} (p : Performer σ α) : Bool :=
  match p.activity with
  | Activity.gone => true
  | _ => false

inductive Reaction where
  /-- Hands the event on, if there is room. -/
  | forward (target : ActorRef)
  /-- Notes the event under a label, and fails if told to. -/
  | note (label : String) (failure : Option String)

structure System (σ α : Type) where
  config : SystemConfig
  registry : Registry
  performers : List (Performer σ α)
  bridge : Bridge
  events : Events Reaction
  /-- Notes that listeners have left. -/
  notes : List (String × Message)
  clocks : List Instant
  isVirtual : Bool

namespace System

variable {σ α : Type}

def create (config : SystemConfig) (transport : Transport) (isVirtual : Bool) : System σ α :=
  { config := config, registry := Registry.empty, performers := []
    bridge := Bridge.create transport config.wireFormat, events := Events.empty, notes := []
    clocks := if isVirtual then [] else [Duration.zero], isVirtual := isVirtual }

/-!
## Performers
-/

def modify (s : System σ α) (i : Nat) (f : Performer σ α -> Performer σ α) : System σ α :=
  { s with performers := s.performers.modify i f }

def modifyActor (s : System σ α) (i : Nat) (f : Actor α -> Actor α) : System σ α :=
  s.modify i fun p => { p with actor := f p.actor }

def setActivity (s : System σ α) (i : Nat)
    (activity : Activity (Except ActorError Unit × σ)) : System σ α :=
  s.modify i fun p => { p with activity := activity }

def position? (s : System σ α) (ref : ActorRef) : Option Nat :=
  s.performers.findIdx? fun p => p.actor.ref.id == ref.id

def performer? (s : System σ α) (ref : ActorRef) : Option (Performer σ α) :=
  s.performers.find? fun p => p.actor.ref.id == ref.id

def actor? (s : System σ α) (ref : ActorRef) : Option (Actor α) :=
  (s.performer? ref).map fun p => p.actor

def clockOf (s : System σ α) (p : Performer σ α) : Instant :=
  s.clocks.getD p.clock Duration.zero

/-!
## Sending
-/

/-- Puts an envelope into an actor's mailbox without waiting. -/
def post (s : System σ α) (target : ActorRef) (env : Envelope) :
    Except ActorError Unit × System σ α :=
  match s.actor? target with
  | none => (.error (ActorError.actorStopped target.name), s)
  | some actor =>
      match actor.accept env with
      | .error error => (.error (target.refusal error), s)
      | .ok actor =>
          match s.position? target with
          | none => (.ok (), s)
          | some i => (.ok (), s.modifyActor i fun _ => actor)

/-- Whether a sender would have to wait for room. -/
def wouldWait (s : System σ α) (target : ActorRef) : Bool :=
  match s.actor? target with
  | some actor => !actor.mailbox.closed && actor.mailbox.isFull
  | none => false

end System
end Troupe
