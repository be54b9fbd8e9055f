import Troupe.System.Run

/-!
# A system from outside

What the owner of a system does with it: spawn actors, tell them things, bring in
payloads, wire up listeners, seal the bridge, and shut everything down.  Whoever
has to wait lets the system settle.
-/

namespace Troupe

structure Part (σ α : Type) where
  handlers : Handlers α
  mind : σ
  play : Hook α -> σ -> Program (Except ActorError Unit × σ)

namespace System

variable {σ α : Type}

/-!
## Spawning
-/

def addClock (s : System σ α) : Nat × System σ α :=
  if s.isVirtual then (s.clocks.length, { s with clocks := s.clocks ++ [Duration.zero] })
  else (0, s)

def addPerformer (s : System σ α) (enlisted : Enlisted) (part : Part σ α) (thread : String)
    (clock : Nat) : System σ α :=
  let actor := Actor.create enlisted.ref s.config.device part.handlers enlisted.capacity
  { s with
    performers :=
      s.performers ++
        [{ actor := actor, mind := part.mind, play := part.play, activity := Activity.free
           thread := thread, clock := clock }] }

def addPerformers (thread : String) (clock : Nat) :
    System σ α -> List (Enlisted × Part σ α) -> System σ α
  | s, [] => s
  | s, (enlisted, part) :: rest =>
      addPerformers thread clock (s.addPerformer enlisted part thread clock) rest

def nextNumber (s : System σ α) : Nat :=
  s.performers.length + 1

def spawn (s : System σ α) (config : ActorConfig) (part : Part σ α) :
    Except ActorError ActorRef × System σ α :=
  match s.registry.enlist s.config (ActorId.ofNat s.nextNumber) config with
  | .error error => (.error error, s)
  | .ok (enlisted, registry) =>
      let (clock, s) := { s with registry := registry }.addClock
      (.ok enlisted.ref, s.addPerformer enlisted part ("actor-" ++ config.name) clock)

/-- Spawns actors that share a thread: all of them or none. -/
def spawnGroup (s : System σ α) (thread : ThreadConfig)
    (members : List (ActorConfig × Part σ α)) :
    Except ActorError (List ActorRef) × System σ α :=
  match s.registry.enlistGroup s.config s.nextNumber thread (members.map Prod.fst) with
  | (.error error, registry) => (.error error, { s with registry := registry })
  | (.ok all, registry) =>
      let (clock, s) := { s with registry := registry }.addClock
      let parts := all.zip (members.map Prod.snd)
      (.ok (all.map fun enlisted => enlisted.ref),
        addPerformers ("group-" ++ thread.name) clock s parts)

/-!
## Messages and payloads
-/

def tryTell (s : System σ α) (target : ActorRef) (message : Message) :
    Except ActorError Unit × System σ α :=
  s.post target (Envelope.ofMessage message)

/-- Sends an envelope, and waits for room if there is none. -/
def send (target : ActorRef) (env : Envelope) (s : System σ α) :
    Except ActorError Unit × System σ α :=
  if s.wouldWait target then s.settle.post target env else s.post target env

def tell (s : System σ α) (target : ActorRef) (message : Message) :
    Except ActorError Unit × System σ α :=
  send target (Envelope.ofMessage message) s

def deliver (s : System σ α) (topic : String) (payload : List UInt8) :
    Except ActorError (List Delivery) × System σ α :=
  s.bridge.deliver send topic payload s

def deliverTree (s : System σ α) (topic : String) (payload : Tree) :
    List Delivery × System σ α :=
  s.bridge.deliverTree send topic payload s

/-!
## Wiring
-/

def find (s : System σ α) (name : String) : Except ActorError ActorRef :=
  match s.registry.find? name with
  | some ref => .ok ref
  | none => .error (ActorError.actorNotFound name)

def listen (s : System σ α) (source : ActorRef) (type : MessageType) (reaction : Reaction) :
    System σ α :=
  { s with events := s.events.listen source.id type reaction }

def onEvent (s : System σ α) (source : String) (type : MessageType) (reaction : Reaction) :
    Except ActorError Unit × System σ α :=
  match s.find source with
  | .error error => (.error error, s)
  | .ok source => (.ok (), s.listen source type reaction)

def forward (s : System σ α) (source target : String) (type : MessageType) :
    Except ActorError Unit × System σ α :=
  match s.find target with
  | .error error => (.error error, s)
  | .ok target => s.onEvent source type (Reaction.forward target)

/-!
## Stopping
-/

def stop (s : System σ α) (target : ActorRef) : System σ α :=
  match s.position? target with
  | some i => s.modifyActor i Actor.requestStop
  | none => s

def stopAll (s : System σ α) : System σ α :=
  { s with
    performers := s.performers.map fun p => { p with actor := p.actor.requestStop } }

def shutdown (s : System σ α) : System σ α :=
  s.stopAll.settle

/-!
## Sealing
-/

/-- Whether nobody waits any longer for an actor's startup: it is over, or the actor is
gone. -/
def isPastStartup (s : System σ α) (ref : ActorRef) : Bool :=
  match s.performer? ref with
  | some p => p.isGone || !p.actor.state.less ActorState.running
  | none => false

def awaiting (s : System σ α) (refs : List ActorRef) : List ActorRef :=
  refs.dropWhile s.isPastStartup

/-- Waits for the startups of all actors that are registered by now, and then seals the
bridge. -/
def sealBridge (s : System σ α) : System σ α :=
  let refs := s.registry.refs
  let s := s.settle
  if (s.awaiting refs).isEmpty then { s with bridge := s.bridge.sealBindings } else s

/-!
## Holding

A hook may hold until it is released.
-/

def releaseAt (s : System σ α) (i : Nat) : System σ α :=
  s.modify i fun p =>
    match p.activity with
    | Activity.holding next => { p with activity := Activity.ready next }
    | _ => p

def release (s : System σ α) (target : ActorRef) : System σ α :=
  match s.position? target with
  | some i => s.releaseAt i
  | none => s

def isHolding (p : Performer σ α) : Bool :=
  match p.activity with
  | Activity.holding _ => true
  | _ => false

/-- Asks the performers that hold to stop, and releases them. -/
def dismissHeld (s : System σ α) : System σ α :=
  { s with
    performers := s.performers.map fun p =>
      match p.activity with
      | Activity.holding next =>
          { p with actor := p.actor.requestStop, activity := Activity.ready next }
      | _ => p }

end System
end Troupe
