import Troupe.Rehearsal.Script
import Troupe.System.Outside

/-!
# Scenes

A scene is a sequence of cues for a system of scripted actors.  After each cue the
system settles, so what is reported for a cue holds all of its effects.  In
virtual time the system stands still until it is told to join, and the reports
before that hold only the replies.

At the end of a scene, whoever still holds is stopped and released, and the system
is shut down.
-/

namespace Troupe
namespace Rehearsal

abbrev Stage := System Mind String

/-- An actor to be spawned; its configuration is still a document. -/
structure Role where
  config : Tree
  script : Script
  handlers : Handlers String

inductive Cue where
  | spawn (role : Role)
  | spawnGroup (thread : Tree) (roles : List Role)
  | sealBridge
  | sealBindings
  | shutdown
  | tell (actor : String) (message : Message)
  | tryTell (actor : String) (message : Message)
  | deliver (topic : String) (payload : List UInt8)
  | deliverTree (topic : String) (payload : Tree)
  | bind (pattern actor : String) (reading : Reading)
  | bindings
  | bridge
  | publish (topic : String) (body : Json)
  | publishTree (topic : String) (t : Tree)
  | closeTransport
  | listen (source : String) (type : MessageType) (label : String) (failure : Option String)
  | forward (source target : String) (type : MessageType)
  | listeners (source : String) (type : MessageType)
  | stop (actor : String)
  | shutdownActor (actor : String)
  | hold (actor : String)
  | release (actor : String)
  | join
  | stats
  | registry
  | actor (name : String)
  | config

structure ActorReport where
  name : String
  state : ActorState
  stats : ActorStats
  startupError : Option ActorError

inductive Reply where
  | nothing
  | outcome (outcome : Except ActorError Unit)
  | spawned (outcome : Except ActorError String)
  /-- The size and the text of a group. -/
  | group (outcome : Except ActorError (Nat × String))
  | flag (b : Bool)
  | count (n : Nat)
  | state (state : Option ActorState)
  | report (outcome : Except ActorError (List Delivery))
  | deliveries (deliveries : List Delivery)
  | bindings (all : List Binding)
  | bridge (bridge : Bridge)
  | stats (all : List ActorReport)
  | registry (registry : Registry)
  | name (name : Option String)
  | config (config : SystemConfig)

structure Take where
  reply : Reply
  log : List (String × List Entry)
  notes : List (String × Message)
  out : List Outbound

/-!
## Spawning
-/

def Role.part (role : Role) : Part Mind String :=
  { handlers := role.handlers
    mind := { script := role.script, fires := [], journal := [] }
    play := play }

def configOf {β : Type} [JsonForm β] (t : Tree) : Except ActorError β :=
  (JsonForm.ofTree t).mapError ActorError.codec

def membersOf : List Role -> Except ActorError (List (ActorConfig × Part Mind String))
  | [] => .ok []
  | role :: rest => do
      let config <- configOf role.config
      let members <- membersOf rest
      return (config, role.part) :: members

def groupText (thread : ThreadConfig) (names : List String) : String :=
  "ThreadGroup \x7b config: " ++ thread.diagnostic ++ ", actors: [" ++
    String.intercalate ", " (names.map Text.quote) ++ "] \x7d"

def spawn (stage : Stage) (role : Role) : Except ActorError String × Stage :=
  match (configOf role.config : Except ActorError ActorConfig) with
  | .error error => (.error error, stage)
  | .ok config =>
      let (outcome, stage) := stage.spawn config role.part
      (outcome.map fun ref => ref.name, stage)

def spawnGroup (stage : Stage) (thread : Tree) (roles : List Role) :
    Except ActorError (Nat × String) × Stage :=
  match (configOf thread : Except ActorError ThreadConfig) with
  | .error error => (.error error, stage)
  | .ok thread =>
      match membersOf roles with
      | .error error => (.error error, stage)
      | .ok members =>
          let text := groupText thread (members.map fun member => member.1.name)
          let (outcome, stage) := stage.spawnGroup thread members
          (outcome.map fun _ => (members.length, text), stage)

/-!
## Cues
-/

def reportOf (p : Performer Mind String) : ActorReport :=
  { name := p.actor.ref.name, state := p.actor.state, stats := p.actor.stats
    startupError := p.actor.startupError? }

def statsOf (stage : Stage) : List ActorReport :=
  stage.performers.map reportOf

def withActor (stage : Stage) (name : String)
    (operation : ActorRef -> Except ActorError Unit × Stage) : Reply × Stage :=
  match stage.find name with
  | .error error => (Reply.outcome (.error error), stage)
  | .ok ref =>
      let (outcome, stage) := operation ref
      (Reply.outcome outcome, stage)

/-- Tells an actor to hold, and waits until it does. -/
def hold (stage : Stage) (target : ActorRef) : Except ActorError Unit × Stage :=
  match stage.tell target (holdSignal.message Json.null) with
  | (.ok (), stage) => (.ok (), stage.settle)
  | (.error error, stage) => (.error error, stage)

def respond (stage : Stage) : Cue -> Reply × Stage
  | Cue.spawn role =>
      let (outcome, stage) := spawn stage role
      (Reply.spawned outcome, stage)
  | Cue.spawnGroup thread roles =>
      let (outcome, stage) := spawnGroup stage thread roles
      (Reply.group outcome, stage)
  | Cue.sealBridge =>
      let stage := stage.sealBridge
      (Reply.flag stage.bridge.isSealed, stage)
  | Cue.sealBindings =>
      let stage := { stage with bridge := stage.bridge.sealBindings }
      (Reply.flag stage.bridge.isSealed, stage)
  | Cue.shutdown => (Reply.nothing, stage.shutdown)
  | Cue.tell actor message => withActor stage actor fun ref => stage.tell ref message
  | Cue.tryTell actor message => withActor stage actor fun ref => stage.tryTell ref message
  | Cue.deliver topic payload =>
      let (outcome, stage) := stage.deliver topic payload
      (Reply.report outcome, stage)
  | Cue.deliverTree topic payload =>
      let (deliveries, stage) := stage.deliverTree topic payload
      (Reply.deliveries deliveries, stage)
  | Cue.bind pattern actor reading =>
      withActor stage actor fun ref => stage.withBridge (stage.bridge.bind pattern ref reading)
  | Cue.bindings => (Reply.bindings stage.bridge.bindings, stage)
  | Cue.bridge => (Reply.bridge stage.bridge, stage)
  | Cue.publish topic body =>
      let (outcome, stage) := stage.withBridge (stage.bridge.publish topic body)
      (Reply.outcome outcome, stage)
  | Cue.publishTree topic t =>
      let (outcome, stage) := stage.withBridge (stage.bridge.publishTree topic t)
      (Reply.outcome outcome, stage)
  | Cue.closeTransport =>
      let bridge := { stage.bridge with transport := stage.bridge.transport.abandon }
      (Reply.nothing, { stage with bridge := bridge })
  | Cue.listen source type label failure =>
      let (outcome, stage) := stage.onEvent source type (Reaction.note label failure)
      (Reply.outcome outcome, stage)
  | Cue.forward source target type =>
      let (outcome, stage) := stage.forward source target type
      (Reply.outcome outcome, stage)
  | Cue.listeners source type =>
      match stage.find source with
      | .ok ref => (Reply.count (stage.events.count ref.id type), stage)
      | .error _ => (Reply.count 0, stage)
  | Cue.stop actor =>
      match stage.find actor with
      | .ok ref => (Reply.nothing, stage.stop ref)
      | .error _ => (Reply.nothing, stage)
  | Cue.shutdownActor actor =>
      match stage.find actor with
      | .ok ref =>
          let stage := (stage.stop ref).settle
          (Reply.state ((stage.actor? ref).map fun a => a.state), stage)
      | .error _ => (Reply.nothing, stage)
  | Cue.hold actor => withActor stage actor (hold stage)
  | Cue.release actor =>
      match stage.find actor with
      | .ok ref => (Reply.nothing, stage.release ref)
      | .error _ => (Reply.nothing, stage)
  | Cue.join => (Reply.nothing, stage.settle)
  | Cue.stats => (Reply.stats (statsOf stage), stage)
  | Cue.registry => (Reply.registry stage.registry, stage)
  | Cue.actor name => (Reply.name ((stage.registry.find? name).map fun ref => ref.name), stage)
  | Cue.config => (Reply.config stage.config, stage)

/-!
## Takes
-/

/-- Payloads by topic; those on one topic keep their order. -/
def byTopic (out : List Outbound) : List Outbound :=
  out.mergeSort fun a b => a.topic ≤ b.topic

def collect (stage : Stage) (reply : Reply) : Take × Stage :=
  let (out, transport) := stage.bridge.transport.receiveAll
  let log := stage.performers.map fun p => (p.actor.ref.name, p.mind.journal)
  let performers :=
    stage.performers.map fun p => { p with mind := { p.mind with journal := [] } }
  ({ reply := reply
     log := log.filter fun entry => !entry.2.isEmpty
     notes := stage.notes
     out := byTopic out },
    { stage with
      performers := performers, notes := []
      bridge := { stage.bridge with transport := transport } })

def replyOnly (reply : Reply) : Take :=
  { reply := reply, log := [], notes := [], out := [] }

def Cue.isJoin : Cue -> Bool
  | join => true
  | _ => false

def take (stage : Stage) (cue : Cue) : Take × Stage :=
  let (reply, stage) := respond stage cue
  if stage.isVirtual && !cue.isJoin then (replyOnly reply, stage)
  else collect stage.settle reply

def takeAll : Stage -> List Cue -> List Take × Stage
  | stage, [] => ([], stage)
  | stage, cue :: rest =>
      let (first, stage) := take stage cue
      let (takes, stage) := takeAll stage rest
      (first :: takes, stage)

def curtain (stage : Stage) : Take :=
  let stage := stage.dismissHeld.shutdown
  (collect stage (Reply.stats (statsOf stage))).1

/-- Plays a scene: the takes of its cues, and that of its end. -/
def playScene (config : Tree) (capacity : Option Nat) (isVirtual : Bool) (cues : List Cue) :
    Except CodecError (List Take × Take) :=
  match (JsonForm.ofTree config : Except CodecError SystemConfig) with
  | .error error => .error error
  | .ok config =>
      let transport :=
        match capacity with
        | some capacity => Transport.ofCapacity capacity
        | none => Transport.null
      let (takes, stage) := takeAll (System.create config transport isVirtual) cues
      .ok (takes, curtain stage)

end Rehearsal
end Troupe
