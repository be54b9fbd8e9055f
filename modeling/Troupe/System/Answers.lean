import Troupe.System.Basic

/-!
# Answers to requests

How a system answers what the hook of one of its performers asks.
-/

namespace Troupe
namespace System

variable {σ α : Type}

def react (event : Message) (reaction : Reaction) (s : System σ α) :
    Except ActorError Unit × System σ α :=
  match reaction with
  | Reaction.forward target => s.post target (Envelope.ofMessage event)
  | Reaction.note label failure =>
      let s := { s with notes := s.notes ++ [(label, event)] }
      match failure with
      | none => (.ok (), s)
      | some text => (.error (ActorError.handler text), s)

def raise (s : System σ α) (source : ActorId) (event : Message) :
    Except ActorError Nat × System σ α :=
  s.events.raise (react event) source event.type s

def withBridge (s : System σ α) (outcome : Except ActorError Bridge) :
    Except ActorError Unit × System σ α :=
  match outcome with
  | .ok bridge => (.ok (), { s with bridge := bridge })
  | .error error => (.error error, s)

def withProps {β : Type} (s : System σ α) (i : Nat) (outcome : Except ActorError β × Props) :
    Except ActorError β × System σ α :=
  (outcome.1, s.modifyActor i fun a => { a with props := outcome.2 })

def withTimers {β : Type} (s : System σ α) (i : Nat) (outcome : β × Timers) :
    β × System σ α :=
  (outcome.1, s.modifyActor i fun a => { a with timers := outcome.2 })

/-- Reads a path as far as it is one. -/
def atPath {β : Type} (p : Props) (path : String)
    (operation : Path -> Except ActorError β × Props) : Except ActorError β × Props :=
  match Path.parse path with
  | .ok path => operation path
  | .error error => (.error (ActorError.value (ValueError.path error)), p)

def showOld (outcome : Except ActorError (Option Handle) × Props) :
    Except ActorError (Option Tree) × Props :=
  let (result, p) := outcome
  (result.map fun old => old.map p.store.freeze, p)

def showFound (outcome : Except ActorError Handle × Props) :
    Except ActorError Tree × Props :=
  let (result, p) := outcome
  (result.map p.store.freeze, p)

def answer (s : System σ α) (i : Nat) (p : Performer σ α) :
    (request : Request) -> request.Answer × System σ α
  | Request.now => (s.clockOf p, s)
  | Request.myself =>
      ({ ref := p.actor.ref, device := p.actor.device, thread := p.thread : Identity }, s)
  | Request.find name => (s.registry.find? name, s)
  | Request.declare info initial =>
      let (h, store) := p.actor.props.store.thaw initial
      let actor := { p.actor with props := { p.actor.props with store := store } }
      let (outcome, actor, bridge) := actor.declare s.bridge info h
      (outcome, { s.modifyActor i (fun _ => actor) with bridge := bridge })
  | Request.subscribe pattern reading =>
      s.withBridge (p.actor.subscribe s.bridge pattern reading)
  | Request.publishInfo => s.withBridge (p.actor.publishInfo s.bridge)
  | Request.publishProps => s.withBridge (p.actor.publishProps s.bridge)
  | Request.publishTree topic t => s.withBridge (s.bridge.publishTree topic t)
  | Request.publish topic body => s.withBridge (s.bridge.publish topic body)
  | Request.announce message body => s.withBridge (p.actor.announce s.bridge message body)
  | Request.declarations => (p.actor.props.declared, s)
  | Request.values => (p.actor.props.tree, s)
  | Request.valueAt path =>
      let props := p.actor.props
      s.withProps i (showFound (atPath props path fun path =>
        props.update (props.store.getPath props.root path)))
  | Request.setValue path t =>
      let props := p.actor.props
      s.withProps i (atPath props path fun path =>
        let (h, store) := props.store.thaw t
        props.update (store.setPath props.root path h))
  | Request.insertValue name t => s.withProps i (showOld (p.actor.props.insertTree name t))
  | Request.raise event => s.raise p.actor.ref.id event
  | Request.startTimer period repeating =>
      s.withTimers i (p.actor.timers.register (s.clockOf p) period repeating)
  | Request.cancelTimer timer => s.withTimers i (p.actor.timers.cancel timer)
  | Request.cancelAllTimers => s.withTimers i p.actor.timers.cancelAll
  | Request.timerActive timer => (p.actor.timers.isActive timer, s)
  | Request.timerLeft timer => (p.actor.timers.remaining? (s.clockOf p) timer, s)
  | Request.timerCount => (p.actor.timers.length, s)
  | Request.stop => ((), s.modifyActor i Actor.requestStop)

end System
end Troupe
