import Troupe.ActorError

/-!
# Events

An actor raises events, and listeners registered for that actor and that type of
event run on the spot, in the order in which they were registered.  A listener
may fail, which does not keep the others from running, and it may register
further listeners, which wait for the next event.

Listeners are filed under the event type's id.  A listener whose type only shares
the id is passed over in silence, but it is counted.

What a listener is, and what running it does to the world, is left open here.
-/

namespace Troupe

structure Listener (α : Type) where
  source : ActorId
  type : MessageType
  action : α

/-- All listeners in the order of their registration. -/
structure Events (α : Type) where
  listeners : List (Listener α)

namespace Events

variable {α σ : Type}

def empty : Events α :=
  { listeners := [] }

def listen (e : Events α) (source : ActorId) (type : MessageType) (action : α) : Events α :=
  { listeners := e.listeners ++ [{ source := source, type := type, action := action }] }

def filed (e : Events α) (source : ActorId) (id : MsgId) : List (Listener α) :=
  e.listeners.filter fun l => l.source == source && l.type.id == id

def count (e : Events α) (source : ActorId) (type : MessageType) : Nat :=
  (e.filed source type.id).length

def sources (e : Events α) : Nat :=
  (e.listeners.map fun l => (l.source, l.type.id)).eraseDups.length

def diagnostic (e : Events α) : String :=
  "Events \x7b sources: " ++ toString e.sources ++ " \x7d"

/-- Runs the listeners for the event's own type, keeping the first failure. -/
def runAll (run : α -> σ -> Except ActorError Unit × σ) (type : MessageType) :
    List (Listener α) -> σ -> Option ActorError × σ
  | [], s => (none, s)
  | l :: rest, s =>
      if l.type = type then
        match run l.action s with
        | (.ok (), s) => runAll run type rest s
        | (.error error, s) => (some error, (runAll run type rest s).2)
      else runAll run type rest s

/-- Raises an event of a type.  Running a listener changes the state, which may
well include the table of listeners. -/
def raise (e : Events α) (run : α -> σ -> Except ActorError Unit × σ) (source : ActorId)
    (type : MessageType) (s : σ) : Except ActorError Nat × σ :=
  let filed := e.filed source type.id
  match runAll run type filed s with
  | (none, s) => (.ok filed.length, s)
  | (some error, s) => (.error error, s)

end Events
end Troupe
