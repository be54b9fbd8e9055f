import Troupe.Events

/-!
# Listeners for rehearsals

Listeners that leave a note of each event, and that may fail or register a further
listener when they run.
-/

namespace Troupe
namespace Rehearsal

inductive NoteTaker where
  /-- `more` registers an echo before the note is made. -/
  | note (label : String) (failure : Option String) (more : Bool)
  | echo (label : String)

/-- A note of an event; an echo's note leaves the event out. -/
structure EventNote where
  label : String
  event : Option Message

structure Hall where
  events : Events NoteTaker
  notes : List EventNote

namespace Hall

def empty : Hall :=
  { events := Events.empty, notes := [] }

def listen (hall : Hall) (source : ActorId) (type : MessageType) (taker : NoteTaker) : Hall :=
  { hall with events := hall.events.listen source type taker }

def leave (hall : Hall) (entry : EventNote) : Hall :=
  { hall with notes := hall.notes ++ [entry] }

def run (source : ActorId) (event : Message) (taker : NoteTaker) (hall : Hall) :
    Except ActorError Unit × Hall :=
  match taker with
  | NoteTaker.note label failure more =>
      let hall := if more then hall.listen source event.type (NoteTaker.echo label) else hall
      let hall := hall.leave { label := label, event := some event }
      match failure with
      | some text => (.error (ActorError.handler text), hall)
      | none => (.ok (), hall)
  | NoteTaker.echo label => (.ok (), hall.leave { label := label, event := none })

def raise (hall : Hall) (source : ActorId) (event : Message) :
    Except ActorError Nat × Hall :=
  hall.events.raise (run source event) source event.type hall

end Hall
end Rehearsal
end Troupe
