import Troupe.System.Answers

/-!
# Running a system

Performers take turns.  In its turn a performer goes on until it has to wait: for
an envelope, for room in a mailbox, for a moment in time, or to be released.  A
performer that can go on keeps its turn; otherwise the first one that can takes
over.  When none can, timers that are due fire, and when none is due either, the
clock with the earliest awaited moment jumps to it.

A system settles when nobody can go on and nothing is awaited.
-/

namespace Troupe
namespace System

variable {σ α : Type}

/-!
## Turns
-/

def finish (s : System σ α) (i : Nat) (result : Except ActorError Unit) (mind : σ) :
    System σ α :=
  match s.performers[i]? with
  | none => s
  | some p =>
      let (actor, bridge) := p.actor.conclude s.bridge result
      { s.modify i (fun p => { p with actor := actor, mind := mind, activity := Activity.free })
        with bridge := bridge }

/-- Takes the performer at a position out of everything.  Its mailbox is lost with what
is queued, and the state of its actor stays as it was last published. -/
def perish (s : System σ α) (i : Nat) : System σ α :=
  s.modify i fun p =>
    { p with
      actor := { p.actor with mailbox := p.actor.mailbox.drain.2 }
      activity := Activity.gone }

/-- Follows the program of the performer at a position until it waits or is done. -/
def follow (i : Nat) : Program (Except ActorError Unit × σ) -> System σ α -> System σ α
  | Program.done (result, mind), s => s.finish i result mind
  | Program.ask request next, s =>
      match s.performers[i]? with
      | none => s
      | some p =>
          let (reply, s) := s.answer i p request
          follow i (next reply) s
  | Program.tell target message next, s =>
      match s.performers[i]? with
      | none => s
      | some p =>
          let env := Envelope.sentBy message p.actor.ref.id
          if s.wouldWait target then
            let deadline := (s.clockOf p).plus target.enqueueTimeout
            s.setActivity i (Activity.sending target env deadline next)
          else
            let (outcome, s) := s.post target env
            follow i (next outcome) s
  | Program.sleep span next, s =>
      match s.performers[i]? with
      | none => s
      | some p =>
          if span.isZero then follow i next s
          else s.setActivity i (Activity.sleeping ((s.clockOf p).plus span) next)
  | Program.hold next, s => s.setActivity i (Activity.holding next)
  | Program.panic, s => s.perish i

def begin (s : System σ α) (i : Nat) (p : Performer σ α) (actor : Actor α) : System σ α :=
  let s := s.modifyActor i fun _ => actor
  match actor.hook with
  | some hook => follow i (p.play hook p.mind) s
  | none => s

/-- Lets the performer at a position go on; `none` if it cannot. -/
def takeTurn? (s : System σ α) (i : Nat) : Option (System σ α) :=
  match s.performers[i]? with
  | none => none
  | some p =>
      match p.activity with
      | Activity.free => p.actor.advance.map (s.begin i p)
      | Activity.ready next => some (follow i next s)
      | Activity.holding _ => none
      | Activity.gone => none
      | Activity.sleeping moment next =>
          if moment.atMost (s.clockOf p) then some (follow i next s) else none
      | Activity.sending target env deadline next =>
          if !s.wouldWait target || deadline.atMost (s.clockOf p) then
            let (outcome, s) := s.post target env
            some (follow i (next outcome) s)
          else none

def takeFirstTurn? (s : System σ α) : Option (Nat × System σ α) :=
  (List.range s.performers.length).findSome? fun i => (s.takeTurn? i).map fun s => (i, s)

/-!
## Time
-/

/-- Fires the timers that are due.  Nothing fires for those who are gone. -/
def fireTimers? (s : System σ α) : Option (System σ α) :=
  if s.performers.any fun p => !p.isGone && p.actor.timersDue (s.clockOf p) then
    some { s with
      performers := s.performers.map fun p =>
        if p.isGone then p else { p with actor := p.actor.fireTimers (s.clockOf p) } }
  else none

/-- The moment that a performer awaits.  In live time, timers do not count. -/
def awaited? (s : System σ α) (p : Performer σ α) : Option Instant :=
  let fire := if s.isVirtual && !p.isGone then p.actor.nextFire? else none
  let wake :=
    match p.activity with
    | Activity.sleeping moment _ => some moment
    | Activity.sending _ _ deadline _ => some deadline
    | _ => none
  match fire, wake with
  | some a, some b => some (if a.atMost b then a else b)
  | some a, none => some a
  | none, b => b

/-- The earlier of two awaited moments, each with its clock; the first in doubt. -/
def earlier (a b : Instant × Nat) : Instant × Nat :=
  if a.1.atMost b.1 then a else b

/-- Sets the clock with the earliest awaited moment to that moment. -/
def passTime? (s : System σ α) : Option (System σ α) :=
  let awaited := s.performers.filterMap fun p => (s.awaited? p).map fun moment => (moment, p.clock)
  match awaited with
  | [] => none
  | first :: rest =>
      let (moment, clock) := rest.foldl earlier first
      some { s with clocks := s.clocks.set clock moment }

/-!
## Settling
-/

def settleWith : Nat -> Nat -> System σ α -> System σ α
  | 0, _, s => s
  | turns + 1, current, s =>
      match s.takeTurn? current with
      | some s => settleWith turns current s
      | none =>
          match s.takeFirstTurn? with
          | some (i, s) => settleWith turns i s
          | none =>
              match s.fireTimers? with
              | some s => settleWith turns current s
              | none =>
                  match s.passTime? with
                  | some s => settleWith turns current s
                  | none => s

/-- More turns than any rehearsal takes. -/
def turnLimit : Nat := 1000000

def settle (s : System σ α) : System σ α :=
  settleWith turnLimit 0 s

end System
end Troupe
