import Troupe.Mailbox

/-!
# Timers

An actor's timers.  A timer is armed until it is due; then it posts a message
into the actor's own mailbox, so timer work is done in the receive loop like any
other.  Posting never waits: a fire that finds the mailbox full is dropped.  A
repeating timer is armed again for a period after the moment it fired.

A one-shot whose fire is queued stays in the table as `fired`, so that cancelling
it still suppresses the fire.

Handles count up from one and are never given out twice; the armed timers are
kept in the order of their handles.
-/

namespace Troupe

structure ArmedTimer where
  deadline : Instant
  period : Option Duration
deriving DecidableEq, Repr

structure Timers where
  issued : Nat
  armed : List (TimerHandle × ArmedTimer)
  fired : List TimerHandle

namespace Timers

def empty : Timers :=
  { issued := 0, armed := [], fired := [] }

/-- Arms a new timer.  Without a period to wait, a repeating timer fires once. -/
def register (t : Timers) (now : Instant) (period : Duration) (repeating : Bool) :
    TimerHandle × Timers :=
  let timer : TimerHandle := { number := t.issued + 1 }
  let entry : ArmedTimer :=
    { deadline := now.plus period
      period := if repeating && !period.isZero then some period else none }
  (timer, { t with issued := t.issued + 1, armed := t.armed ++ [(timer, entry)] })

def oneShot (t : Timers) (now : Instant) (delay : Duration) : TimerHandle × Timers :=
  t.register now delay false

def repeating (t : Timers) (now : Instant) (period : Duration) : TimerHandle × Timers :=
  t.register now period true

def armed? (t : Timers) (timer : TimerHandle) : Option ArmedTimer :=
  t.armed.lookup timer

def isActive (t : Timers) (timer : TimerHandle) : Bool :=
  (t.armed? timer).isSome

/-- The time until a timer is due; zero if it is due already. -/
def remaining? (t : Timers) (now : Instant) (timer : TimerHandle) : Option Duration :=
  (t.armed? timer).map fun entry => entry.deadline.minus now

def length (t : Timers) : Nat :=
  t.armed.length

def disarm (t : Timers) (timer : TimerHandle) : Timers :=
  { t with armed := t.armed.filter fun entry => entry.1 != timer }

/-- Drops a timer and suppresses a queued fire of it.  Says whether there was
anything to cancel. -/
def cancel (t : Timers) (timer : TimerHandle) : Bool × Timers :=
  (t.isActive timer || t.fired.contains timer,
    { t.disarm timer with fired := t.fired.filter (· != timer) })

/-- Drops all timers, and counts those that were armed or about to be handled. -/
def cancelAll (t : Timers) : Nat × Timers :=
  (t.armed.length + t.fired.length, { t with armed := [], fired := [] })

def acceptFire (t : Timers) (timer : TimerHandle) : Bool × Timers :=
  (t.fired.contains timer || t.isActive timer,
    { t with fired := t.fired.filter (· != timer) })

/-!
## Firing
-/

def due (t : Timers) (now : Instant) : List (TimerHandle × ArmedTimer) :=
  t.armed.filter fun entry => entry.2.deadline.atMost now

def nextDeadline? (t : Timers) : Option Instant :=
  (t.armed.map fun entry => entry.2.deadline.nanos).min?.map Duration.mk

/-- Arms a repeating timer again, and disarms any other. -/
def rearm (t : Timers) (now : Instant) (timer : TimerHandle) (entry : ArmedTimer) : Timers :=
  match entry.period with
  | none => t.disarm timer
  | some period =>
      { t with
        armed := t.armed.map fun e =>
          if e.1 == timer then (e.1, { e.2 with deadline := now.plus period }) else e }

/-- Timers together with the mailbox they post into and the count of fires that
found it full. -/
structure Firing where
  timers : Timers
  mailbox : Mailbox
  dropped : Nat

/-- Fires one timer; `none` if the mailbox is closed. -/
def Firing.post (f : Firing) (now : Instant) (owner : ActorId) (timer : TimerHandle)
    (entry : ArmedTimer) : Firing × Bool :=
  let timers := f.timers.rearm now timer entry
  match f.mailbox.tryEnqueue (Envelope.sentBy (Message.timerFired timer) owner) with
  | .ok mailbox =>
      let fired := if entry.period.isNone then timers.fired ++ [timer] else timers.fired
      ({ f with timers := { timers with fired := fired }, mailbox := mailbox }, true)
  | .error (EnqueueError.full _) =>
      ({ f with timers := timers, dropped := f.dropped + 1 }, true)
  | .error (EnqueueError.closed _) => ({ f with timers := timers }, false)

def Firing.postAll (now : Instant) (owner : ActorId) :
    Firing -> List (TimerHandle × ArmedTimer) -> Firing × Bool
  | f, [] => (f, true)
  | f, (timer, entry) :: rest =>
      match f.post now owner timer entry with
      | (f, true) => postAll now owner f rest
      | (f, false) => (f, false)

def fireDue (t : Timers) (now : Instant) (owner : ActorId) (mailbox : Mailbox) :
    Firing × Bool :=
  Firing.postAll now owner { timers := t, mailbox := mailbox, dropped := 0 } (t.due now)

end Timers
end Troupe
