import Troupe.Message.Envelope
import Troupe.Time

/-!
# Mailboxes

A mailbox is a queue of at most `capacity` envelopes.  Capacity is the only brake
on senders: a sender waits for room as long as its patience lasts and then gets
the envelope back.  A drained mailbox is closed for good.

## Waiting

Nothing happens to a mailbox by itself, so an operation that has to wait is given
what happens meanwhile and when.
-/

namespace Troupe

structure Mailbox where
  capacity : Nat
  queue : List Envelope
  closed : Bool

inductive EnqueueError where
  | full (envelope : Envelope)
  | closed (envelope : Envelope)

namespace EnqueueError

def message : EnqueueError -> String
  | full _ => "mailbox full"
  | closed _ => "mailbox closed"

def envelope : EnqueueError -> Envelope
  | full env => env
  | closed env => env

end EnqueueError

inductive Receipt where
  | envelope (env : Envelope)
  /-- A stop was requested, or the mailbox is closed and empty. -/
  | ended
  | pending

namespace Mailbox

/-- An empty mailbox; the least capacity is one.  No channel has more than `2 ^ 61 - 1`
slots, so the capacity is taken to be at most that. -/
def create (capacity : Nat) : Mailbox :=
  { capacity := max capacity 1, queue := [], closed := false }

def available (m : Mailbox) : Nat :=
  m.capacity - m.queue.length

def isFull (m : Mailbox) : Bool :=
  m.capacity ≤ m.queue.length

def tryEnqueue (m : Mailbox) (env : Envelope) : Except EnqueueError Mailbox :=
  if m.closed then .error (EnqueueError.closed env)
  else if m.isFull then .error (EnqueueError.full env)
  else .ok { m with queue := m.queue ++ [env] }

def tryDequeue (m : Mailbox) : Option Envelope × Mailbox :=
  match m.queue with
  | [] => (none, m)
  | env :: rest => (some env, { m with queue := rest })

def receive (m : Mailbox) : Receipt × Mailbox :=
  match m.queue with
  | env :: rest => (Receipt.envelope env, { m with queue := rest })
  | [] => (if m.closed then Receipt.ended else Receipt.pending, m)

/-- A stop request comes before everything that is queued. -/
def dequeue (m : Mailbox) (stop : Bool) : Receipt × Mailbox :=
  if stop then (Receipt.ended, m) else m.receive

/-- Closes the mailbox, and discards and counts what was queued. -/
def drain (m : Mailbox) : Nat × Mailbox :=
  (m.queue.length, { m with queue := [], closed := true })

/-!
## Waiting
-/

/-- Sends while nobody receives.  Also says how long the sender waited. -/
def enqueue (m : Mailbox) (env : Envelope) (patience : Duration) :
    Except EnqueueError Unit × Duration × Mailbox :=
  match m.tryEnqueue env with
  | .ok m => (.ok (), Duration.zero, m)
  | .error (EnqueueError.closed env) => (.error (EnqueueError.closed env), Duration.zero, m)
  | .error (EnqueueError.full env) => (.error (EnqueueError.full env), patience, m)

def enqueueAround {α : Type} (m : Mailbox) (env : Envelope) (patience delay : Duration)
    (meanwhile : Mailbox -> α × Mailbox) : Except EnqueueError Unit × α × Mailbox :=
  match m.tryEnqueue env with
  | .ok m =>
      let (a, m) := meanwhile m
      (.ok (), a, m)
  | .error (EnqueueError.closed env) =>
      let (a, m) := meanwhile m
      (.error (EnqueueError.closed env), a, m)
  | .error (EnqueueError.full env) =>
      let (a, m) := meanwhile m
      if patience.atMost delay then (.error (EnqueueError.full env), a, m)
      else
        match m.tryEnqueue env with
        | .ok m => (.ok (), a, m)
        | .error error => (.error error, a, m)

/-- Receives while nobody sends, but not longer than the patience lasts.  Also
says how long the receiver waited. -/
def dequeueWithin (m : Mailbox) (stop : Bool) (patience : Duration) :
    Receipt × Duration × Mailbox :=
  match m.dequeue stop with
  | (Receipt.pending, m) => (Receipt.pending, patience, m)
  | (receipt, m) => (receipt, Duration.zero, m)

def dequeueAround (m : Mailbox) (stop : Bool) (meanwhile : Mailbox × Bool -> Mailbox × Bool) :
    Receipt × Mailbox × Bool :=
  match m.dequeue stop with
  | (Receipt.pending, m) =>
      let (m, stop) := meanwhile (m, stop)
      let (receipt, m) := m.dequeue stop
      (receipt, m, stop)
  | (receipt, m) =>
      let (m, stop) := meanwhile (m, stop)
      (receipt, m, stop)

end Mailbox
end Troupe
