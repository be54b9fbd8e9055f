import Troupe.Actor.Basic

/-!
# The life of an actor

An actor takes turns with its program.  Between hooks, `advance` is the actor's
next move: the next duty of its agenda or, when there is none, a look at the stop
flag.  A duty may begin a hook; when the program has finished the hook, `conclude`
draws the consequences of its result.

Others may act between any two moves.  A move therefore goes by at most one of the
things that others change: the stop flag, the mailbox, or the timers.  Receiving
takes two moves, the look at the flag and the taking of an envelope, and what is
taken need not have been there at the look.

## Order

A stop request that is there at the look comes before any queued envelope.  Among
the envelopes, a timer's fire counts only if the actor posted it to itself, a
property write is checked before the program hears of it, and every other message
goes to the first handler for its type.
-/

namespace Troupe
namespace Actor

variable {α : Type}

def countDelivered (a : Actor α) : Actor α :=
  { a with stats := { a.stats with delivered := a.stats.delivered + 1 } }

def countUnmatched (a : Actor α) : Actor α :=
  { a with stats := { a.stats with unmatched := a.stats.unmatched + 1 } }

def countFailed (a : Actor α) : Actor α :=
  { a with stats := { a.stats with failed := a.stats.failed + 1 } }

def beginHook (a : Actor α) (hook : Hook α) : Actor α :=
  { a with hook := some hook }

/-!
## One envelope
-/

/-- The fire of a timer; that of a cancelled one is ignored. -/
def openFire (a : Actor α) (timer : TimerHandle) : Actor α :=
  match a.timers.acceptFire timer with
  | (true, timers) => { a with timers := timers }.countDelivered.beginHook (Hook.timer timer)
  | (false, timers) => { a with timers := timers }

/-- A write of properties; the program is told of it once it has been made. -/
def openWrite (a : Actor α) (payload : Tree) : Actor α :=
  let a := a.countDelivered
  match a.props.apply a.ref.name payload with
  | (.ok previous, props) => { a with props := props }.beginHook (Hook.props previous)
  | (.error _, props) => { a with props := props }.countFailed

def openMessage (a : Actor α) (env : Envelope) : Actor α :=
  match Handlers.select? a.handlers env with
  | some handler => a.countDelivered.beginHook (Hook.message handler env.message)
  | none => a.countUnmatched

def openEnvelope (a : Actor α) (env : Envelope) : Actor α :=
  match env.message with
  | Message.timerFired timer =>
      if env.sender = some a.ref.id then a.openFire timer else a.openMessage env
  | Message.setProps _ payload => a.openWrite payload
  | _ => a.openMessage env

/-!
## Between hooks
-/

def drain (a : Actor α) : Actor α :=
  let (discarded, mailbox) := a.mailbox.drain
  { a with
    mailbox := mailbox
    stats := { a.stats with discarded := a.stats.discarded + discarded } }

def cancelTimers (a : Actor α) : Actor α :=
  { a with timers := a.timers.cancelAll.2 }

/-- The way out of the receive loop. -/
def windingDown : List (Duty α) :=
  [Duty.publish ActorState.draining, Duty.requestStop, Duty.drain, Duty.cancelTimers,
    Duty.begin Hook.stop]

/-- The way out of a failed startup. -/
def givingUp : List (Duty α) :=
  [Duty.requestStop, Duty.cancelTimers, Duty.drain, Duty.publish ActorState.stopped]

/-- Looks at the stop flag before taking anything. -/
def look (a : Actor α) : Actor α :=
  { a with agenda := if a.stopRequested then windingDown else [Duty.take] }

/-- Takes the next envelope.  The stop flag is not looked at again. -/
def take (a : Actor α) : Actor α :=
  match a.mailbox.receive with
  | (Receipt.envelope env, mailbox) =>
      { a with mailbox := mailbox, agenda := [Duty.handle env] }
  | (Receipt.ended, _) => { a with agenda := windingDown }
  | (Receipt.pending, _) => { a with agenda := [Duty.wait] }

def carryOut (a : Actor α) : Duty α -> Actor α
  | Duty.publish state => { a with state := state }
  | Duty.begin hook => a.beginHook hook
  | Duty.take => a.take
  | Duty.wait => a
  | Duty.handle env => a.openEnvelope env
  | Duty.requestStop => a.requestStop
  | Duty.drain => a.drain
  | Duty.cancelTimers => a.cancelTimers

/-- What wakes a waiting actor.  It decides nothing: the actor looks again. -/
def isWoken (a : Actor α) : Bool :=
  a.stopRequested || a.mailbox.closed || !a.mailbox.queue.isEmpty

def isReady (a : Actor α) : Duty α -> Bool
  | Duty.wait => a.isWoken
  | _ => true

/-- The actor's next move; `none` while a hook is under way, while it waits for an
envelope, and when it has stopped. -/
def advance (a : Actor α) : Option (Actor α) :=
  match a.hook, a.agenda with
  | some _, _ => none
  | none, duty :: rest =>
      if a.isReady duty then some ({ a with agenda := rest }.carryOut duty) else none
  | none, [] => if a.state = ActorState.running then some a.look else none

/-!
## After a hook
-/

def publishProps (a : Actor α) (bridge : Bridge) : Except ActorError Bridge :=
  bridge.publishTree (a.topic "props") a.props.tree

/-- A failed startup ends the actor at once.  The first failure is kept. -/
def failStartup (a : Actor α) (error : ActorError) : Actor α :=
  { a with
    stats := { a.stats with startupError := a.stats.startupError <|> some error.message }
    agenda := givingUp }

def conclude (a : Actor α) (bridge : Bridge) (result : Except ActorError Unit) :
    Actor α × Bridge :=
  let free := { a with hook := none }
  match a.hook, result with
  | none, _ => (a, bridge)
  | some Hook.start, .ok () =>
      ({ free with agenda := [Duty.publish ActorState.running] }, bridge)
  | some Hook.start, .error error => (free.failStartup error, bridge)
  | some Hook.stop, _ => ({ free with agenda := [Duty.publish ActorState.stopped] }, bridge)
  | some (Hook.props previous), .error _ =>
      ({ free with props := free.props.restore previous }.countFailed, bridge)
  | some (Hook.props _), .ok () =>
      match free.publishProps bridge with
      | .ok bridge => (free, bridge)
      | .error _ => (free, bridge)
  | some _, .ok () => (free, bridge)
  | some _, .error _ => (free.countFailed, bridge)

end Actor
end Troupe
