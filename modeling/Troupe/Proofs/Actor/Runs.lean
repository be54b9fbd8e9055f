import Troupe.Actor.Turns

/-!
# Runs of an actor

Everything that can happen to one actor, one step at a time: its own moves, the
ends of its hooks, and what others do in between.  A run leaves a trace of what its
steps show.
-/

namespace Troupe

/-- Whether a hook is for an envelope, and not for the start or the end of a life. -/
def Hook.forEnvelope {α : Type} : Hook α -> Bool
  | Hook.start => false
  | Hook.stop => false
  | _ => true

inductive Event (α : Type) where
  | accepted (env : Envelope)
  | stopRequested
  | published (state : ActorState)
  | looked
  | took (env : Envelope)
  | ignored (env : Envelope)
  | began (hook : Hook α) (cause : Option Envelope)
  | ended (hook : Hook α) (result : Except ActorError Unit)
  | armed (timer : TimerHandle)
  | timersCancelled

namespace Actor

variable {α : Type}

/-!
## What a move shows
-/

/-- Whether an envelope is the fire of a timer of the actor's own that counts no
more. -/
def ignores (a : Actor α) (env : Envelope) : Bool :=
  match env.message with
  | Message.timerFired timer => env.sender = some a.ref.id && !(a.timers.acceptFire timer).1
  | _ => false

def dutyEvent? (a : Actor α) : Duty α -> Option (Event α)
  | Duty.publish state => some (Event.published state)
  | Duty.begin hook => some (Event.began hook none)
  | Duty.take =>
      match a.mailbox.receive with
      | (Receipt.envelope env, _) => some (Event.took env)
      | _ => none
  | Duty.wait => none
  | Duty.handle env =>
      if a.ignores env then some (Event.ignored env)
      else (a.openEnvelope env).hook.map fun hook => Event.began hook (some env)
  | Duty.requestStop => some Event.stopRequested
  | Duty.drain => none
  | Duty.cancelTimers => some Event.timersCancelled

def moveEvent? (a : Actor α) : Option (Event α) :=
  match a.agenda with
  | duty :: rest => { a with agenda := rest }.dutyEvent? duty
  | [] => if a.stopRequested then none else some Event.looked

/-!
## Steps
-/

def withFiring (a : Actor α) (firing : Timers.Firing) : Actor α :=
  { a with
    timers := firing.timers
    mailbox := firing.mailbox
    stats := { a.stats with firesDropped := a.stats.firesDropped + firing.dropped } }

def fire (a : Actor α) (now : Instant) (timer : TimerHandle) (entry : ArmedTimer) : Actor α :=
  let firing : Timers.Firing := { timers := a.timers, mailbox := a.mailbox, dropped := 0 }
  a.withFiring (firing.post now a.ref.id timer entry).1

def fireEvent? (a : Actor α) (timer : TimerHandle) : Option (Event α) :=
  let env := Envelope.sentBy (Message.timerFired timer) a.ref.id
  match a.mailbox.tryEnqueue env with
  | .ok _ => some (Event.accepted env)
  | .error _ => none

/-- What may happen to an actor at any moment: somebody sends it an envelope, asks
it to stop, arms or cancels timers, a timer fires, or the hook under way works with
timers and properties.  Which timers fire, and when, is left open. -/
inductive Disturbance (a : Actor α) : Option (Event α) -> Actor α -> Prop where
  | accept {env : Envelope} {a' : Actor α} :
      a.accept env = .ok a' -> Disturbance a (some (Event.accepted env)) a'
  | refuse {env : Envelope} {error : EnqueueError} :
      a.accept env = .error error -> Disturbance a none a
  | requestStop : Disturbance a (some Event.stopRequested) a.requestStop
  | fire (now : Instant) (timer : TimerHandle) (entry : ArmedTimer) :
      Disturbance a (a.fireEvent? timer) (a.fire now timer entry)
  | arm (now : Instant) (period : Duration) (repeating : Bool) :
      Disturbance a (some (Event.armed (a.timers.register now period repeating).1))
        { a with timers := (a.timers.register now period repeating).2 }
  | cancel (timer : TimerHandle) :
      Disturbance a none { a with timers := (a.timers.cancel timer).2 }
  | cancelAll : Disturbance a none a.cancelTimers
  | work {hook : Hook α} (timers : Timers) (props : Props) :
      a.hook = some hook -> Disturbance a none { a with timers := timers, props := props }

inductive Step (a : Actor α) : Option (Event α) -> Actor α -> Prop where
  | disturbed {event? : Option (Event α)} {a' : Actor α} :
      Disturbance a event? a' -> Step a event? a'
  | moved {a' : Actor α} : a.advance = some a' -> Step a a.moveEvent? a'
  /-- A waiting actor may look again without having been woken. -/
  | stirred {rest : List (Duty α)} :
      a.hook = none -> a.agenda = Duty.wait :: rest -> Step a none { a with agenda := rest }
  | concluded {hook : Hook α} (bridge : Bridge) (result : Except ActorError Unit) :
      a.hook = some hook ->
        Step a (some (Event.ended hook result)) (a.conclude bridge result).1

inductive Run (a : Actor α) : List (Event α) -> Actor α -> Prop where
  | refl : Run a [] a
  | snoc {trace : List (Event α)} {event? : Option (Event α)} {b c : Actor α} :
      Run a trace b -> Step b event? c -> Run a (trace ++ event?.toList) c

theorem Run.step {a b : Actor α} {event? : Option (Event α)} (hstep : Step a event? b) :
    Run a event?.toList b := by
  simpa using Run.refl.snoc hstep

theorem Run.trans {a b c : Actor α} {before after : List (Event α)}
    (hbefore : Run a before b) (hafter : Run b after c) : Run a (before ++ after) c := by
  induction hafter with
  | refl => simpa using hbefore
  | snoc _ hstep ih =>
      rw [<- List.append_assoc]
      exact ih.snoc hstep

theorem Run.split {a c : Actor α} {trace before after : List (Event α)} {event : Event α}
    (hrun : Run a trace c) (htrace : trace = before ++ event :: after) :
    exists b b' : Actor α, Run a before b ∧ Step b (some event) b' ∧ Run b' after c := by
  induction hrun generalizing after with
  | refl => simp at htrace
  | @snoc trace event? b c hrun hstep ih =>
      cases event? with
      | none =>
          obtain ⟨d, d', hbefore, hevent, hafter⟩ := ih (by simpa using htrace)
          exact ⟨d, d', hbefore, hevent, by simpa using hafter.snoc hstep⟩
      | some last =>
          rcases List.eq_nil_or_concat after with rfl | ⟨after, shown, rfl⟩
          · obtain ⟨rfl, hlast⟩ := List.append_inj' htrace rfl
            obtain rfl : last = event := by simpa using hlast
            exact ⟨b, c, hrun, hstep, Run.refl⟩
          · have htrace : trace ++ [last] = (before ++ event :: after) ++ [shown] := by
              simpa using htrace
            obtain ⟨hinit, hlast⟩ := List.append_inj' htrace rfl
            obtain rfl : last = shown := by simpa using hlast
            obtain ⟨d, d', hbefore, hevent, hafter⟩ := ih hinit
            exact ⟨d, d', hbefore, hevent, by simpa using hafter.snoc hstep⟩

/-!
## Several fires

Timers that are due together fire one after another.
-/

theorem fire_withFiring (a : Actor α) (firing : Timers.Firing) (now : Instant)
    (timer : TimerHandle) (entry : ArmedTimer) :
    (a.withFiring firing).fire now timer entry =
      a.withFiring (firing.post now a.ref.id timer entry).1 := by
  unfold fire Timers.Firing.post
  cases hpost : firing.mailbox.tryEnqueue (Envelope.sentBy (Message.timerFired timer) a.ref.id) with
  | ok mailbox => simp [withFiring, hpost]
  | error refusal =>
      cases refusal with
      | full => simp [withFiring, hpost, Nat.add_assoc]
      | closed => simp [withFiring, hpost]

theorem run_postAll {a : Actor α} {now : Instant} (due : List (TimerHandle × ArmedTimer))
    {firing : Timers.Firing} {trace : List (Event α)} (hrun : Run a trace (a.withFiring firing)) :
    exists trace' : List (Event α),
      Run a trace' (a.withFiring (Timers.Firing.postAll now a.ref.id firing due).1) := by
  induction due generalizing firing trace with
  | nil => exact ⟨trace, hrun⟩
  | cons first rest ih =>
      obtain ⟨timer, entry⟩ := first
      have hfire : Step (a.withFiring firing) _ ((a.withFiring firing).fire now timer entry) :=
        Step.disturbed (Disturbance.fire now timer entry)
      have hfired := hrun.snoc hfire
      rw [fire_withFiring] at hfired
      unfold Timers.Firing.postAll
      rcases hpost : firing.post now a.ref.id timer entry with ⟨posted, _ | _⟩
      · rw [hpost] at hfired
        exact ⟨_, hfired⟩
      · rw [hpost] at hfired
        exact ih hfired

theorem run_fireTimers (a : Actor α) (now : Instant) :
    exists trace : List (Event α), Run a trace (a.fireTimers now) := by
  unfold fireTimers
  split
  · exact run_postAll (a.timers.due now) Run.refl
  · exact ⟨[], Run.refl⟩

end Actor
end Troupe
