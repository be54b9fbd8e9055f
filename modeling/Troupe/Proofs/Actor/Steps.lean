import Troupe.Proofs.Actor.Runs
import Troupe.Proofs.Timer.Tables

/-!
# The shapes of a step

What each kind of step can do to an actor, said once.  Disturbances leave the
actor's control (its state, the hook under way and the agenda) alone; moves and the
ends of hooks exclude each other, since an actor moves only between hooks.
-/

namespace Troupe
namespace Actor

variable {α : Type}

/-!
## Disturbances
-/

/-- Every change that others can make to an actor. -/
inductive Quiet (a : Actor α) : Option (Event α) -> Actor α -> Prop where
  | silent (timers : Timers) (props : Props) (dropped : Nat) :
      (a.hook = none -> timers.armedHandles ⊆ a.timers.armedHandles) ->
        Quiet a none
          { a with timers := timers, props := props,
                   stats := { a.stats with firesDropped := dropped } }
  | posted (env : Envelope) (timers : Timers) :
      a.mailbox.closed = false -> timers.armedHandles ⊆ a.timers.armedHandles ->
        Quiet a (some (Event.accepted env))
          { a with timers := timers,
                   mailbox := { a.mailbox with queue := a.mailbox.queue ++ [env] } }
  | armed (timer : TimerHandle) (timers : Timers) :
      timers.armedHandles ⊆ timer :: a.timers.armedHandles ->
        Quiet a (some (Event.armed timer)) { a with timers := timers }
  | asked : Quiet a (some Event.stopRequested) { a with stopRequested := true }

theorem tryEnqueue_eq_ok {m m' : Mailbox} {env : Envelope} (h : m.tryEnqueue env = .ok m') :
    m.closed = false ∧ m' = { m with queue := m.queue ++ [env] } := by
  unfold Mailbox.tryEnqueue at h
  split at h
  · cases h
  · next hopen =>
      split at h
      · cases h
      · cases h
        exact ⟨by simpa using hopen, rfl⟩

theorem armedHandles_rearm_subset (t : Timers) (now : Instant) (timer : TimerHandle)
    (entry : ArmedTimer) : (t.rearm now timer entry).armedHandles ⊆ t.armedHandles := by
  rw [Timers.armedHandles_rearm]
  split
  · exact List.filter_subset_self _
  · exact List.Subset.refl _

theorem quiet_fire (a : Actor α) (now : Instant) (timer : TimerHandle) (entry : ArmedTimer) :
    Quiet a (a.fireEvent? timer) (a.fire now timer entry) := by
  have harmed := armedHandles_rearm_subset a.timers now timer entry
  unfold fireEvent? fire withFiring Timers.Firing.post
  cases hpost : a.mailbox.tryEnqueue (Envelope.sentBy (Message.timerFired timer) a.ref.id) with
  | ok mailbox =>
      obtain ⟨hopen, rfl⟩ := tryEnqueue_eq_ok hpost
      simp only [hpost]
      exact Quiet.posted _ _ hopen harmed
  | error refusal =>
      cases refusal with
      | full =>
          simp only [hpost]
          exact Quiet.silent _ a.props _ fun _ => harmed
      | closed =>
          simp only [hpost]
          exact Quiet.silent _ a.props _ fun _ => harmed

theorem quiet_arm (a : Actor α) (now : Instant) (period : Duration) (repeating : Bool) :
    Quiet a (some (Event.armed (a.timers.register now period repeating).1))
      { a with timers := (a.timers.register now period repeating).2 } := by
  refine Quiet.armed _ _ fun timer hmem => ?_
  simpa [Timers.armedHandles, Timers.register, or_comm] using hmem

theorem Disturbance.quiet {a a' : Actor α} {event? : Option (Event α)}
    (h : Disturbance a event? a') : Quiet a event? a' := by
  cases h with
  | accept haccept =>
      unfold Actor.accept at haccept
      split at haccept
      · next mailbox hpost =>
          obtain ⟨hopen, rfl⟩ := tryEnqueue_eq_ok hpost
          cases haccept
          exact Quiet.posted _ a.timers hopen (List.Subset.refl _)
      · cases haccept
  | refuse _ =>
      exact Quiet.silent a.timers a.props a.stats.firesDropped fun _ => List.Subset.refl _
  | requestStop => exact Quiet.asked
  | fire now timer entry => exact quiet_fire a now timer entry
  | arm now period repeating => exact quiet_arm a now period repeating
  | cancel timer =>
      refine Quiet.silent _ a.props a.stats.firesDropped fun _ => ?_
      change (a.timers.disarm timer).armedHandles ⊆ a.timers.armedHandles
      rw [Timers.armedHandles_disarm]
      exact List.filter_subset_self _
  | cancelAll =>
      exact Quiet.silent _ a.props a.stats.firesDropped fun _ => List.nil_subset _
  | work timers props hhook =>
      refine Quiet.silent timers props a.stats.firesDropped fun hfree => ?_
      rw [hhook] at hfree
      cases hfree

/-!
## Moves
-/

inductive Opening (a : Actor α) (env : Envelope) : Option (Event α) -> Actor α -> Prop where
  | ignored (timers : Timers) :
      Opening a env (some (Event.ignored env)) { a with timers := timers }
  | began {hook : Hook α} (timers : Timers) (props : Props) :
      hook.forEnvelope = true ->
        Opening a env (some (Event.began hook (some env)))
          { a with timers := timers, props := props, hook := some hook,
                   stats := { a.stats with delivered := a.stats.delivered + 1 } }
  | refused (props : Props) :
      Opening a env none
        { a with props := props,
                 stats := { a.stats with delivered := a.stats.delivered + 1,
                                         failed := a.stats.failed + 1 } }
  | unmatched :
      Opening a env none { a with stats := { a.stats with unmatched := a.stats.unmatched + 1 } }

theorem opening_message {a : Actor α} (env : Envelope) (hfree : a.hook = none) :
    Opening a env ((a.openMessage env).hook.map fun hook => Event.began hook (some env))
      (a.openMessage env) := by
  unfold openMessage
  split
  · exact Opening.began a.timers a.props rfl
  · rw [show a.countUnmatched.hook = none from hfree]
    exact Opening.unmatched

theorem opening_write {a : Actor α} (env : Envelope) (payload : Tree) (hfree : a.hook = none) :
    Opening a env ((a.openWrite payload).hook.map fun hook => Event.began hook (some env))
      (a.openWrite payload) := by
  unfold openWrite
  rcases happly : a.countDelivered.props.apply a.countDelivered.ref.name payload with
    ⟨error | previous, props⟩
  · have hrefused : { a.countDelivered with props := props }.countFailed.hook = none := hfree
    simp only [happly, hrefused]
    exact Opening.refused props
  · simp only [happly]
    exact Opening.began a.timers props rfl

theorem opening_fire {a : Actor α} {env : Envelope} {timer : TimerHandle}
    (hmessage : env.message = Message.timerFired timer) (hown : env.sender = some a.ref.id) :
    Opening a env (a.dutyEvent? (Duty.handle env)) (a.openFire timer) := by
  simp only [dutyEvent?, ignores, openEnvelope, openFire, hmessage, hown]
  rcases haccept : a.timers.acceptFire timer with ⟨_ | _, timers⟩
  · exact Opening.ignored timers
  · exact Opening.began timers a.props rfl

theorem dutyEvent?_handle {a : Actor α} {env : Envelope} (h : a.ignores env = false) :
    a.dutyEvent? (Duty.handle env) =
      (a.openEnvelope env).hook.map fun hook => Event.began hook (some env) := by
  simp [dutyEvent?, h]

theorem opening {a : Actor α} (env : Envelope) (hfree : a.hook = none) :
    Opening a env (a.dutyEvent? (Duty.handle env)) (a.openEnvelope env) := by
  cases hmessage : env.message with
  | timerFired timer =>
      by_cases hown : env.sender = some a.ref.id
      · have hopen : a.openEnvelope env = a.openFire timer := by simp [openEnvelope, hmessage, hown]
        rw [hopen]
        exact opening_fire hmessage hown
      · have hopen : a.openEnvelope env = a.openMessage env := by
          simp [openEnvelope, hmessage, hown]
        rw [dutyEvent?_handle (by simp [ignores, hmessage, hown]), hopen]
        exact opening_message env hfree
  | setProps topic payload =>
      have hopen : a.openEnvelope env = a.openWrite payload := by simp [openEnvelope, hmessage]
      rw [dutyEvent?_handle (by simp [ignores, hmessage]), hopen]
      exact opening_write env payload hfree
  | _ =>
      have hopen : a.openEnvelope env = a.openMessage env := by simp [openEnvelope, hmessage]
      rw [dutyEvent?_handle (by simp [ignores, hmessage]), hopen]
      exact opening_message env hfree

inductive Carried (a : Actor α) : Duty α -> Option (Event α) -> Actor α -> Prop where
  | publish (state : ActorState) :
      Carried a (Duty.publish state) (some (Event.published state)) { a with state := state }
  | begin (hook : Hook α) :
      Carried a (Duty.begin hook) (some (Event.began hook none)) { a with hook := some hook }
  | take {env : Envelope} {rest : List Envelope} :
      a.mailbox.queue = env :: rest ->
        Carried a Duty.take (some (Event.took env))
          { a with mailbox := { a.mailbox with queue := rest }, agenda := [Duty.handle env] }
  | leave : a.mailbox.closed = true -> Carried a Duty.take none { a with agenda := windingDown }
  | wait : Carried a Duty.take none { a with agenda := [Duty.wait] }
  | wake : Carried a Duty.wait none a
  | handle {env : Envelope} {event? : Option (Event α)} {a' : Actor α} :
      Opening a env event? a' -> Carried a (Duty.handle env) event? a'
  | requestStop :
      Carried a Duty.requestStop (some Event.stopRequested) { a with stopRequested := true }
  | drain : Carried a Duty.drain none a.drain
  | cancelTimers : Carried a Duty.cancelTimers (some Event.timersCancelled) a.cancelTimers

theorem carried_take (a : Actor α) : Carried a Duty.take (a.dutyEvent? Duty.take) a.take := by
  unfold dutyEvent? take Mailbox.receive
  cases hqueue : a.mailbox.queue with
  | nil =>
      cases hclosed : a.mailbox.closed with
      | true => exact Carried.leave hclosed
      | false => exact Carried.wait
  | cons env rest => exact Carried.take hqueue

theorem carried {a : Actor α} (duty : Duty α) (hfree : a.hook = none) :
    Carried a duty (a.dutyEvent? duty) (a.carryOut duty) := by
  cases duty with
  | publish state => exact Carried.publish state
  | begin hook => exact Carried.begin hook
  | take => exact carried_take a
  | wait => exact Carried.wake
  | handle env => exact Carried.handle (opening env hfree)
  | requestStop => exact Carried.requestStop
  | drain => exact Carried.drain
  | cancelTimers => exact Carried.cancelTimers

/-- Every move of an actor between hooks. -/
inductive Move (a : Actor α) : Option (Event α) -> Actor α -> Prop where
  | duty {duty : Duty α} {rest : List (Duty α)} {event? : Option (Event α)} {a' : Actor α} :
      a.agenda = duty :: rest -> Carried { a with agenda := rest } duty event? a' ->
        Move a event? a'
  | look :
      a.agenda = [] -> a.state = ActorState.running -> a.stopRequested = false ->
        Move a (some Event.looked) { a with agenda := [Duty.take] }
  | leave :
      a.agenda = [] -> a.state = ActorState.running -> a.stopRequested = true ->
        Move a none { a with agenda := windingDown }

theorem move_look {a : Actor α} (hagenda : a.agenda = [])
    (hstate : a.state = ActorState.running) : Move a a.moveEvent? a.look := by
  by_cases hstop : a.stopRequested = true
  · have hevent : a.moveEvent? = none := by simp [moveEvent?, hagenda, hstop]
    rw [hevent, look, if_pos hstop]
    exact Move.leave hagenda hstate hstop
  · have hevent : a.moveEvent? = some Event.looked := by simp [moveEvent?, hagenda, hstop]
    rw [hevent, look, if_neg hstop]
    exact Move.look hagenda hstate (Bool.eq_false_iff.mpr hstop)

theorem move_of_advance {a a' : Actor α} (h : a.advance = some a') :
    a.hook = none ∧ Move a a.moveEvent? a' := by
  unfold advance at h
  split at h
  · cases h
  · next duty rest hfree hagenda =>
      split at h
      · cases h
        refine ⟨hfree, ?_⟩
        unfold moveEvent?
        rw [hagenda]
        exact Move.duty hagenda (carried duty hfree)
      · cases h
  · next hfree hagenda =>
      split at h
      · next hstate =>
          cases h
          exact ⟨hfree, move_look hagenda hstate⟩
      · cases h

theorem begins_windingDown {hook : Hook α} (hmem : Duty.begin hook ∈ windingDown) :
    hook.forEnvelope = false := by
  obtain rfl : hook = Hook.stop := by simpa [windingDown] using hmem
  rfl

/-!
## The end of a hook
-/

inductive Conclusion (a : Actor α) : Hook α -> Except ActorError Unit -> Actor α -> Prop where
  | started :
      Conclusion a Hook.start (.ok ())
        { a with hook := none, agenda := [Duty.publish ActorState.running] }
  | startFailed (error : ActorError) :
      Conclusion a Hook.start (.error error)
        { a with
          hook := none, agenda := givingUp,
          stats := { a.stats with
            startupError := a.stats.startupError <|> some error.message } }
  | stopped {result : Except ActorError Unit} :
      Conclusion a Hook.stop result
        { a with hook := none, agenda := [Duty.publish ActorState.stopped] }
  | succeeded {hook : Hook α} :
      hook.forEnvelope = true -> Conclusion a hook (.ok ()) { a with hook := none }
  | failed {hook : Hook α} (error : ActorError) (props : Props) :
      hook.forEnvelope = true ->
        Conclusion a hook (.error error)
          { a with hook := none, props := props,
                   stats := { a.stats with failed := a.stats.failed + 1 } }

theorem conclusion {a : Actor α} {hook : Hook α} (bridge : Bridge)
    (result : Except ActorError Unit) (hhook : a.hook = some hook) :
    Conclusion a hook result (a.conclude bridge result).1 := by
  unfold conclude
  rw [hhook]
  cases hook with
  | start =>
      cases result with
      | ok _ => exact Conclusion.started
      | error error => exact Conclusion.startFailed error
  | stop => exact Conclusion.stopped
  | timer timer =>
      cases result with
      | ok _ => exact Conclusion.succeeded rfl
      | error error => exact Conclusion.failed error a.props rfl
  | message handler message =>
      cases result with
      | ok _ => exact Conclusion.succeeded rfl
      | error error => exact Conclusion.failed error a.props rfl
  | props previous =>
      cases result with
      | ok _ =>
          simp only
          split <;> exact Conclusion.succeeded rfl
      | error error => exact Conclusion.failed error _ rfl

/-!
## Steps
-/

inductive Shape (a : Actor α) : Option (Event α) -> Actor α -> Prop where
  | quiet {event? : Option (Event α)} {a' : Actor α} : Quiet a event? a' -> Shape a event? a'
  | move {event? : Option (Event α)} {a' : Actor α} :
      a.hook = none -> Move a event? a' -> Shape a event? a'
  | conclusion {hook : Hook α} {result : Except ActorError Unit} {a' : Actor α} :
      a.hook = some hook -> Conclusion a hook result a' ->
        Shape a (some (Event.ended hook result)) a'

theorem Step.shape {a a' : Actor α} {event? : Option (Event α)} (h : Step a event? a') :
    Shape a event? a' := by
  cases h with
  | disturbed hdisturbance => exact Shape.quiet hdisturbance.quiet
  | moved hadvance =>
      obtain ⟨hfree, hmove⟩ := move_of_advance hadvance
      exact Shape.move hfree hmove
  | stirred hfree hagenda => exact Shape.move hfree (Move.duty hagenda Carried.wake)
  | concluded bridge result hhook => exact Shape.conclusion hhook (conclusion bridge result hhook)

end Actor
end Troupe
