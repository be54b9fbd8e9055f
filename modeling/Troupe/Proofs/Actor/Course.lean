import Troupe.Proofs.Actor.Steps

/-!
# The course of a life

Where an actor can be in its life, and what its trace shows by then.  Every step
either leaves the actor where it is or takes it one place further, so whatever holds
in all places holds along every run.
-/

namespace Troupe

/-!
## What a trace shows
-/

namespace Event

variable {α : Type}

def published? : Event α -> Option ActorState
  | published state => some state
  | _ => none

def began? : Event α -> Option (Hook α)
  | began hook _ => some hook
  | _ => none

def startResult? : Event α -> Option (Except ActorError Unit)
  | ended Hook.start result => some result
  | _ => none

end Event

namespace Actor

variable {α : Type}

def published (trace : List (Event α)) : List ActorState :=
  trace.filterMap Event.published?

def begun (trace : List (Event α)) : List (Hook α) :=
  trace.filterMap Event.began?

def startResults (trace : List (Event α)) : List (Except ActorError Unit) :=
  trace.filterMap Event.startResult?

/-!
## Places

On both ways out, an actor has duties left before it is safe to call it stopped:
the stop flag has to be set and the mailbox drained.
-/

/-- What others can see of where an actor is, and what it is about to do. -/
structure At (a : Actor α) (state : ActorState) (hook : Option (Hook α))
    (agenda : List (Duty α)) : Prop where
  state : a.state = state
  hook : a.hook = hook
  agenda : a.agenda = agenda

structure Fresh (a : Actor α) : Prop where
  delivered : a.stats.delivered = 0
  startupError : a.stats.startupError = none

structure Failed (a : Actor α) (error : ActorError) : Prop where
  delivered : a.stats.delivered = 0
  startupError : a.stats.startupError = some error.message

/-- Nothing comes in any more. -/
structure Sealed (a : Actor α) : Prop where
  stopRequested : a.stopRequested = true
  closed : a.mailbox.closed = true
  queue : a.mailbox.queue = []

/-- Each duty of the way out is either done or still ahead. -/
structure Leaving (a : Actor α) (ahead : List (Duty α)) : Prop where
  stop : Duty.requestStop ∈ ahead ∨ a.stopRequested = true
  mailbox : Duty.drain ∈ ahead ∨ a.mailbox.closed = true ∧ a.mailbox.queue = []

def Turns (hooks : List (Hook α)) : Prop :=
  forall hook : Hook α, hook ∈ hooks -> hook.forEnvelope = true

/-- The agendas of the receive loop. -/
inductive Receiving : List (Duty α) -> Prop where
  | look : Receiving []
  | take : Receiving [Duty.take]
  | wait : Receiving [Duty.wait]
  | handle (env : Envelope) : Receiving [Duty.handle env]

/-- The way out of the receive loop, once it has been published. -/
def closing : List (Duty α) :=
  [Duty.requestStop, Duty.drain, Duty.cancelTimers, Duty.begin Hook.stop]

/-- The places of a life, with the states published, the hooks begun and the
results of startups up to there. -/
inductive Course :
    List ActorState -> List (Hook α) -> List (Except ActorError Unit) -> Actor α -> Prop where
  | created {a : Actor α} :
      At a ActorState.created none startingUp -> Fresh a -> Course [] [] [] a
  | waking {a : Actor α} :
      At a ActorState.starting none [Duty.begin Hook.start] -> Fresh a ->
        Course [ActorState.starting] [] [] a
  | starting {a : Actor α} :
      At a ActorState.starting (some Hook.start) [] -> Fresh a ->
        Course [ActorState.starting] [Hook.start] [] a
  | started {a : Actor α} :
      At a ActorState.starting none [Duty.publish ActorState.running] ->
        Course [ActorState.starting] [Hook.start] [.ok ()] a
  | receiving {a : Actor α} {turns : List (Hook α)} {agenda : List (Duty α)} :
      At a ActorState.running none agenda -> Receiving agenda -> Turns turns ->
        Course [ActorState.starting, ActorState.running] (Hook.start :: turns) [.ok ()] a
  | handling {a : Actor α} {turns : List (Hook α)} {hook : Hook α} :
      At a ActorState.running (some hook) [] -> hook.forEnvelope = true ->
        Turns turns ->
          Course [ActorState.starting, ActorState.running] (Hook.start :: turns) [.ok ()] a
  | leaving {a : Actor α} {turns : List (Hook α)} :
      At a ActorState.running none windingDown ->
        Turns turns ->
          Course [ActorState.starting, ActorState.running] (Hook.start :: turns) [.ok ()] a
  | draining {a : Actor α} {turns : List (Hook α)} {duty : Duty α} {rest : List (Duty α)} :
      At a ActorState.draining none (duty :: rest) -> Leaving a (duty :: rest) ->
        duty :: rest <:+ closing ->
          Turns turns ->
            Course [ActorState.starting, ActorState.running, ActorState.draining]
              (Hook.start :: turns) [.ok ()] a
  | stopping {a : Actor α} {turns : List (Hook α)} :
      At a ActorState.draining (some Hook.stop) [] -> Sealed a ->
        Turns turns ->
          Course [ActorState.starting, ActorState.running, ActorState.draining]
            (Hook.start :: turns ++ [Hook.stop]) [.ok ()] a
  | ended {a : Actor α} {turns : List (Hook α)} :
      At a ActorState.draining none [Duty.publish ActorState.stopped] -> Sealed a ->
        Turns turns ->
          Course [ActorState.starting, ActorState.running, ActorState.draining]
            (Hook.start :: turns ++ [Hook.stop]) [.ok ()] a
  | stopped {a : Actor α} {turns : List (Hook α)} :
      At a ActorState.stopped none [] -> Sealed a ->
        Turns turns ->
          Course
            [ActorState.starting, ActorState.running, ActorState.draining, ActorState.stopped]
            (Hook.start :: turns ++ [Hook.stop]) [.ok ()] a
  | failing {a : Actor α} {error : ActorError} {duty : Duty α} {rest : List (Duty α)} :
      At a ActorState.starting none (duty :: rest) -> Leaving a (duty :: rest) ->
        duty :: rest <:+ givingUp -> Failed a error ->
          Course [ActorState.starting] [Hook.start] [.error error] a
  | failed {a : Actor α} {error : ActorError} :
      At a ActorState.stopped none [] -> Sealed a -> Failed a error ->
        Course [ActorState.starting, ActorState.stopped] [Hook.start] [.error error] a

theorem course_create (ref : ActorRef) (device : String) (handlers : Handlers α)
    (capacity : Nat) : Course [] [] [] (create ref device handlers capacity) :=
  Course.created ⟨rfl, rfl, rfl⟩ ⟨rfl, rfl⟩

/-!
## Disturbances
-/

section Quiet

variable {a a' : Actor α} {event? : Option (Event α)}

theorem Quiet.at {state : ActorState} {hook : Option (Hook α)} {agenda : List (Duty α)}
    (h : Quiet a event? a') (hat : At a state hook agenda) : At a' state hook agenda := by
  cases h <;> exact ⟨hat.state, hat.hook, hat.agenda⟩

theorem Quiet.fresh (h : Quiet a event? a') (hfresh : Fresh a) : Fresh a' := by
  cases h <;> exact ⟨hfresh.delivered, hfresh.startupError⟩

theorem Quiet.failed {error : ActorError} (h : Quiet a event? a') (hfailed : Failed a error) :
    Failed a' error := by
  cases h <;> exact ⟨hfailed.delivered, hfailed.startupError⟩

theorem Quiet.leaving {ahead : List (Duty α)} (h : Quiet a event? a')
    (hleaving : Leaving a ahead) : Leaving a' ahead := by
  obtain ⟨hstop, hmailbox⟩ := hleaving
  cases h with
  | silent => exact ⟨hstop, hmailbox⟩
  | posted env timers hopen =>
      refine ⟨hstop, hmailbox.imp_right fun hclosed => ?_⟩
      rw [hopen] at hclosed
      cases hclosed.1
  | armed => exact ⟨hstop, hmailbox⟩
  | asked => exact ⟨Or.inr rfl, hmailbox⟩

theorem Quiet.sealed (h : Quiet a event? a') (hsealed : Sealed a) : Sealed a' := by
  cases h with
  | silent => exact ⟨hsealed.stopRequested, hsealed.closed, hsealed.queue⟩
  | posted env timers hopen =>
      rw [hsealed.closed] at hopen
      cases hopen
  | armed => exact ⟨hsealed.stopRequested, hsealed.closed, hsealed.queue⟩
  | asked => exact ⟨rfl, hsealed.closed, hsealed.queue⟩

theorem Quiet.course {states : List ActorState} {hooks : List (Hook α)}
    {results : List (Except ActorError Unit)} (h : Quiet a event? a')
    (hcourse : Course states hooks results a) : Course states hooks results a' := by
  cases hcourse with
  | created hat hfresh => exact Course.created (h.at hat) (h.fresh hfresh)
  | waking hat hfresh => exact Course.waking (h.at hat) (h.fresh hfresh)
  | starting hat hfresh => exact Course.starting (h.at hat) (h.fresh hfresh)
  | started hat => exact Course.started (h.at hat)
  | receiving hat hagenda hturns => exact Course.receiving (h.at hat) hagenda hturns
  | handling hat hhook hturns => exact Course.handling (h.at hat) hhook hturns
  | leaving hat hturns => exact Course.leaving (h.at hat) hturns
  | draining hat hleaving hplan hturns =>
      exact Course.draining (h.at hat) (h.leaving hleaving) hplan hturns
  | stopping hat hsealed hturns => exact Course.stopping (h.at hat) (h.sealed hsealed) hturns
  | ended hat hsealed hturns => exact Course.ended (h.at hat) (h.sealed hsealed) hturns
  | stopped hat hsealed hturns => exact Course.stopped (h.at hat) (h.sealed hsealed) hturns
  | failing hat hleaving hplan hfailed =>
      exact Course.failing (h.at hat) (h.leaving hleaving) hplan (h.failed hfailed)
  | failed hat hsealed hfailed =>
      exact Course.failed (h.at hat) (h.sealed hsealed) (h.failed hfailed)

theorem Quiet.shows (h : Quiet a event? a') :
    published event?.toList = [] ∧ begun event?.toList = [] ∧
      startResults event?.toList = [] := by
  cases h <;> exact ⟨rfl, rfl, rfl⟩

end Quiet

/-!
## Moves
-/

section Leaving

variable {a : Actor α} {rest : List (Duty α)}

theorem still_ahead {duty next : Duty α} {done : Prop} (h : duty ∈ next :: rest ∨ done)
    (hne : duty ≠ next) : duty ∈ rest ∨ done :=
  h.imp_left (List.mem_of_ne_of_mem hne)

theorem Leaving.requestStop (h : Leaving a (Duty.requestStop :: rest)) :
    Leaving { a with agenda := rest }.requestStop rest :=
  ⟨Or.inr rfl, still_ahead h.mailbox nofun⟩

theorem Leaving.drain (h : Leaving a (Duty.drain :: rest)) :
    Leaving { a with agenda := rest }.drain rest :=
  ⟨still_ahead h.stop nofun, Or.inr ⟨rfl, rfl⟩⟩

theorem Leaving.cancelTimers (h : Leaving a (Duty.cancelTimers :: rest)) :
    Leaving { a with agenda := rest }.cancelTimers rest :=
  ⟨still_ahead h.stop nofun, still_ahead h.mailbox nofun⟩

theorem Leaving.sealed (h : Leaving a rest) (hstop : Duty.requestStop ∉ rest)
    (hdrain : Duty.drain ∉ rest) : Sealed a := by
  have hmailbox := h.mailbox.resolve_left hdrain
  exact ⟨h.stop.resolve_left hstop, hmailbox.1, hmailbox.2⟩

end Leaving

section Move

variable {a a' : Actor α} {event? : Option (Event α)}

theorem Move.carried {duty : Duty α} {rest : List (Duty α)} (h : Move a event? a')
    (hagenda : a.agenda = duty :: rest) : Carried { a with agenda := rest } duty event? a' := by
  cases h with
  | duty hother hcarried =>
      obtain ⟨rfl, rfl⟩ := List.cons.inj (hother.symm.trans hagenda)
      exact hcarried
  | look hnone => cases hnone.symm.trans hagenda
  | leave hnone => cases hnone.symm.trans hagenda

theorem Move.running (h : Move a event? a') (hagenda : a.agenda = []) :
    a.state = ActorState.running := by
  cases h with
  | duty hsome => cases hsome.symm.trans hagenda
  | look _ hstate => exact hstate
  | leave _ hstate => exact hstate

theorem Course.append_nothing {states : List ActorState} {hooks shown : List (Hook α)}
    {results : List (Except ActorError Unit)} (h : Course states hooks results a)
    (hshown : shown = []) : Course states (hooks ++ shown) results a := by
  rw [hshown, List.append_nil]
  exact h

theorem Opening.shows {env : Envelope} (h : Opening a env event? a') :
    published event?.toList = [] ∧ startResults event?.toList = [] := by
  cases h <;> exact ⟨rfl, rfl⟩

theorem Opening.course {env : Envelope} {turns : List (Hook α)}
    (h : Opening a env event? a') (hat : At a ActorState.running none []) (hturns : Turns turns) :
    Course [ActorState.starting, ActorState.running]
      (Hook.start :: turns ++ begun event?.toList) [.ok ()] a' := by
  obtain ⟨hstate, hfree, hagenda⟩ := hat
  cases h with
  | ignored timers =>
      refine Course.append_nothing ?_ rfl
      exact Course.receiving ⟨hstate, hfree, hagenda⟩ Receiving.look hturns
  | @began hook timers props hhook =>
      refine Course.handling ⟨hstate, rfl, hagenda⟩ hhook fun other hother => ?_
      rcases List.mem_append.mp hother with hbefore | hlast
      · exact hturns other hbefore
      · obtain rfl : other = hook := by simpa [begun, Event.began?] using hlast
        exact hhook
  | refused props =>
      refine Course.append_nothing ?_ rfl
      exact Course.receiving ⟨hstate, hfree, hagenda⟩ Receiving.look hturns
  | unmatched =>
      refine Course.append_nothing ?_ rfl
      exact Course.receiving ⟨hstate, hfree, hagenda⟩ Receiving.look hturns

theorem Move.receiving {turns : List (Hook α)} {agenda : List (Duty α)}
    (h : Move a event? a') (hat : At a ActorState.running none agenda)
    (hagenda : Receiving agenda) (hturns : Turns turns) :
    published event?.toList = [] ∧
      Course [ActorState.starting, ActorState.running]
        (Hook.start :: turns ++ begun event?.toList) [.ok ()] a' := by
  obtain ⟨hstate, hfree, hfirst⟩ := hat
  cases hagenda with
  | look =>
      cases h with
      | duty hsome => cases hsome.symm.trans hfirst
      | look =>
          refine ⟨rfl, Course.append_nothing ?_ rfl⟩
          exact Course.receiving ⟨hstate, hfree, rfl⟩ Receiving.take hturns
      | leave =>
          refine ⟨rfl, Course.append_nothing ?_ rfl⟩
          exact Course.leaving ⟨hstate, hfree, rfl⟩ hturns
  | take =>
      cases h.carried hfirst with
      | take =>
          refine ⟨rfl, Course.append_nothing ?_ rfl⟩
          exact Course.receiving ⟨hstate, hfree, rfl⟩ (Receiving.handle _) hturns
      | leave =>
          refine ⟨rfl, Course.append_nothing ?_ rfl⟩
          exact Course.leaving ⟨hstate, hfree, rfl⟩ hturns
      | wait =>
          refine ⟨rfl, Course.append_nothing ?_ rfl⟩
          exact Course.receiving ⟨hstate, hfree, rfl⟩ Receiving.wait hturns
  | wait =>
      cases h.carried hfirst
      refine ⟨rfl, Course.append_nothing ?_ rfl⟩
      exact Course.receiving ⟨hstate, hfree, rfl⟩ Receiving.look hturns
  | handle env =>
      cases h.carried hfirst with
      | handle hopen => exact ⟨hopen.shows.1, hopen.course ⟨hstate, hfree, rfl⟩ hturns⟩

theorem turns_nil : Turns ([] : List (Hook α)) :=
  nofun

theorem Move.draining {turns : List (Hook α)} {duty : Duty α} {rest : List (Duty α)}
    (h : Move a event? a') (hat : At a ActorState.draining none (duty :: rest))
    (hleaving : Leaving a (duty :: rest)) (hplan : duty :: rest <:+ closing)
    (hturns : Turns turns) :
    Course [ActorState.starting, ActorState.running, ActorState.draining]
      (Hook.start :: turns ++ begun event?.toList) [.ok ()] a' := by
  have hcarried := h.carried hat.agenda
  obtain ⟨hstate, hfree, -⟩ := hat
  simp only [closing, List.suffix_cons_iff, List.cons.injEq, List.suffix_nil, reduceCtorEq,
    or_false] at hplan
  rcases hplan with ⟨rfl, rfl⟩ | ⟨rfl, rfl⟩ | ⟨rfl, rfl⟩ | ⟨rfl, rfl⟩ <;> cases hcarried
  · refine Course.append_nothing ?_ rfl
    exact Course.draining ⟨hstate, hfree, rfl⟩ hleaving.requestStop
      (List.suffix_cons _ _) hturns
  · refine Course.append_nothing ?_ rfl
    exact Course.draining ⟨hstate, hfree, rfl⟩ hleaving.drain
      (by simp [closing, List.suffix_cons_iff]) hturns
  · refine Course.append_nothing ?_ rfl
    exact Course.draining ⟨hstate, hfree, rfl⟩ hleaving.cancelTimers
      (by simp [closing, List.suffix_cons_iff]) hturns
  · have hsealed := hleaving.sealed (by simp) (by simp)
    exact Course.stopping ⟨hstate, rfl, rfl⟩
      ⟨hsealed.stopRequested, hsealed.closed, hsealed.queue⟩ hturns

theorem Move.draining_shows {duty : Duty α} {rest : List (Duty α)} (h : Move a event? a')
    (hat : At a ActorState.draining none (duty :: rest)) (hplan : duty :: rest <:+ closing) :
    published event?.toList = [] := by
  have hcarried := h.carried hat.agenda
  have hduty : duty ∈ closing := hplan.subset List.mem_cons_self
  simp only [closing, List.mem_cons, List.not_mem_nil, or_false] at hduty
  rcases hduty with rfl | rfl | rfl | rfl <;> cases hcarried <;> rfl

theorem Move.failing {error : ActorError} {duty : Duty α} {rest : List (Duty α)}
    (h : Move a event? a') (hat : At a ActorState.starting none (duty :: rest))
    (hleaving : Leaving a (duty :: rest)) (hplan : duty :: rest <:+ givingUp)
    (hfailed : Failed a error) :
    Course ([ActorState.starting] ++ published event?.toList)
      ([Hook.start] ++ begun event?.toList) [.error error] a' := by
  have hcarried := h.carried hat.agenda
  obtain ⟨hstate, hfree, -⟩ := hat
  obtain ⟨hdelivered, herror⟩ := hfailed
  simp only [givingUp, List.suffix_cons_iff, List.cons.injEq, List.suffix_nil, reduceCtorEq,
    or_false] at hplan
  rcases hplan with ⟨rfl, rfl⟩ | ⟨rfl, rfl⟩ | ⟨rfl, rfl⟩ | ⟨rfl, rfl⟩ <;> cases hcarried
  · exact Course.failing ⟨hstate, hfree, rfl⟩ hleaving.requestStop
      (List.suffix_cons _ _) ⟨hdelivered, herror⟩
  · exact Course.failing ⟨hstate, hfree, rfl⟩ hleaving.cancelTimers
      (by simp [givingUp, List.suffix_cons_iff]) ⟨hdelivered, herror⟩
  · exact Course.failing ⟨hstate, hfree, rfl⟩ hleaving.drain
      (by simp [givingUp, List.suffix_cons_iff]) ⟨hdelivered, herror⟩
  · have hsealed := hleaving.sealed (by simp) (by simp)
    exact Course.failed ⟨rfl, hfree, rfl⟩
      ⟨hsealed.stopRequested, hsealed.closed, hsealed.queue⟩ ⟨hdelivered, herror⟩

theorem Move.course {states : List ActorState} {hooks : List (Hook α)}
    {results : List (Except ActorError Unit)} (h : Move a event? a') (hfree : a.hook = none)
    (hcourse : Course states hooks results a) :
    Course (states ++ published event?.toList) (hooks ++ begun event?.toList) results a' := by
  cases hcourse with
  | created hat hfresh =>
      cases h.carried hat.agenda
      exact Course.waking ⟨rfl, hat.hook, rfl⟩ ⟨hfresh.delivered, hfresh.startupError⟩
  | waking hat hfresh =>
      cases h.carried hat.agenda
      exact Course.starting ⟨hat.state, rfl, rfl⟩ ⟨hfresh.delivered, hfresh.startupError⟩
  | started hat =>
      cases h.carried hat.agenda
      exact Course.receiving ⟨rfl, hat.hook, rfl⟩ Receiving.look turns_nil
  | receiving hat hagenda hturns =>
      obtain ⟨hsilent, hnext⟩ := h.receiving hat hagenda hturns
      rw [hsilent]
      exact hnext
  | leaving hat hturns =>
      cases h.carried hat.agenda
      refine Course.append_nothing ?_ rfl
      exact Course.draining ⟨rfl, hat.hook, rfl⟩
        ⟨Or.inl (by simp), Or.inl (by simp)⟩ List.suffix_rfl hturns
  | draining hat hleaving hplan hturns =>
      have hsilent : published event?.toList = [] := h.draining_shows hat hplan
      rw [hsilent]
      exact h.draining hat hleaving hplan hturns
  | ended hat hsealed hturns =>
      cases h.carried hat.agenda
      refine Course.append_nothing ?_ rfl
      exact Course.stopped ⟨rfl, hat.hook, rfl⟩
        ⟨hsealed.stopRequested, hsealed.closed, hsealed.queue⟩ hturns
  | failing hat hleaving hplan hfailed => exact h.failing hat hleaving hplan hfailed
  | starting hat => cases hat.hook.symm.trans hfree
  | handling hat => cases hat.hook.symm.trans hfree
  | stopping hat => cases hat.hook.symm.trans hfree
  | stopped hat => cases hat.state.symm.trans (h.running hat.agenda)
  | failed hat => cases hat.state.symm.trans (h.running hat.agenda)

theorem Move.shows (h : Move a event? a') : startResults event?.toList = [] := by
  cases h with
  | duty _ hcarried =>
      cases hcarried with
      | handle hopen => exact hopen.shows.2
      | _ => rfl
  | look => rfl
  | leave => rfl

end Move

/-!
## The end of a hook
-/

theorem startResults_of_turn {hook : Hook α} (hturn : hook.forEnvelope = true)
    (result : Except ActorError Unit) : startResults [Event.ended hook result] = [] := by
  cases hook with
  | start => cases hturn
  | _ => rfl

theorem Conclusion.course {a a' : Actor α} {hook : Hook α} {result : Except ActorError Unit}
    {states : List ActorState} {hooks : List (Hook α)} {results : List (Except ActorError Unit)}
    (h : Conclusion a hook result a') (hhook : a.hook = some hook)
    (hcourse : Course states hooks results a) :
    Course states hooks (results ++ startResults [Event.ended hook result]) a' := by
  cases hcourse with
  | starting hat hfresh =>
      obtain rfl : Hook.start = hook := Option.some.inj (hat.hook.symm.trans hhook)
      cases h with
      | started => exact Course.started ⟨hat.state, rfl, rfl⟩
      | startFailed error =>
          refine Course.failing ⟨hat.state, rfl, rfl⟩
            ⟨Or.inl (by simp), Or.inl (by simp)⟩ List.suffix_rfl ?_
          exact ⟨hfresh.delivered, by simp [hfresh.startupError]⟩
      | succeeded hturn => cases hturn
      | failed _ _ hturn => cases hturn
  | @handling _ turns hook hat hturn hturns =>
      obtain rfl := Option.some.inj (hat.hook.symm.trans hhook)
      rw [startResults_of_turn hturn, List.append_nil]
      cases h with
      | started => cases hturn
      | startFailed => cases hturn
      | stopped => cases hturn
      | succeeded => exact Course.receiving ⟨hat.state, rfl, hat.agenda⟩ Receiving.look hturns
      | failed error props =>
          exact Course.receiving ⟨hat.state, rfl, hat.agenda⟩ Receiving.look hturns
  | stopping hat hsealed hturns =>
      obtain rfl : Hook.stop = hook := Option.some.inj (hat.hook.symm.trans hhook)
      cases h with
      | stopped =>
          exact Course.ended ⟨hat.state, rfl, rfl⟩
            ⟨hsealed.stopRequested, hsealed.closed, hsealed.queue⟩ hturns
      | succeeded hturn => cases hturn
      | failed _ _ hturn => cases hturn
  | created hat => cases hat.hook.symm.trans hhook
  | waking hat => cases hat.hook.symm.trans hhook
  | started hat => cases hat.hook.symm.trans hhook
  | receiving hat => cases hat.hook.symm.trans hhook
  | leaving hat => cases hat.hook.symm.trans hhook
  | draining hat => cases hat.hook.symm.trans hhook
  | ended hat => cases hat.hook.symm.trans hhook
  | stopped hat => cases hat.hook.symm.trans hhook
  | failing hat => cases hat.hook.symm.trans hhook
  | failed hat => cases hat.hook.symm.trans hhook

/-!
## Runs
-/

theorem Step.course {a a' : Actor α} {event? : Option (Event α)} {states : List ActorState}
    {hooks : List (Hook α)} {results : List (Except ActorError Unit)} (h : Step a event? a')
    (hcourse : Course states hooks results a) :
    Course (states ++ published event?.toList) (hooks ++ begun event?.toList)
      (results ++ startResults event?.toList) a' := by
  cases h.shape with
  | quiet hquiet =>
      obtain ⟨hstates, hhooks, hresults⟩ := hquiet.shows
      simpa only [hstates, hhooks, hresults, List.append_nil] using hquiet.course hcourse
  | move hfree hmove =>
      simpa only [hmove.shows, List.append_nil] using hmove.course hfree hcourse
  | conclusion hhook hconclusion =>
      simpa only [published, begun, Option.toList_some, List.filterMap, Event.published?,
        Event.began?, List.append_nil] using hconclusion.course hhook hcourse

theorem Run.course_from {a b : Actor α} {trace : List (Event α)} {states : List ActorState}
    {hooks : List (Hook α)} {results : List (Except ActorError Unit)} (h : Run a trace b)
    (hcourse : Course states hooks results a) :
    Course (states ++ published trace) (hooks ++ begun trace) (results ++ startResults trace)
      b := by
  induction h with
  | refl => simpa [published, begun, startResults] using hcourse
  | snoc _ hstep ih =>
      simpa only [published, begun, startResults, List.filterMap_append, List.append_assoc] using
        hstep.course ih

theorem Run.course {a : Actor α} {ref : ActorRef} {device : String} {handlers : Handlers α}
    {capacity : Nat} {trace : List (Event α)}
    (h : Run (create ref device handlers capacity) trace a) :
    Course (published trace) (begun trace) (startResults trace) a :=
  h.course_from (course_create ref device handlers capacity)

/-!
## What holds in all places
-/

section Places

variable {a : Actor α} {states : List ActorState} {hooks : List (Hook α)}
  {results : List (Except ActorError Unit)}

theorem Course.state_eq (h : Course states hooks results a) :
    a.state = states.getLastD ActorState.created := by
  cases h with
  | created hat => exact hat.state
  | waking hat => exact hat.state
  | starting hat => exact hat.state
  | started hat => exact hat.state
  | receiving hat => exact hat.state
  | handling hat => exact hat.state
  | leaving hat => exact hat.state
  | draining hat => exact hat.state
  | stopping hat => exact hat.state
  | ended hat => exact hat.state
  | stopped hat => exact hat.state
  | failing hat => exact hat.state
  | failed hat => exact hat.state

/-- While a hook is under way nothing else is on the agenda. -/
theorem Course.at_of_hook {hook : Hook α} (h : Course states hooks results a)
    (hhook : a.hook = some hook) :
    exists state : ActorState, At a state (some hook) [] ∧
      (hook = Hook.start -> state = ActorState.starting) := by
  cases h with
  | starting hat =>
      obtain rfl := Option.some.inj (hat.hook.symm.trans hhook)
      exact ⟨_, hat, fun _ => rfl⟩
  | handling hat hturn =>
      obtain rfl := Option.some.inj (hat.hook.symm.trans hhook)
      refine ⟨_, hat, fun hstart => ?_⟩
      cases hstart.symm ▸ hturn
  | stopping hat =>
      obtain rfl := Option.some.inj (hat.hook.symm.trans hhook)
      exact ⟨_, hat, fun hstart => by cases hstart⟩
  | created hat => cases hat.hook.symm.trans hhook
  | waking hat => cases hat.hook.symm.trans hhook
  | started hat => cases hat.hook.symm.trans hhook
  | receiving hat => cases hat.hook.symm.trans hhook
  | leaving hat => cases hat.hook.symm.trans hhook
  | draining hat => cases hat.hook.symm.trans hhook
  | ended hat => cases hat.hook.symm.trans hhook
  | stopped hat => cases hat.hook.symm.trans hhook
  | failing hat => cases hat.hook.symm.trans hhook
  | failed hat => cases hat.hook.symm.trans hhook

theorem Course.sealed_of_stopped (h : Course states hooks results a)
    (hstopped : a.state = ActorState.stopped) : Sealed a := by
  cases h with
  | stopped _ hsealed => exact hsealed
  | failed _ hsealed => exact hsealed
  | created hat => cases hat.state.symm.trans hstopped
  | waking hat => cases hat.state.symm.trans hstopped
  | starting hat => cases hat.state.symm.trans hstopped
  | started hat => cases hat.state.symm.trans hstopped
  | receiving hat => cases hat.state.symm.trans hstopped
  | handling hat => cases hat.state.symm.trans hstopped
  | leaving hat => cases hat.state.symm.trans hstopped
  | draining hat => cases hat.state.symm.trans hstopped
  | stopping hat => cases hat.state.symm.trans hstopped
  | ended hat => cases hat.state.symm.trans hstopped
  | failing hat => cases hat.state.symm.trans hstopped

end Places

end Actor
end Troupe
