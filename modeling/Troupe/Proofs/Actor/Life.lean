import Troupe.Proofs.Actor.Course

/-!
# The order of a life

Whatever happens to an actor and whenever it is asked to stop, its life takes one of
two courses: through the receive loop to the end, or straight to the end if its
startup fails.
-/

namespace Troupe

namespace Event

variable {α : Type}

@[simp]
def taken? : Event α -> Option Envelope
  | took env => some env
  | _ => none

/-- What a hook for an envelope began for. -/
@[simp]
def cause? : Event α -> Option (Option Envelope)
  | began hook cause => if hook.forEnvelope then some cause else none
  | _ => none

end Event

@[simp]
def Duty.envelope? {α : Type} : Duty α -> Option Envelope
  | Duty.handle env => some env
  | _ => none

namespace Actor

variable {α : Type}

def taken (trace : List (Event α)) : List Envelope :=
  trace.filterMap Event.taken?

def causes (trace : List (Event α)) : List (Option Envelope) :=
  trace.filterMap Event.cause?

/-- The envelopes that have been taken out and not yet been opened. -/
def inHand (a : Actor α) : List Envelope :=
  a.agenda.filterMap Duty.envelope?

theorem inHand_of_agenda {a : Actor α} {duty : Duty α} {rest : List (Duty α)}
    (hagenda : a.agenda = duty :: rest) :
    a.inHand = duty.envelope?.toList ++ rest.filterMap Duty.envelope? := by
  simp only [inHand, hagenda, List.filterMap_cons]
  cases duty.envelope? <;> rfl

/-!
## Agendas
-/

section Agendas

variable {a : Actor α} {states : List ActorState} {hooks : List (Hook α)}
  {results : List (Except ActorError Unit)}

theorem Course.agenda_cases (h : Course states hooks results a) :
    a.agenda <:+ startingUp ∨ a.agenda = [Duty.publish ActorState.running] ∨
      Receiving a.agenda ∨ a.agenda <:+ windingDown ∨ a.agenda <:+ givingUp := by
  cases h with
  | created hat => exact Or.inl (hat.agenda ▸ List.suffix_rfl)
  | waking hat => exact Or.inl (hat.agenda ▸ List.suffix_cons _ _)
  | starting hat => exact Or.inl (hat.agenda ▸ List.nil_suffix)
  | started hat => exact Or.inr (Or.inl hat.agenda)
  | receiving hat hagenda => exact Or.inr (Or.inr (Or.inl (hat.agenda ▸ hagenda)))
  | handling hat => exact Or.inl (hat.agenda ▸ List.nil_suffix)
  | leaving hat => exact Or.inr (Or.inr (Or.inr (Or.inl (hat.agenda ▸ List.suffix_rfl))))
  | draining hat _ hplan =>
      have hclosing : closing <:+ (windingDown : List (Duty α)) := List.suffix_cons _ _
      exact Or.inr (Or.inr (Or.inr (Or.inl (hat.agenda ▸ hplan.trans hclosing))))
  | stopping hat => exact Or.inl (hat.agenda ▸ List.nil_suffix)
  | ended hat =>
      have hlast : [Duty.publish ActorState.stopped] <:+ (givingUp : List (Duty α)) :=
        List.suffix_append [Duty.requestStop, Duty.cancelTimers, Duty.drain] _
      exact Or.inr (Or.inr (Or.inr (Or.inr (hat.agenda ▸ hlast))))
  | stopped hat => exact Or.inl (hat.agenda ▸ List.nil_suffix)
  | failing hat _ hplan => exact Or.inr (Or.inr (Or.inr (Or.inr (hat.agenda ▸ hplan))))
  | failed hat => exact Or.inl (hat.agenda ▸ List.nil_suffix)

theorem Receiving.of_mem {agenda : List (Duty α)} {duty : Duty α} (h : Receiving agenda)
    (hmem : duty ∈ agenda) : agenda = [duty] ∧ forall hook : Hook α, duty ≠ Duty.begin hook := by
  cases h with
  | look => cases hmem
  | _ =>
      obtain rfl := List.mem_singleton.mp hmem
      exact ⟨rfl, nofun⟩

theorem Course.agenda_of_hook {hook : Hook α} (h : Course states hooks results a)
    (hhook : a.hook = some hook) : a.agenda = [] := by
  obtain ⟨state, hat, -⟩ := h.at_of_hook hhook
  exact hat.agenda

theorem Course.begin_mem {hook : Hook α} (h : Course states hooks results a)
    (hmem : Duty.begin hook ∈ a.agenda) : hook.forEnvelope = false := by
  rcases h.agenda_cases with hplan | hagenda | hagenda | hplan | hplan
  · obtain rfl : hook = Hook.start := by simpa [startingUp] using hplan.subset hmem
    rfl
  · simp [hagenda] at hmem
  · exact absurd rfl ((hagenda.of_mem hmem).right hook)
  · obtain rfl : hook = Hook.stop := by simpa [windingDown] using hplan.subset hmem
    rfl
  · simpa [givingUp] using hplan.subset hmem

end Agendas

/-!
## Stop requests

Between its look at the stop flag and the queue an actor is taking an envelope.  A
stop request that comes in between does not keep it from that.
-/

def IsTaking (a : Actor α) : Prop :=
  a.agenda = [Duty.take]

theorem IsTaking.inHand {a : Actor α} (h : a.IsTaking) : a.inHand = [] := by
  rw [Actor.inHand, h]
  rfl

section Stop

variable {a a' b c : Actor α} {event? : Option (Event α)} {trace : List (Event α)}
  {states : List ActorState} {hooks : List (Hook α)} {results : List (Except ActorError Unit)}

/-- A stop request is never taken back. -/
theorem Step.stopRequested (h : Step a event? a') (hstop : a.stopRequested = true) :
    a'.stopRequested = true := by
  cases h.shape with
  | quiet hquiet => cases hquiet <;> first | exact hstop | rfl
  | move _ hmove =>
      cases hmove with
      | duty _ hcarried =>
          cases hcarried with
          | handle hopen => cases hopen <;> exact hstop
          | requestStop => rfl
          | _ => exact hstop
      | look => exact hstop
      | leave => exact hstop
  | conclusion _ hconclusion => cases hconclusion <;> exact hstop

theorem Step.stopRequested_of_event (h : Step a (some Event.stopRequested) a') :
    a'.stopRequested = true := by
  cases h.shape with
  | quiet hquiet => cases hquiet with | asked => rfl
  | move _ hmove =>
      cases hmove with
      | duty _ hcarried =>
          cases hcarried with
          | handle hopen => cases hopen
          | requestStop => rfl

theorem Course.isTaking_of_mem (h : Course states hooks results a)
    (hmem : Duty.take ∈ a.agenda) : a.IsTaking := by
  rcases h.agenda_cases with hplan | hagenda | hagenda | hplan | hplan
  · simpa [startingUp] using hplan.subset hmem
  · simp [hagenda] at hmem
  · exact (hagenda.of_mem hmem).left
  · simpa [windingDown] using hplan.subset hmem
  · simpa [givingUp] using hplan.subset hmem

theorem Carried.agenda_eq {duty : Duty α} (h : Carried a duty event? a')
    (hother : duty ≠ Duty.take) : a'.agenda = a.agenda := by
  cases h with
  | take => exact absurd rfl hother
  | leave => exact absurd rfl hother
  | wait => exact absurd rfl hother
  | handle hopen => cases hopen <;> rfl
  | _ => rfl

theorem Move.isTaking (h : Move a event? a') (hcourse : Course states hooks results a)
    (htaking : a'.IsTaking) : a.stopRequested = false ∧ event? = some Event.looked := by
  cases h with
  | @duty duty rest _ _ hagenda hcarried =>
      by_cases htake : duty = Duty.take
      · obtain rfl := htake
        cases hcarried <;> cases htaking
      · have hrest : rest = [Duty.take] := (hcarried.agenda_eq htake).symm.trans htaking
        rw [hrest] at hagenda
        have hfirst := hcourse.isTaking_of_mem (by simp [hagenda])
        cases hagenda.symm.trans hfirst
  | look _ _ hgoing => exact ⟨hgoing, rfl⟩
  | leave => cases htaking

/-- A taking begins with a look at the stop flag, and only if no stop is requested. -/
theorem Step.isTaking (h : Step a event? a') (hcourse : Course states hooks results a)
    (htaking : a'.IsTaking) :
    (a.IsTaking ∧ taken event?.toList = []) ∨
      a.stopRequested = false ∧ event? = some Event.looked := by
  cases h.shape with
  | quiet hquiet => cases hquiet <;> exact Or.inl ⟨htaking, rfl⟩
  | move _ hmove => exact Or.inr (hmove.isTaking hcourse htaking)
  | conclusion _ hconclusion =>
      cases hconclusion with
      | started => cases htaking
      | startFailed => cases htaking
      | stopped => cases htaking
      | succeeded => exact Or.inl ⟨htaking, rfl⟩
      | failed => exact Or.inl ⟨htaking, rfl⟩

theorem Step.taken_cases (h : Step a event? a') (hcourse : Course states hooks results a) :
    taken event?.toList = [] ∨
      a.IsTaking ∧ exists env : Envelope, taken event?.toList = [env] := by
  cases h.shape with
  | quiet hquiet => cases hquiet <;> exact Or.inl rfl
  | move _ hmove =>
      cases hmove with
      | duty hagenda hcarried =>
          cases hcarried with
          | @take env =>
              exact Or.inr ⟨hcourse.isTaking_of_mem (by simp [hagenda]), env, rfl⟩
          | handle hopen => cases hopen <;> exact Or.inl rfl
          | _ => exact Or.inl rfl
      | look => exact Or.inl rfl
      | leave => exact Or.inl rfl
  | conclusion => exact Or.inl rfl

/-- Once a stop has been requested, only a taking that is under way comes to its end. -/
theorem Run.taken_cases (h : Run b trace c) (hcourse : Course states hooks results b)
    (hstop : b.stopRequested = true) :
    c.stopRequested = true ∧ (c.IsTaking -> b.IsTaking ∧ taken trace = []) ∧
      (taken trace = [] ∨ b.IsTaking ∧ exists env : Envelope, taken trace = [env]) := by
  induction h with
  | refl => exact ⟨hstop, fun htaking => ⟨htaking, rfl⟩, Or.inl rfl⟩
  | @snoc trace event? d c hrun hstep ih =>
      obtain ⟨hstill, hbegan, htaken⟩ := ih
      have hthere := hrun.course_from hcourse
      have hsplit : taken (trace ++ event?.toList) = taken trace ++ taken event?.toList :=
        List.filterMap_append
      rw [hsplit]
      refine ⟨hstep.stopRequested hstill, fun htaking => ?_, ?_⟩
      · rcases hstep.isTaking hthere htaking with ⟨hbefore, hnone⟩ | ⟨hgoing, -⟩
        · obtain ⟨hfirst, hearlier⟩ := hbegan hbefore
          exact ⟨hfirst, List.append_eq_nil_iff.mpr ⟨hearlier, hnone⟩⟩
        · cases hgoing.symm.trans hstill
      · rcases hstep.taken_cases hthere with hnone | ⟨htaking, env, hone⟩
        · rw [hnone, List.append_nil]
          exact htaken
        · obtain ⟨hfirst, hearlier⟩ := hbegan htaking
          exact Or.inr ⟨hfirst, env, by rw [hearlier, hone, List.nil_append]⟩

end Stop

/-!
## Causes
-/

section Causes

variable {a a' b c : Actor α} {event? : Option (Event α)} {trace : List (Event α)}
  {states : List ActorState} {hooks : List (Hook α)} {results : List (Except ActorError Unit)}

theorem Step.causes_sublist (h : Step a event? a') (hcourse : Course states hooks results a) :
    (causes event?.toList ++ a'.inHand.map some).Sublist
      (a.inHand.map some ++ (taken event?.toList).map some) := by
  cases h.shape with
  | quiet hquiet => cases hquiet <;> simp [causes, taken, inHand]
  | move _ hmove =>
      cases hmove with
      | @duty duty rest _ _ hagenda hcarried =>
          rw [inHand_of_agenda hagenda]
          cases hcarried with
          | begin hook =>
              have hhook : hook.forEnvelope = false :=
                hcourse.begin_mem (by rw [hagenda]; exact List.mem_cons_self)
              simp [causes, taken, inHand, hhook]
          | handle hopen =>
              cases hopen with
              | began _ _ hhook =>
                  simp [causes, taken, inHand, hhook]
              | _ => simp [causes, taken, inHand]
          | take =>
              have halone := hcourse.isTaking_of_mem (by simp [hagenda])
              cases hagenda.symm.trans halone
              simp [causes, taken, inHand]
          | leave => exact List.nil_sublist _
          | wait => exact List.nil_sublist _
          | _ =>
              simp [causes, taken, inHand, Actor.drain, cancelTimers]
      | look => exact List.nil_sublist _
      | leave => exact List.nil_sublist _
  | conclusion _ hconclusion =>
      cases hconclusion with
      | started => exact List.nil_sublist _
      | startFailed => exact List.nil_sublist _
      | stopped => exact List.nil_sublist _
      | _ => simp [causes, taken, inHand]

theorem Run.causes_sublist (h : Run b trace c) (hcourse : Course states hooks results b) :
    (causes trace ++ c.inHand.map some).Sublist (b.inHand.map some ++ (taken trace).map some) := by
  induction h with
  | refl => simp [causes, taken]
  | @snoc trace event? d c hrun hstep ih =>
      have hlast := (hstep.causes_sublist (hrun.course_from hcourse)).append_left (causes trace)
      have hfirst := ih.append_right ((taken event?.toList).map some)
      simp only [causes, taken, List.filterMap_append, List.map_append, List.append_assoc] at *
      exact hlast.trans hfirst

end Causes

/-!
## The end of a life
-/

section Ends

variable {a a' b : Actor α} {event? : Option (Event α)} {trace : List (Event α)}
  {states : List ActorState} {hooks : List (Hook α)} {results : List (Except ActorError Unit)}

end Ends

/-!
## Every life
-/

/-- What is true of an actor at any moment of a life, given what the life has shown. -/
structure Orderly (trace : List (Event α)) (a : Actor α) : Prop where
  state : a.state = (published trace).getLastD ActorState.created
  /-- States move forward only; unless the startup fails, on the long course. -/
  course :
    (forall error : ActorError, .error error ∉ startResults trace) ->
      published trace <+:
        [ActorState.starting, ActorState.running, ActorState.draining, ActorState.stopped]
  /-- A failed startup leads straight to the end, without another hook and without
  any envelope, and is remembered. -/
  failure :
    forall error : ActorError, .error error ∈ startResults trace ->
      published trace <+: [ActorState.starting, ActorState.stopped] ∧
        begun trace = [Hook.start] ∧ a.stats.delivered = 0 ∧
          a.startupError? = some (ActorError.startupFailure a.ref.name error.message)
  /-- The startup begins once and is never held up, and the end at most once. -/
  hooks :
    (begun trace = [] ∧ a.advance.isSome = true) ∨
      exists turns last : List (Hook α), begun trace = Hook.start :: turns ++ last ∧
        Turns turns ∧ (last = [] ∨ last = [Hook.stop])
  /-- Every other hook waits for the startup to succeed. -/
  startFirst :
    forall (hook : Hook α) (cause : Option Envelope) (before after : List (Event α)),
      trace = before ++ Event.began hook cause :: after -> hook ≠ Hook.start ->
        startResults before = [.ok ()]
  /-- From a stop request on, the actor does not begin to take an envelope.  What it was
  taking when the request came, past its look at the stop flag, it still takes, and hooks
  for envelopes begin only for that and for what it had taken before. -/
  stopRequest :
    forall (b c : Actor α) (after : List (Event α)),
      Step a (some Event.stopRequested) b -> Run b after c ->
        (c.IsTaking -> a.IsTaking ∧ taken after = []) ∧
          (taken after = [] ∨ a.IsTaking ∧ exists env : Envelope, taken after = [env]) ∧
            (causes after).Sublist ((a.inHand ++ taken after).map some)
  /-- When the program is told of the end, nothing is left to come.  No timer is armed
  but those that others have armed since the actor cancelled all there were. -/
  stop :
    forall (cause : Option Envelope) (b : Actor α),
      Step a (some (Event.began Hook.stop cause)) b ->
        b.mailbox.closed = true ∧ b.mailbox.queue = [] ∧
          exists before after : List (Event α),
            trace = before ++ Event.timersCancelled :: after ∧ begun after = [] ∧
              forall timer : TimerHandle, b.timers.isActive timer = true ->
                Event.armed timer ∈ after
  stopped :
    a.state = ActorState.stopped -> a.mailbox.closed = true ∧ a.stopRequested = true

theorem Run.stopRequest {a b c : Actor α} {trace after : List (Event α)}
    {ref : ActorRef} {device : String} {handlers : Handlers α} {capacity : Nat}
    (h : Run (create ref device handlers capacity) trace a)
    (hasked : Step a (some Event.stopRequested) b) (hafter : Run b after c) :
    (c.IsTaking -> a.IsTaking ∧ taken after = []) ∧
      (taken after = [] ∨ a.IsTaking ∧ exists env : Envelope, taken after = [env]) ∧
        (causes after).Sublist ((a.inHand ++ taken after).map some) := by
  have hstop := hasked.stopRequested_of_event
  have hbegan : b.IsTaking -> a.IsTaking := by
    intro htaking
    rcases hasked.isTaking h.course htaking with ⟨hbefore, -⟩ | ⟨-, hlooked⟩
    · exact hbefore
    · cases hlooked
  obtain ⟨-, htaking, htaken⟩ := hafter.taken_cases (h.snoc hasked).course hstop
  refine ⟨fun hlater => (htaking hlater).imp_left hbegan, ?_, ?_⟩
  · exact htaken.imp_right fun hone => hone.imp_left hbegan
  · have hcauses := ((Run.step hasked).trans hafter).causes_sublist h.course
    rw [List.map_append]
    exact (List.sublist_append_left _ _).trans hcauses

end Actor
end Troupe
