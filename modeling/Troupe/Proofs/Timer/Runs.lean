import Troupe.Proofs.Actor.Accounts
import Troupe.Proofs.Timer.Tables

/-!
# Runs of an actor's timers

Timers are registered and cancelled at any moment, and those that are due fire at any
later moment, while the actor works off its mailbox.  As long as the mailbox is open,
the table of timers tracks what has been done and which fires are still on their way.
-/

namespace Troupe

/-- The timer whose fire an envelope is, if the timer's owner sent it. -/
def Envelope.fireOf? (owner : ActorId) (env : Envelope) : Option TimerHandle :=
  match env.message with
  | Message.timerFired timer => if env.sender = some owner then some timer else none
  | _ => none

def Mailbox.fires (m : Mailbox) (owner : ActorId) : List TimerHandle :=
  m.queue.filterMap (Envelope.fireOf? owner)

namespace Timers

/-!
## Firing several timers
-/

namespace Firing

def deed? (f : Firing) (owner : ActorId) (timer : TimerHandle) : Option Deed :=
  match f.mailbox.tryEnqueue (Envelope.sentBy (Message.timerFired timer) owner) with
  | .ok _ => some (Deed.queued timer)
  | .error (EnqueueError.full _) => some (Deed.dropped timer)
  | .error (EnqueueError.closed _) => none

def deeds (now : Instant) (owner : ActorId) :
    Firing -> List (TimerHandle × ArmedTimer) -> List Deed
  | _, [] => []
  | f, (timer, entry) :: rest =>
      (f.deed? owner timer).toList ++
        match f.post now owner timer entry with
        | (f, true) => deeds now owner f rest
        | (_, false) => []

variable {f : Firing} {owner : ActorId} {now : Instant} {timer : TimerHandle}
  {entry : ArmedTimer} {trace : List Deed} {held : List TimerHandle}

theorem handled_deeds (due : List (TimerHandle × ArmedTimer)) :
    handled (f.deeds now owner due) = [] := by
  induction due generalizing f with
  | nil => rfl
  | cons first rest ih =>
      have hfirst : handled (f.deed? owner first.1).toList = [] := by
        unfold deed?
        split <;> rfl
      unfold deeds
      rw [handled, List.filterMap_append]
      refine List.append_eq_nil_iff.mpr ⟨hfirst, ?_⟩
      split
      · exact ih
      · rfl

theorem tracks_post (now : Instant) (h : Tracks trace f.timers (held ++ f.mailbox.fires owner))
    (harmed : (timer, entry) ∈ f.timers.armed) (hopen : f.mailbox.closed = false) :
    exists f' : Firing, f.post now owner timer entry = (f', true) ∧ f'.mailbox.closed = false ∧
      (forall other : TimerHandle × ArmedTimer, other ∈ f.timers.armed -> other.1 ≠ timer ->
        other ∈ f'.timers.armed) ∧
      Tracks (trace ++ (f.deed? owner timer).toList) f'.timers
        (held ++ f'.mailbox.fires owner) := by
  have hothers : forall other : TimerHandle × ArmedTimer, other ∈ f.timers.armed ->
      other.1 ≠ timer -> other ∈ (f.timers.rearm now timer entry).armed :=
    fun other hother hne => mem_rearm_of_ne hother hne
  unfold post deed? Mailbox.tryEnqueue
  rw [if_neg (by rw [hopen]; exact Bool.false_ne_true)]
  cases hfull : f.mailbox.isFull with
  | true => exact ⟨_, rfl, hopen, hothers, h.dropped now harmed⟩
  | false =>
      refine ⟨_, rfl, hopen, hothers, ?_⟩
      have hfires : ({ f.mailbox with
          queue := f.mailbox.queue ++ [Envelope.sentBy (Message.timerFired timer) owner] } :
            Mailbox).fires owner = f.mailbox.fires owner ++ [timer] := by
        simp [Mailbox.fires, Envelope.fireOf?, Envelope.sentBy]
      have hqueued := h.queued now harmed
      rw [List.append_assoc, <- hfires] at hqueued
      exact hqueued

theorem tracks_postAll (due : List (TimerHandle × ArmedTimer))
    (h : Tracks trace f.timers (held ++ f.mailbox.fires owner))
    (hopen : f.mailbox.closed = false) (hdue : due ⊆ f.timers.armed)
    (hnodup : (due.map Prod.fst).Nodup) :
    Tracks (trace ++ f.deeds now owner due) (postAll now owner f due).1.timers
      (held ++ (postAll now owner f due).1.mailbox.fires owner) := by
  induction due generalizing f trace with
  | nil => simpa [deeds, postAll] using h
  | cons first rest ih =>
      obtain ⟨timer, entry⟩ := first
      obtain ⟨harmed, hrest⟩ := List.cons_subset.mp hdue
      obtain ⟨hnew, hnodup⟩ := List.nodup_cons.mp hnodup
      obtain ⟨f', hpost, hopen', hothers, hfirst⟩ := tracks_post now h harmed hopen
      unfold deeds postAll
      simp only [hpost]
      rw [<- List.append_assoc]
      refine ih hfirst hopen' (fun other hother => hothers other (hrest hother) ?_) hnodup
      rintro rfl
      exact hnew (List.mem_map.mpr ⟨other, hother, rfl⟩)

theorem closed_post (f : Firing) (now : Instant) (owner : ActorId) (timer : TimerHandle)
    (entry : ArmedTimer) :
    (f.post now owner timer entry).1.mailbox.closed = f.mailbox.closed := by
  unfold post
  cases hpost : f.mailbox.tryEnqueue (Envelope.sentBy (Message.timerFired timer) owner) with
  | ok mailbox =>
      obtain ⟨-, rfl⟩ := Actor.tryEnqueue_eq_ok hpost
      rfl
  | error refusal => cases refusal <;> rfl

theorem closed_postAll (due : List (TimerHandle × ArmedTimer)) :
    (postAll now owner f due).1.mailbox.closed = f.mailbox.closed := by
  induction due generalizing f with
  | nil => rfl
  | cons first rest ih =>
      have hfirst := closed_post f now owner first.1 first.2
      unfold postAll
      rcases hpost : f.post now owner first.1 first.2 with ⟨f', _ | _⟩
      · rw [hpost] at hfirst
        exact hfirst
      · rw [hpost] at hfirst
        exact ih.trans hfirst

end Firing

theorem Silenced.append {trace more : List Deed} (h : Silenced trace) (hmore : handled more = []) :
    Silenced (trace ++ more) := by
  induction more generalizing trace with
  | nil => simpa using h
  | cons deed more ih =>
      obtain ⟨hfirst, hrest⟩ : handled [deed] = [] ∧ handled more = [] := by
        rw [<- List.append_eq_nil_iff, handled, handled, <- List.filterMap_append]
        exact hmore
      have hnext : Silenced (trace ++ [deed]) := by
        refine h.snoc ?_
        rintro timer rfl
        cases hfirst
      simpa using ih hnext hrest

end Timers

namespace Actor

variable {α : Type}

/-!
## Steps
-/

/-- The fires that have been queued and not yet looked at, in order. -/
def waitingFires (a : Actor α) : List TimerHandle :=
  a.inHand.filterMap (Envelope.fireOf? a.ref.id) ++ a.mailbox.fires a.ref.id

def timerUnderWay? (a : Actor α) : Option TimerHandle :=
  match a.hook with
  | some (Hook.timer timer) => some timer
  | _ => none

def handledDeeds (a : Actor α) : List Deed :=
  a.timerUnderWay?.toList.map Deed.handled

def cancelDeeds (a : Actor α) : List Deed :=
  match a.agenda with
  | Duty.cancelTimers :: _ => [Deed.cancelledAll a.timers.cancelAll.1]
  | _ => []

/-- What may be done at any moment to an actor and its timers.  Only the actor's own
timers post fires in its name. -/
inductive TimerStep (a : Actor α) : List Deed -> Actor α -> Prop where
  | register (now : Instant) (period : Duration) (repeating : Bool) :
      TimerStep a
        [Deed.registered (a.timers.register now period repeating).1
          (!repeating || period.isZero)]
        { a with timers := (a.timers.register now period repeating).2 }
  | cancel (timer : TimerHandle) :
      TimerStep a [Deed.cancelled timer (a.timers.cancel timer).1]
        { a with timers := (a.timers.cancel timer).2 }
  | cancelAll : TimerStep a [Deed.cancelledAll a.timers.cancelAll.1] a.cancelTimers
  /-- Timers that are due fire in turn; others may act before the rest of those that are
  due do. -/
  | fire (now : Instant) {due : List (TimerHandle × ArmedTimer)} :
      due.Sublist (a.timers.due now) ->
        TimerStep a
          (Timers.Firing.deeds now a.ref.id
            { timers := a.timers, mailbox := a.mailbox, dropped := 0 } due)
          (a.withFiring
            (Timers.Firing.postAll now a.ref.id
              { timers := a.timers, mailbox := a.mailbox, dropped := 0 } due).1)
  | accept {env : Envelope} {a' : Actor α} :
      env.fireOf? a.ref.id = none -> a.accept env = .ok a' -> TimerStep a [] a'
  | requestStop : TimerStep a [] a.requestStop
  | work (props : Props) : TimerStep a [] { a with props := props }
  | move {a' : Actor α} :
      a.advance = some a' ->
        TimerStep a (a.cancelDeeds ++ a'.handledDeeds) a'
  | stir {rest : List (Duty α)} :
      a.hook = none -> a.agenda = Duty.wait :: rest -> TimerStep a [] { a with agenda := rest }
  | conclude (bridge : Bridge) (result : Except ActorError Unit) :
      TimerStep a [] (a.conclude bridge result).1

inductive TimerRun (a : Actor α) : List Deed -> Actor α -> Prop where
  | refl : TimerRun a [] a
  | snoc {trace deeds : List Deed} {b c : Actor α} :
      TimerRun a trace b -> TimerStep b deeds c -> TimerRun a (trace ++ deeds) c

/-!
## What steps preserve
-/

/-- What is true of an actor and its timers at any moment before its mailbox is
drained. -/
structure Timed (trace : List Deed) (a : Actor α) : Prop where
  tracks : Timers.Tracks trace a.timers a.waitingFires
  silenced : Timers.Silenced trace
  /-- An envelope in hand is opened before anything else. -/
  inHand : a.inHand = [] ∨ exists env : Envelope, a.agenda = [Duty.handle env] ∧ a.hook = none
  /-- Timers are handled only when their fires are opened. -/
  begins : forall hook : Hook α, Duty.begin hook ∈ a.agenda -> hook.forEnvelope = false

section Steps

variable {a a' : Actor α} {trace deeds : List Deed}

theorem timed_create (ref : ActorRef) (device : String) (handlers : Handlers α)
    (capacity : Nat) : Timed [] (create ref device handlers capacity) := by
  refine ⟨Timers.tracks_empty, ?_, Or.inl rfl, ?_⟩
  · intro before after deed timer htrace
    simp at htrace
  · intro hook hmem
    obtain rfl : hook = Hook.start := by simpa [create, startingUp] using hmem
    rfl

theorem Timed.withTimers (h : Timed trace a) (timers : Timers)
    (htracks : Timers.Tracks (trace ++ deeds) timers a.waitingFires)
    (hdeeds : Timers.handled deeds = []) : Timed (trace ++ deeds) { a with timers := timers } :=
  ⟨htracks, h.silenced.append hdeeds, h.inHand, h.begins⟩

theorem Timed.fire (h : Timed trace a) (hopen : a.mailbox.closed = false) (now : Instant)
    {due : List (TimerHandle × ArmedTimer)} (hdue : due.Sublist (a.timers.due now)) :
    Timed
      (trace ++ Timers.Firing.deeds now a.ref.id
        { timers := a.timers, mailbox := a.mailbox, dropped := 0 } due)
      (a.withFiring
        (Timers.Firing.postAll now a.ref.id
          { timers := a.timers, mailbox := a.mailbox, dropped := 0 } due).1) := by
  have harmed : due.Sublist a.timers.armed := hdue.trans List.filter_sublist
  refine ⟨?_, h.silenced.append (Timers.Firing.handled_deeds due), h.inHand, h.begins⟩
  exact Timers.Firing.tracks_postAll due h.tracks hopen harmed.subset
    (h.tracks.armedNodup.sublist (harmed.map Prod.fst))

theorem Timed.accept {env : Envelope} (h : Timed trace a) (hother : env.fireOf? a.ref.id = none)
    (haccept : a.accept env = .ok a') : Timed trace a' := by
  unfold Actor.accept at haccept
  split at haccept
  · next mailbox hpost =>
      obtain ⟨-, rfl⟩ := tryEnqueue_eq_ok hpost
      cases haccept
      refine ⟨?_, h.silenced, h.inHand, h.begins⟩
      have hsame : Mailbox.fires { a.mailbox with queue := a.mailbox.queue ++ [env] } a.ref.id =
          a.mailbox.fires a.ref.id := by
        simp [Mailbox.fires, hother]
      have htracks := h.tracks
      unfold waitingFires at htracks
      rw [<- hsame] at htracks
      exact htracks
  · cases haccept

/-!
### Moves
-/

theorem timed_of_inHand (hinHand : a.inHand = [])
    (htracks : Timers.Tracks trace a.timers (a.mailbox.fires a.ref.id))
    (hsilenced : Timers.Silenced trace)
    (hbegins : forall hook : Hook α, Duty.begin hook ∈ a.agenda -> hook.forEnvelope = false) :
    Timed trace a := by
  refine ⟨?_, hsilenced, Or.inl hinHand, hbegins⟩
  unfold waitingFires
  rw [hinHand]
  exact htracks

theorem Timed.tracks_of_inHand (h : Timed trace a) (hinHand : a.inHand = []) :
    Timers.Tracks trace a.timers (a.mailbox.fires a.ref.id) := by
  have htracks := h.tracks
  unfold waitingFires at htracks
  rw [hinHand] at htracks
  exact htracks

theorem handledDeeds_of_free (hfree : a.hook = none) : a.handledDeeds = [] := by
  unfold handledDeeds timerUnderWay?
  rw [hfree]
  rfl

theorem handledDeeds_beginHook {hook : Hook α} (hhook : hook.forEnvelope = false) :
    (a.beginHook hook).handledDeeds = [] := by
  cases hook with
  | timer => cases hhook
  | _ => rfl

theorem Timed.dutyDone {deeds : List Deed} (h : Timed trace a) (hinHand : a.inHand = [])
    (hagenda : a'.agenda.Sublist a.agenda)
    (htracks : Timers.Tracks (trace ++ deeds) a'.timers (a'.mailbox.fires a'.ref.id))
    (hdeeds : Timers.handled deeds = []) : Timed (trace ++ deeds) a' := by
  refine timed_of_inHand ?_ htracks (h.silenced.append hdeeds) fun hook hmem =>
    h.begins hook (hagenda.subset hmem)
  have hsublist : a'.inHand.Sublist a.inHand := hagenda.filterMap Duty.envelope?
  rw [hinHand] at hsublist
  exact List.sublist_nil.mp hsublist

theorem Timed.carryOut {duty : Duty α} {rest : List (Duty α)} (h : Timed trace a)
    (hagenda : a.agenda = duty :: rest) (hfree : a.hook = none) (hinHand : a.inHand = [])
    (htake : duty ≠ Duty.take)
    (hopen : ({ a with agenda := rest }.carryOut duty).mailbox.closed = false) :
    Timed
      (trace ++ (a.cancelDeeds ++ ({ a with agenda := rest }.carryOut duty).handledDeeds))
      ({ a with agenda := rest }.carryOut duty) := by
  have htracks := h.tracks_of_inHand hinHand
  have hrest : rest.Sublist a.agenda := by
    rw [hagenda]
    exact List.sublist_cons_self duty rest
  have hother : forall env : Envelope, duty ≠ Duty.handle env := by
    rintro env rfl
    simp [inHand_of_agenda hagenda] at hinHand
  have hhandled : ({ a with agenda := rest }.carryOut duty).handledDeeds = [] := by
    cases duty with
    | begin hook =>
        refine handledDeeds_beginHook (h.begins hook ?_)
        rw [hagenda]
        exact List.mem_cons_self
    | handle env => exact absurd rfl (hother env)
    | take => exact absurd rfl htake
    | _ => exact handledDeeds_of_free hfree
  rw [hhandled, List.append_nil]
  refine h.dutyDone hinHand ?_ ?_ ?_
  · cases duty with
    | handle env => exact absurd rfl (hother env)
    | take => exact absurd rfl htake
    | _ => exact hrest
  · unfold cancelDeeds
    rw [hagenda]
    cases duty with
    | handle env => exact absurd rfl (hother env)
    | take => exact absurd rfl htake
    | drain => cases hopen
    | cancelTimers => exact htracks.cancelAll
    | _ => rw [List.append_nil]; exact htracks
  · unfold cancelDeeds
    split <;> rfl

/-!
### Opening an envelope
-/

structure Untimed (a a' : Actor α) : Prop where
  ref : a'.ref = a.ref
  timers : a'.timers = a.timers
  mailbox : a'.mailbox = a.mailbox
  agenda : a'.agenda = a.agenda
  handledDeeds : a'.handledDeeds = []

theorem untimed_openMessage (env : Envelope) (hfree : a.hook = none) :
    Untimed a (a.openMessage env) := by
  unfold openMessage
  split
  · exact ⟨rfl, rfl, rfl, rfl, rfl⟩
  · exact ⟨rfl, rfl, rfl, rfl, handledDeeds_of_free hfree⟩

theorem untimed_openWrite (payload : Tree) (hfree : a.hook = none) :
    Untimed a (a.openWrite payload) := by
  unfold openWrite
  rcases happly : a.countDelivered.props.apply a.countDelivered.ref.name payload with
    ⟨error | previous, props⟩
  · simp only [happly]
    exact ⟨rfl, rfl, rfl, rfl, handledDeeds_of_free hfree⟩
  · simp only [happly]
    exact ⟨rfl, rfl, rfl, rfl, rfl⟩

theorem untimed_openEnvelope {env : Envelope} (hfree : a.hook = none)
    (hother : env.fireOf? a.ref.id = none) : Untimed a (a.openEnvelope env) := by
  unfold openEnvelope
  split
  · next timer hmessage =>
      have hsender : env.sender ≠ some a.ref.id := by
        intro hown
        simp [Envelope.fireOf?, hmessage, hown] at hother
      rw [if_neg hsender]
      exact untimed_openMessage env hfree
  · exact untimed_openWrite _ hfree
  · exact untimed_openMessage env hfree

theorem Timed.openOther {env : Envelope} (h : Timed trace a)
    (hagenda : a.agenda = [Duty.handle env]) (hfree : a.hook = none)
    (hother : env.fireOf? a.ref.id = none) :
    Timed (trace ++ (openEnvelope { a with agenda := [] } env).handledDeeds)
      (openEnvelope { a with agenda := [] } env) := by
  have hopened : Untimed { a with agenda := [] } (openEnvelope { a with agenda := [] } env) :=
    untimed_openEnvelope hfree hother
  have htracks : Timers.Tracks trace a.timers (a.mailbox.fires a.ref.id) := by
    have hboth := h.tracks
    unfold waitingFires at hboth
    rw [inHand_of_agenda hagenda] at hboth
    simpa [hother] using hboth
  rw [hopened.handledDeeds, List.append_nil]
  refine timed_of_inHand ?_ ?_ h.silenced fun hook hmem => ?_
  · rw [Actor.inHand, hopened.agenda]
    rfl
  · rw [hopened.timers, hopened.mailbox, hopened.ref]
    exact htracks
  · rw [hopened.agenda] at hmem
    cases hmem

theorem Timed.openFire {env : Envelope} {timer : TimerHandle} (h : Timed trace a)
    (hagenda : a.agenda = [Duty.handle env]) (hfree : a.hook = none)
    (hfire : env.fireOf? a.ref.id = some timer) :
    Timed (trace ++ (({ a with agenda := [] } : Actor α).openFire timer).handledDeeds)
      (({ a with agenda := [] } : Actor α).openFire timer) := by
  have htracks : Timers.Tracks trace a.timers (timer :: a.mailbox.fires a.ref.id) := by
    have hboth := h.tracks
    unfold waitingFires at hboth
    rw [inHand_of_agenda hagenda] at hboth
    simpa [hfire] using hboth
  have hbegins : forall hook : Hook α, Duty.begin hook ∈ ([] : List (Duty α)) ->
      hook.forEnvelope = false :=
    fun _ hmem => absurd hmem List.not_mem_nil
  unfold Actor.openFire
  rcases haccept : a.timers.acceptFire timer with ⟨_ | _, timers⟩
  · have hignored := htracks.ignored (congrArg Prod.fst haccept)
    rw [haccept] at hignored
    have hhandled : handledDeeds { a with timers := timers, agenda := [] } = [] :=
      handledDeeds_of_free hfree
    simp only
    rw [hhandled, List.append_nil]
    exact timed_of_inHand rfl hignored h.silenced hbegins
  · have huncancelled : ¬ Timers.Cancelled trace timer := by
      rcases Timers.acceptFire_iff.mp (congrArg Prod.fst haccept) with hfired | harmed
      · exact ((htracks.fired_iff timer).mp hfired).right.right.right
      · obtain ⟨_, _, hspared, _⟩ := (htracks.armed_iff timer).mp harmed
        exact hspared
    have hhandled := htracks.handled
    rw [haccept] at hhandled
    refine timed_of_inHand rfl hhandled (h.silenced.snoc ?_) hbegins
    rintro other hsame
    cases hsame
    exact huncancelled

theorem Timed.openEnvelope {env : Envelope} (h : Timed trace a)
    (hagenda : a.agenda = [Duty.handle env]) (hfree : a.hook = none) :
    Timed (trace ++ (Actor.openEnvelope { a with agenda := [] } env).handledDeeds)
      (Actor.openEnvelope { a with agenda := [] } env) := by
  cases hfire : env.fireOf? a.ref.id with
  | none => exact h.openOther hagenda hfree hfire
  | some timer =>
      have hopen : Actor.openEnvelope { a with agenda := [] } env =
          Actor.openFire { a with agenda := [] } timer := by
        unfold Envelope.fireOf? at hfire
        split at hfire
        · next hmessage =>
            split at hfire
            · next hsender =>
                cases hfire
                simp [Actor.openEnvelope, hmessage, hsender]
            · cases hfire
        · cases hfire
      rw [hopen]
      exact h.openFire hagenda hfree hfire

/-!
### Receiving
-/

theorem Timed.withAgenda {agenda : List (Duty α)} (h : Timed trace a) (hfree : a.hook = none)
    (hinHand : a.inHand = []) (hcancel : a.cancelDeeds = [])
    (hempty : agenda.filterMap Duty.envelope? = [])
    (hbegins : forall hook : Hook α, Duty.begin hook ∈ agenda -> hook.forEnvelope = false) :
    Timed (trace ++ (a.cancelDeeds ++ handledDeeds { a with agenda := agenda }))
      { a with agenda := agenda } := by
  have hquiet : handledDeeds { a with agenda := agenda } = [] := handledDeeds_of_free hfree
  rw [hcancel, hquiet, List.append_nil, List.append_nil]
  exact timed_of_inHand hempty (h.tracks_of_inHand hinHand) h.silenced hbegins

theorem Timed.look (h : Timed trace a) (hagenda : a.agenda = []) (hfree : a.hook = none) :
    Timed (trace ++ (a.cancelDeeds ++ a.look.handledDeeds)) a.look := by
  have hinHand : a.inHand = [] := by
    rw [Actor.inHand, hagenda]
    rfl
  have hcancel : a.cancelDeeds = [] := by rw [cancelDeeds, hagenda]
  unfold Actor.look
  split
  · exact h.withAgenda hfree hinHand hcancel rfl fun _ => begins_windingDown
  · exact h.withAgenda hfree hinHand hcancel rfl fun hook hmem => by simp at hmem

theorem Timed.take {rest : List (Duty α)} (h : Timed trace a)
    (hagenda : a.agenda = Duty.take :: rest) (hfree : a.hook = none) (hinHand : a.inHand = []) :
    Timed (trace ++ (a.cancelDeeds ++ (Actor.take { a with agenda := rest }).handledDeeds))
      (Actor.take { a with agenda := rest }) := by
  have hcancel : a.cancelDeeds = [] := by rw [cancelDeeds, hagenda]
  unfold Actor.take Mailbox.receive
  cases hqueue : a.mailbox.queue with
  | nil =>
      cases hclosed : a.mailbox.closed with
      | true => exact h.withAgenda hfree hinHand hcancel rfl fun _ => begins_windingDown
      | false => exact h.withAgenda hfree hinHand hcancel rfl fun hook hmem => by simp at hmem
  | cons env queue =>
      have htracks := h.tracks_of_inHand hinHand
      have hquiet : handledDeeds { a with
          mailbox := { a.mailbox with queue := queue }, agenda := [Duty.handle env] } = [] :=
        handledDeeds_of_free hfree
      have hwaiting : waitingFires { a with
          mailbox := { a.mailbox with queue := queue }, agenda := [Duty.handle env] } =
          a.mailbox.fires a.ref.id := by
        unfold waitingFires Mailbox.fires
        rw [hqueue, <- List.filterMap_append]
        rfl
      simp only
      rw [hcancel, hquiet, List.append_nil, List.append_nil]
      refine ⟨?_, h.silenced, Or.inr ⟨env, rfl, hfree⟩, fun hook hmem => ?_⟩
      · rw [hwaiting]
        exact htracks
      · simp at hmem

theorem Timed.stir {rest : List (Duty α)} (h : Timed trace a)
    (hagenda : a.agenda = Duty.wait :: rest) :
    Timed (trace ++ []) { a with agenda := rest } := by
  have hinHand : a.inHand = [] := by
    rcases h.inHand with hempty | ⟨env, honly, -⟩
    · exact hempty
    · cases hagenda.symm.trans honly
  have hrest : rest.Sublist a.agenda := by
    rw [hagenda]
    exact List.sublist_cons_self Duty.wait rest
  refine h.dutyDone hinHand hrest ?_ rfl
  rw [List.append_nil]
  exact h.tracks_of_inHand hinHand

theorem Timed.move (h : Timed trace a) (hadvance : a.advance = some a')
    (hopen : a'.mailbox.closed = false) :
    Timed (trace ++ (a.cancelDeeds ++ a'.handledDeeds)) a' := by
  unfold advance at hadvance
  split at hadvance
  · cases hadvance
  · next duty rest hfree hagenda =>
      split at hadvance
      · cases hadvance
        rcases h.inHand with hempty | ⟨env, honly, -⟩
        · by_cases htake : duty = Duty.take
          · obtain rfl := htake
            exact h.take hagenda hfree hempty
          · exact h.carryOut hagenda hfree hempty htake hopen
        · obtain ⟨rfl, rfl⟩ := List.cons.inj (hagenda.symm.trans honly)
          have hcancel : a.cancelDeeds = [] := by rw [cancelDeeds, hagenda]
          rw [hcancel]
          exact h.openEnvelope hagenda hfree
      · cases hadvance
  · next hfree hagenda =>
      split at hadvance
      · cases hadvance
        exact h.look hagenda hfree
      · cases hadvance

theorem Timed.conclude (h : Timed trace a) (bridge : Bridge) (result : Except ActorError Unit) :
    Timed trace (a.conclude bridge result).1 := by
  cases hhook : a.hook with
  | none =>
      have hsame : (a.conclude bridge result).1 = a := by
        unfold Actor.conclude
        rw [hhook]
      rw [hsame]
      exact h
  | some hook =>
      have hinHand : a.inHand = [] := by
        rcases h.inHand with hempty | ⟨_, -, hfree⟩
        · exact hempty
        · cases hhook.symm.trans hfree
      have htracks := h.tracks_of_inHand hinHand
      have hend := conclusion bridge result hhook
      generalize (a.conclude bridge result).1 = a' at hend ⊢
      cases hend with
      | started =>
          refine timed_of_inHand rfl htracks h.silenced fun hook hmem => ?_
          simp at hmem
      | startFailed error =>
          refine timed_of_inHand rfl htracks h.silenced fun hook hmem => ?_
          simp [givingUp] at hmem
      | stopped =>
          refine timed_of_inHand rfl htracks h.silenced fun hook hmem => ?_
          simp at hmem
      | succeeded => exact timed_of_inHand hinHand htracks h.silenced h.begins
      | failed => exact timed_of_inHand hinHand htracks h.silenced h.begins

/-!
### Any step
-/

theorem TimerStep.wasOpen (h : TimerStep a deeds a') (hopen : a'.mailbox.closed = false) :
    a.mailbox.closed = false := by
  cases h with
  | accept _ haccept =>
      unfold Actor.accept at haccept
      split at haccept
      · next hpost => exact (tryEnqueue_eq_ok hpost).left
      · cases haccept
  | fire now hdue => exact (Timers.Firing.closed_postAll _).symm.trans hopen
  | move hadvance =>
      refine Bool.eq_false_iff.mpr fun hclosed => ?_
      have hstill := ((Step.moved hadvance).closed hclosed).left
      cases hstill.symm.trans hopen
  | conclude bridge result =>
      cases hhook : a.hook with
      | none =>
          unfold Actor.conclude at hopen
          rw [hhook] at hopen
          exact hopen
      | some hook =>
          refine Bool.eq_false_iff.mpr fun hclosed => ?_
          have hstill := ((Step.concluded bridge result hhook).closed hclosed).left
          cases hstill.symm.trans hopen
  | _ => exact hopen

theorem TimerStep.timed (h : TimerStep a deeds a') (ha : Timed trace a)
    (hopen : a'.mailbox.closed = false) : Timed (trace ++ deeds) a' := by
  cases h with
  | register now period repeating =>
      exact ha.withTimers _ (ha.tracks.register now period repeating) rfl
  | cancel timer => exact ha.withTimers _ (ha.tracks.cancel timer) rfl
  | cancelAll => exact ha.withTimers _ ha.tracks.cancelAll rfl
  | fire now hdue =>
      exact ha.fire ((Timers.Firing.closed_postAll _).symm.trans hopen) now hdue
  | accept hother haccept =>
      rw [List.append_nil]
      exact ha.accept hother haccept
  | requestStop =>
      rw [List.append_nil]
      exact ⟨ha.tracks, ha.silenced, ha.inHand, ha.begins⟩
  | work props =>
      rw [List.append_nil]
      exact ⟨ha.tracks, ha.silenced, ha.inHand, ha.begins⟩
  | move hadvance => exact ha.move hadvance hopen
  | stir _ hagenda => exact ha.stir hagenda
  | conclude bridge result =>
      rw [List.append_nil]
      exact ha.conclude bridge result

theorem TimerRun.timed (h : TimerRun a trace a') (ha : Timed [] a)
    (hopen : a'.mailbox.closed = false) : Timed trace a' := by
  induction h with
  | refl => exact ha
  | snoc _ hstep ih => exact hstep.timed (ih (hstep.wasOpen hopen)) hopen

end Steps

end Actor
end Troupe
