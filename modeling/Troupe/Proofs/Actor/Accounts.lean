import Troupe.Proofs.Actor.Life

/-!
# Accounts of envelopes

Every envelope that a mailbox accepts comes out of it once, in order, and is counted
once: it is delivered, finds no handler, is the fire of a cancelled timer, is
discarded at the end, or is still waiting.
-/

namespace Troupe

namespace Event

variable {α : Type}

@[simp]
def accepted? : Event α -> Option Envelope
  | accepted env => some env
  | _ => none

@[simp]
def ignored? : Event α -> Option Envelope
  | ignored env => some env
  | _ => none

end Event

namespace Actor

variable {α : Type}

def accepted (trace : List (Event α)) : List Envelope :=
  trace.filterMap Event.accepted?

/-- The queued fires of cancelled timers, in order. -/
def passedOver (trace : List (Event α)) : List Envelope :=
  trace.filterMap Event.ignored?

section Accounts

variable {a a' b : Actor α} {event? : Option (Event α)} {trace : List (Event α)}
  {states : List ActorState} {hooks : List (Hook α)} {results : List (Except ActorError Unit)}

/-!
## Order

Only draining discards anything, and it leaves nothing behind.
-/

/-- What came in went out at the front, was discarded, or is still waiting. -/
def Ordered (came went : List Envelope) (a : Actor α) : Prop :=
  exists dropped : List Envelope,
    came = went ++ dropped ++ a.mailbox.queue ∧ dropped.length = a.stats.discarded ∧
      (a.mailbox.closed = false -> dropped = []) ∧
        (a.mailbox.closed = true -> a.mailbox.queue = [])

theorem Ordered.keep {came went cameNow wentNow : List Envelope} (h : Ordered came went a)
    (hcame : cameNow = []) (hwent : wentNow = []) (hmailbox : a'.mailbox = a.mailbox)
    (hdiscarded : a'.stats.discarded = a.stats.discarded) :
    Ordered (came ++ cameNow) (went ++ wentNow) a' := by
  rw [hcame, hwent, List.append_nil, List.append_nil]
  unfold Ordered
  rw [hmailbox, hdiscarded]
  exact h

theorem Quiet.ordered {came went : List Envelope} (h : Quiet a event? a')
    (hordered : Ordered came went a) :
    Ordered (came ++ accepted event?.toList) (went ++ taken event?.toList) a' := by
  cases h with
  | silent => exact hordered.keep rfl rfl rfl rfl
  | posted env timers hopen =>
      obtain ⟨dropped, hcame, hcount, hnone, -⟩ := hordered
      refine ⟨dropped, ?_, hcount, hnone, fun hclosed => ?_⟩
      · simp [accepted, taken, hcame]
      · cases hopen.symm.trans hclosed
  | armed => exact hordered.keep rfl rfl rfl rfl
  | asked => exact hordered.keep rfl rfl rfl rfl

theorem Ordered.drain {came went : List Envelope} (h : Ordered came went a) :
    Ordered came went a.drain := by
  obtain ⟨dropped, hcame, hcount, -, -⟩ := h
  refine ⟨dropped ++ a.mailbox.queue, ?_, ?_, nofun, fun _ => rfl⟩
  · simp [hcame, Actor.drain, Mailbox.drain]
  · simp [hcount, Actor.drain, Mailbox.drain]

theorem Ordered.take {came went : List Envelope} {env : Envelope} {rest : List Envelope}
    {agenda : List (Duty α)} (h : Ordered came went a) (hqueue : a.mailbox.queue = env :: rest) :
    Ordered (came ++ []) (went ++ [env])
      { a with mailbox := { a.mailbox with queue := rest }, agenda := agenda } := by
  obtain ⟨dropped, hcame, hcount, hnone, hempty⟩ := h
  have hopen : a.mailbox.closed = false := by
    cases hclosed : a.mailbox.closed with
    | false => rfl
    | true => cases (hempty hclosed).symm.trans hqueue
  refine ⟨[], ?_, ?_, fun _ => rfl, fun hclosed => ?_⟩
  · simp [hcame, hnone hopen, hqueue]
  · rw [<- hcount, hnone hopen]
  · cases hopen.symm.trans hclosed

theorem Move.ordered {came went : List Envelope} (h : Move a event? a')
    (hordered : Ordered came went a) :
    Ordered (came ++ accepted event?.toList) (went ++ taken event?.toList) a' := by
  cases h with
  | duty _ hcarried =>
      cases hcarried with
      | handle hopening => cases hopening <;> exact hordered.keep rfl rfl rfl rfl
      | drain => exact hordered.drain.keep rfl rfl rfl rfl
      | take hqueue => exact hordered.take hqueue
      | _ => exact hordered.keep rfl rfl rfl rfl
  | look => exact hordered.keep rfl rfl rfl rfl
  | leave => exact hordered.keep rfl rfl rfl rfl

theorem Step.ordered {came went : List Envelope} (h : Step a event? a')
    (hordered : Ordered came went a) :
    Ordered (came ++ accepted event?.toList) (went ++ taken event?.toList) a' := by
  cases h.shape with
  | quiet hquiet => exact hquiet.ordered hordered
  | move _ hmove => exact hmove.ordered hordered
  | conclusion _ hconclusion => cases hconclusion <;> exact hordered.keep rfl rfl rfl rfl

/-!
## Counts
-/

def turnsUnderWay : Option (Hook α) -> Nat
  | some hook => if hook.forEnvelope then 1 else 0
  | none => 0

theorem turnsUnderWay_turn {hook : Hook α} (hturn : hook.forEnvelope = true) :
    turnsUnderWay (some hook) = 1 := by
  simp [turnsUnderWay, hturn]

/-- What went out has been counted once, or is in hand; and nothing has failed that
was not delivered. -/
structure Counted (went passed : Nat) (a : Actor α) : Prop where
  exits : went = a.stats.delivered + a.stats.unmatched + passed + a.inHand.length
  failures : a.stats.failed + turnsUnderWay a.hook ≤ a.stats.delivered

theorem Counted.keep {went passed wentNow passedNow : Nat} (h : Counted went passed a)
    (hwent : wentNow = 0) (hpassed : passedNow = 0)
    (hdelivered : a'.stats.delivered = a.stats.delivered)
    (hunmatched : a'.stats.unmatched = a.stats.unmatched) (hhand : a'.inHand = a.inHand)
    (hfailures :
      a'.stats.failed + turnsUnderWay a'.hook ≤ a.stats.failed + turnsUnderWay a.hook) :
    Counted (went + wentNow) (passed + passedNow) a' := by
  rw [hwent, hpassed]
  refine ⟨?_, ?_⟩
  · rw [hdelivered, hunmatched, hhand]
    exact h.exits
  · rw [hdelivered]
    exact Nat.le_trans hfailures h.failures

theorem Opening.counted {went passed : Nat} {env : Envelope} {rest : List (Duty α)}
    (h : Opening { a with agenda := rest } env event? a')
    (hagenda : a.agenda = Duty.handle env :: rest) (hcounted : Counted went passed a) :
    Counted (went + (taken event?.toList).length) (passed + (passedOver event?.toList).length)
      a' := by
  have hhand : a.inHand.length = (rest.filterMap Duty.envelope?).length + 1 := by
    simp [inHand, hagenda]
  obtain ⟨hexits, hfailures⟩ := hcounted
  rw [hhand] at hexits
  cases h with
  | ignored timers =>
      refine ⟨?_, hfailures⟩
      change went + 0 = a.stats.delivered + a.stats.unmatched + (passed + 1) +
        (rest.filterMap Duty.envelope?).length
      omega
  | @began hook timers props hhook =>
      refine ⟨?_, ?_⟩
      · change went + 0 = a.stats.delivered + 1 + a.stats.unmatched + (passed + 0) +
          (rest.filterMap Duty.envelope?).length
        omega
      · change a.stats.failed + turnsUnderWay (some hook) ≤ a.stats.delivered + 1
        rw [turnsUnderWay_turn hhook]
        omega
  | refused props =>
      refine ⟨?_, ?_⟩
      · change went + 0 = a.stats.delivered + 1 + a.stats.unmatched + (passed + 0) +
          (rest.filterMap Duty.envelope?).length
        omega
      · change a.stats.failed + 1 + turnsUnderWay a.hook ≤ a.stats.delivered + 1
        omega
  | unmatched =>
      refine ⟨?_, hfailures⟩
      change went + 0 = a.stats.delivered + (a.stats.unmatched + 1) + (passed + 0) +
        (rest.filterMap Duty.envelope?).length
      omega

theorem Move.counted {went passed : Nat} (h : Move a event? a')
    (hcourse : Course states hooks results a) (hcounted : Counted went passed a) :
    Counted (went + (taken event?.toList).length) (passed + (passedOver event?.toList).length)
      a' := by
  cases h with
  | @duty duty rest _ _ hagenda hcarried =>
      cases hcarried with
      | handle hopening => exact hopening.counted hagenda hcounted
      | begin hook =>
          have hhook : hook.forEnvelope = false :=
            hcourse.begin_mem (by rw [hagenda]; exact List.mem_cons_self)
          exact hcounted.keep rfl rfl rfl rfl (inHand_of_agenda hagenda).symm
            (by simp [turnsUnderWay, hhook])
      | take =>
          refine ⟨?_, hcounted.failures⟩
          have hexits := hcounted.exits
          have htaking := hcourse.isTaking_of_mem (by simp [hagenda])
          have hempty : a.inHand.length = 0 := congrArg List.length htaking.inHand
          change went + 1 = a.stats.delivered + a.stats.unmatched + (passed + 0) + 1
          omega
      | leave =>
          have htaking := hcourse.isTaking_of_mem (by simp [hagenda])
          exact hcounted.keep rfl rfl rfl rfl htaking.inHand.symm (Nat.le_refl _)
      | wait =>
          have htaking := hcourse.isTaking_of_mem (by simp [hagenda])
          exact hcounted.keep rfl rfl rfl rfl htaking.inHand.symm (Nat.le_refl _)
      | _ =>
          exact hcounted.keep rfl rfl rfl rfl (inHand_of_agenda hagenda).symm (Nat.le_refl _)
  | look hagenda =>
      exact hcounted.keep rfl rfl rfl rfl (by simp [inHand, hagenda]) (Nat.le_refl _)
  | leave hagenda =>
      exact hcounted.keep rfl rfl rfl rfl (by simp [inHand, hagenda, windingDown]) (Nat.le_refl _)

theorem Conclusion.counted {went passed : Nat} {hook : Hook α} {result : Except ActorError Unit}
    (h : Conclusion a hook result a') (hhook : a.hook = some hook) (hagenda : a.agenda = [])
    (hcounted : Counted went passed a) :
    Counted (went + (taken [Event.ended hook result]).length)
      (passed + (passedOver [Event.ended hook result]).length) a' := by
  cases h with
  | started =>
      exact hcounted.keep rfl rfl rfl rfl (by simp [inHand, hagenda]) (Nat.le_add_right _ _)
  | startFailed =>
      exact hcounted.keep rfl rfl rfl rfl (by simp [inHand, hagenda, givingUp])
        (Nat.le_add_right _ _)
  | stopped =>
      exact hcounted.keep rfl rfl rfl rfl (by simp [inHand, hagenda]) (Nat.le_add_right _ _)
  | succeeded => exact hcounted.keep rfl rfl rfl rfl rfl (Nat.le_add_right _ _)
  | failed error props hturn =>
      refine hcounted.keep rfl rfl rfl rfl rfl ?_
      rw [hhook, turnsUnderWay_turn hturn]
      exact Nat.le_refl _

theorem Step.counted {went passed : Nat} (h : Step a event? a')
    (hcourse : Course states hooks results a) (hcounted : Counted went passed a) :
    Counted (went + (taken event?.toList).length) (passed + (passedOver event?.toList).length)
      a' := by
  cases h.shape with
  | quiet hquiet => cases hquiet <;> exact hcounted.keep rfl rfl rfl rfl rfl (Nat.le_refl _)
  | move _ hmove => exact hmove.counted hcourse hcounted
  | conclusion hhook hconclusion =>
      exact hconclusion.counted hhook (hcourse.agenda_of_hook hhook) hcounted

/-!
## Closed mailboxes
-/

theorem Step.closed (h : Step a event? a') (hclosed : a.mailbox.closed = true) :
    a'.mailbox.closed = true ∧ accepted event?.toList = [] := by
  cases h.shape with
  | quiet hquiet =>
      cases hquiet with
      | posted _ _ hopen => cases hopen.symm.trans hclosed
      | silent => exact ⟨hclosed, rfl⟩
      | armed => exact ⟨hclosed, rfl⟩
      | asked => exact ⟨hclosed, rfl⟩
  | move _ hmove =>
      cases hmove with
      | duty _ hcarried =>
          cases hcarried with
          | handle hopening => cases hopening <;> exact ⟨hclosed, rfl⟩
          | drain => exact ⟨rfl, rfl⟩
          | _ => exact ⟨hclosed, rfl⟩
      | look => exact ⟨hclosed, rfl⟩
      | leave => exact ⟨hclosed, rfl⟩
  | conclusion _ hconclusion => cases hconclusion <;> exact ⟨hclosed, rfl⟩

theorem Run.closed (h : Run a trace b) (hclosed : a.mailbox.closed = true) :
    b.mailbox.closed = true ∧ accepted trace = [] := by
  induction h with
  | refl => exact ⟨hclosed, rfl⟩
  | snoc _ hstep ih =>
      have hlast := hstep.closed ih.left
      refine ⟨hlast.left, ?_⟩
      rw [accepted, List.filterMap_append]
      exact List.append_eq_nil_iff.mpr ⟨ih.right, hlast.right⟩

theorem accept_of_closed (env : Envelope) (hclosed : a.mailbox.closed = true) :
    a.accept env = .error (EnqueueError.closed env) := by
  simp [accept, Mailbox.tryEnqueue, hclosed]

end Accounts

/-!
## Every life
-/

/-- What is true of an actor's counts at any moment of a life. -/
structure Accounted (trace : List (Event α)) (a : Actor α) : Prop where
  order : Ordered (accepted trace) (taken trace) a
  counts : Counted (taken trace).length (passedOver trace).length a

theorem Run.accounted {ref : ActorRef} {device : String} {handlers : Handlers α} {capacity : Nat}
    {trace : List (Event α)} {a : Actor α}
    (h : Run (create ref device handlers capacity) trace a) : Accounted trace a := by
  induction h with
  | refl => exact ⟨⟨[], rfl, rfl, fun _ => rfl, nofun⟩, ⟨rfl, Nat.le_refl _⟩⟩
  | @snoc trace event? b c hrun hstep ih =>
      have horder := hstep.ordered ih.order
      have hcounts := hstep.counted hrun.course ih.counts
      refine ⟨?_, ?_⟩
      · simpa only [accepted, taken, List.filterMap_append] using horder
      · simpa only [taken, passedOver, List.filterMap_append, List.length_append] using hcounts

/-- Whatever happens to an actor, its counts account for every envelope that its
mailbox accepted whenever none is in hand, envelopes are taken in the order in which
they were accepted, and a stopped actor holds none and gets none. -/
theorem envelopes_accounted {ref : ActorRef} {device : String} {handlers : Handlers α}
    {capacity : Nat} {trace : List (Event α)} {a : Actor α}
    (hrun : Run (create ref device handlers capacity) trace a) :
    (a.inHand = [] ->
      (accepted trace).length =
        a.stats.delivered + a.stats.unmatched + (passedOver trace).length + a.stats.discarded +
          a.mailbox.queue.length) ∧
      a.stats.failed ≤ a.stats.delivered ∧ taken trace <+: accepted trace ∧
        (a.state = ActorState.stopped ->
          a.mailbox.queue = [] ∧
            forall (later : List (Event α)) (b : Actor α), Run a later b ->
              b.mailbox.queue = [] ∧ accepted later = [] ∧
                forall env : Envelope, b.accept env = .error (EnqueueError.closed env)) := by
  obtain ⟨⟨dropped, hcame, hcount, -, hempty⟩, ⟨hexits, hfailures⟩⟩ := hrun.accounted
  refine ⟨fun hhand => ?_, Nat.le_trans (Nat.le_add_right _ _) hfailures, ?_, fun hstopped => ?_⟩
  · rw [hcame, List.length_append, List.length_append, hexits, hhand, hcount]
    rfl
  · rw [hcame, List.append_assoc]
    exact List.prefix_append _ _
  · have hclosed := (hrun.course.sealed_of_stopped hstopped).closed
    refine ⟨hempty hclosed, fun later b hlater => ?_⟩
    have hstill := hlater.closed hclosed
    obtain ⟨⟨_, _, _, _, hnone⟩, _⟩ := (hrun.trans hlater).accounted
    exact ⟨hnone hstill.left, hstill.right, fun env => accept_of_closed env hstill.left⟩

/-- An envelope that waits for an actor whose startup fails is discarded. -/
theorem envelopes_accounted_failed_startup :
    let ref : ActorRef :=
      { id := ActorId.ofNat 1, name := "lamp", enqueueTimeout := Duration.zero }
    let env : Envelope := Envelope.ofMessage (Message.raw "node/lamp" Tree.null)
    exists (trace : List (Event Unit)) (a : Actor Unit),
      Run (create ref "node" [] 1) trace a ∧ a.state = ActorState.stopped ∧
        (accepted trace = [env] ∧ a.stats.discarded = 1) ∧
          (accepted trace).length =
              a.stats.delivered + a.stats.unmatched + (passedOver trace).length +
                a.stats.discarded + a.mailbox.queue.length ∧
            a.accept env = .error (EnqueueError.closed env) := by
  intro ref env
  have bridge := Bridge.create Transport.null Format.cbor
  have hsend :
      Disturbance (create ref "node" ([] : Handlers Unit) 1) (some (Event.accepted env)) _ :=
    Disturbance.accept rfl
  have hsent := Run.refl.snoc (Step.disturbed hsend)
  have hstart := (hsent.snoc (Step.moved rfl)).snoc (Step.moved rfl)
  have hfailed := hstart.snoc (Step.concluded bridge (.error (ActorError.handler "no bulb")) rfl)
  have hdrained := ((hfailed.snoc (Step.moved rfl)).snoc (Step.moved rfl)).snoc (Step.moved rfl)
  have hended := hdrained.snoc (Step.moved rfl)
  obtain ⟨hcounts, -, -, hstopped⟩ := envelopes_accounted hended
  exact ⟨_, _, hended, rfl, ⟨rfl, rfl⟩, hcounts rfl,
    ((hstopped rfl).right [] _ Run.refl).right.right env⟩

end Actor
end Troupe
