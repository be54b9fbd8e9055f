import Troupe.Proofs.Timer.Runs

/-!
# What timers promise

As long as its mailbox is open, an actor is told of its timers as it asked for: of a
timer that fires once at most once, and of a cancelled one never again.  What
cancelling answers is what could still have come.
-/

namespace Troupe
namespace Timers

variable {trace before after : List Deed} {t : Timers} {waiting : List TimerHandle}
  {timer : TimerHandle}

theorem Tracks.registered_of_handled (h : Tracks trace t waiting)
    (hhandled : timer ∈ Timers.handled trace) : timer ∈ registered trace :=
  h.known timer (Or.inl (h.queued_of_handled hhandled))

theorem Tracks.registered_after (h : Tracks trace t waiting) (hsilenced : Silenced trace)
    {deed : Deed} (htrace : trace = before ++ deed :: after) (hcancels : deed.Cancels timer)
    (hhandled : timer ∈ Timers.handled after) :
    timer ∉ registered before ∧ timer ∈ registered after := by
  have hbefore : timer ∉ registered before := fun hmem =>
    hsilenced before after deed timer htrace hmem hcancels hhandled
  refine ⟨hbefore, ?_⟩
  have hall : timer ∈ registered trace := by
    refine h.registered_of_handled ?_
    rw [htrace, Timers.handled, List.filterMap_append, List.filterMap_cons]
    refine List.mem_append_right _ ?_
    split
    · exact hhandled
    · exact List.mem_cons_of_mem _ hhandled
  have hsilent : deed.registered? = none := by
    cases deed with
    | cancelled => rfl
    | cancelledAll => rfl
    | _ => exact hcancels.elim
  rw [htrace, registered_append, List.mem_append] at hall
  have hrest := hall.resolve_left hbefore
  rw [registered, List.filterMap_cons, hsilent] at hrest
  exact hrest

theorem Tracks.handled_once (h : Tracks trace t waiting)
    (honce : Deed.registered timer true ∈ trace) :
    (Timers.handled trace).count timer ≤ 1 ∧
      (timer ∈ Timers.dropped trace -> timer ∉ Timers.handled trace) := by
  have hflow := h.flow timer
  have hfires := h.once timer honce
  refine ⟨by omega, fun hdropped hhandled => ?_⟩
  have hsome := List.count_pos_iff.mpr hdropped
  have htold := List.count_pos_iff.mpr hhandled
  omega

end Timers

namespace Actor

variable {α : Type}

/-- The program may still be told of a timer: the timer is armed, or it fires once and
its fire is on its way. -/
def Pending (trace : List Deed) (a : Actor α) (timer : TimerHandle) : Prop :=
  a.timers.isActive timer = true ∨ Timers.Awaited trace a.waitingFires timer

/-- What is true of an actor's timers at any moment, given what has been done with them. -/
structure TimersObeyed (trace : List Deed) (a : Actor α) : Prop where
  issued : (Timers.registered trace).Nodup
  once :
    forall timer : TimerHandle, Deed.registered timer true ∈ trace ->
      (Timers.handled trace).count timer ≤ 1 ∧
        (timer ∈ Timers.dropped trace -> timer ∉ Timers.handled trace)
  /-- Only a timer that got its handle after the handle was cancelled is still handled. -/
  cancelled :
    forall (before after : List Deed) (timer : TimerHandle) (live : Bool),
      trace = before ++ Deed.cancelled timer live :: after -> timer ∈ Timers.handled after ->
        timer ∉ Timers.registered before ∧ timer ∈ Timers.registered after
  cancelledAll :
    forall (before after : List Deed) (live : Nat) (timer : TimerHandle),
      trace = before ++ Deed.cancelledAll live :: after -> timer ∈ Timers.handled after ->
        timer ∉ Timers.registered before ∧ timer ∈ Timers.registered after
  /-- The armed timers are those that may come due, by what has been done. -/
  armed :
    forall timer : TimerHandle, a.timers.isActive timer = true <-> Timers.Armed trace timer
  cancel :
    forall timer : TimerHandle, (a.timers.cancel timer).1 = true <-> a.Pending trace timer
  cancelAll :
    exists live : List TimerHandle, live.Nodup ∧
      (forall timer : TimerHandle, timer ∈ live <-> a.Pending trace timer) ∧
        a.timers.cancelAll.1 = live.length

theorem Timed.mem_live {trace : List Deed} {a : Actor α} (h : Timed trace a)
    (timer : TimerHandle) :
    timer ∈ a.timers.armedHandles ∨ timer ∈ a.timers.fired <-> a.Pending trace timer := by
  unfold Pending
  rw [Timers.isActive_iff, h.tracks.fired_iff]

/-- Timers are obeyed whatever is done with them and whenever they fire, up to the
draining of the mailbox. -/
theorem timers_obeyed {ref : ActorRef} {device : String} {handlers : Handlers α}
    {capacity : Nat} {trace : List Deed} {a : Actor α}
    (hrun : TimerRun (create ref device handlers capacity) trace a)
    (hopen : a.mailbox.closed = false) : TimersObeyed trace a := by
  have htimed := hrun.timed (timed_create ref device handlers capacity) hopen
  constructor
  case issued => exact htimed.tracks.registered_nodup
  case once => exact fun timer honce => htimed.tracks.handled_once honce
  case cancelled =>
    intro before after timer live htrace hhandled
    exact htimed.tracks.registered_after htimed.silenced htrace rfl hhandled
  case cancelledAll =>
    intro before after live timer htrace hhandled
    exact htimed.tracks.registered_after htimed.silenced htrace trivial hhandled
  case armed =>
    intro timer
    rw [Timers.isActive_iff, htimed.tracks.armed_iff]
  case cancel =>
    intro timer
    rw [Timers.cancel_eq_true_iff, htimed.mem_live]
  case cancelAll =>
    refine ⟨a.timers.armedHandles ++ a.timers.fired, htimed.tracks.live_nodup, ?_, ?_⟩
    · intro timer
      rw [List.mem_append, htimed.mem_live]
    · simp [Timers.cancelAll, Timers.armedHandles]

/-- A timer that fires once is handled; one that repeats is cancelled while its fire is
queued, and the fire is ignored. -/
theorem timers_obeyed_cancelled_fire :
    let ref : ActorRef :=
      { id := ActorId.ofNat 1, name := "lamp", enqueueTimeout := Duration.zero }
    let once : TimerHandle := { number := 1 }
    let again : TimerHandle := { number := 2 }
    let trace : List Deed :=
      [Deed.registered once true, Deed.registered again false, Deed.queued once,
        Deed.queued again, Deed.handled once, Deed.cancelled again true]
    exists a : Actor Unit,
      TimerRun (create ref "node" [] 4) trace a ∧ a.mailbox.closed = false ∧
        a.mailbox.queue = [] ∧ TimersObeyed trace a := by
  intro ref once again trace
  have hstart := ((TimerRun.refl (a := create ref "node" ([] : Handlers Unit) 4)).snoc
    (TimerStep.move rfl)).snoc (TimerStep.move rfl)
  have harmed := (hstart.snoc (TimerStep.register Duration.zero ⟨5⟩ false)).snoc
    (TimerStep.register Duration.zero ⟨5⟩ true)
  have hrunning := (harmed.snoc
    (TimerStep.conclude (Bridge.create Transport.null Format.cbor) (.ok ()))).snoc
      (TimerStep.move rfl)
  have hfired := hrunning.snoc (TimerStep.fire ⟨5⟩ (List.Sublist.refl _))
  have hreceived := ((hfired.snoc (TimerStep.move rfl)).snoc (TimerStep.move rfl)).snoc
    (TimerStep.move rfl)
  have hhandled := hreceived.snoc
    (TimerStep.conclude (Bridge.create Transport.null Format.cbor) (.ok ()))
  have hcancelled := hhandled.snoc (TimerStep.cancel again)
  have hignored := ((hcancelled.snoc (TimerStep.move rfl)).snoc (TimerStep.move rfl)).snoc
    (TimerStep.move rfl)
  have hshown : exists (shown : List Deed) (a : Actor Unit), shown = trace ∧
      TimerRun (create ref "node" [] 4) shown a ∧ a.mailbox.closed = false ∧
        a.mailbox.queue = [] :=
    ⟨_, _, by decide +kernel, hignored, rfl, rfl⟩
  rcases hshown with ⟨shown, a, rfl, hrun, hopen, hempty⟩
  exact ⟨a, hrun, hopen, hempty, timers_obeyed hrun hopen⟩

end Actor
end Troupe
