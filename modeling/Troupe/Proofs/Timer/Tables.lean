import Mathlib.Data.List.Nodup
import Troupe.Proofs.History
import Troupe.Timers

/-!
# What a table of timers knows

What has been done with an actor's timers is a trace of deeds.  The table of timers
and the fires that wait in the mailbox together know enough of the trace to tell
which timers may still be handled: a timer is armed until it is cancelled or, if it
fires once, until it is due; and a timer that fires once is kept as fired from the
moment its fire is queued until the fire is handled or cancelled.  `Tracks` says so,
and each operation on the table keeps it.
-/

namespace Troupe

inductive Deed where
  /-- `once` says that the timer fires a single time. -/
  | registered (timer : TimerHandle) (once : Bool)
  /-- `live` is what the caller is told. -/
  | cancelled (timer : TimerHandle) (live : Bool)
  | cancelledAll (live : Nat)
  | queued (timer : TimerHandle)
  /-- The fire found the mailbox full. -/
  | dropped (timer : TimerHandle)
  | handled (timer : TimerHandle)
deriving DecidableEq, Repr

namespace Deed

def registered? : Deed -> Option TimerHandle
  | registered timer _ => some timer
  | _ => none

def queued? : Deed -> Option TimerHandle
  | queued timer => some timer
  | _ => none

def dropped? : Deed -> Option TimerHandle
  | dropped timer => some timer
  | _ => none

def handled? : Deed -> Option TimerHandle
  | handled timer => some timer
  | _ => none

def IsCancel : Deed -> Prop
  | cancelled _ _ => True
  | cancelledAll _ => True
  | _ => False

def Cancels (timer : TimerHandle) : Deed -> Prop
  | cancelled other _ => other = timer
  | cancelledAll _ => True
  | _ => False

end Deed

theorem Deed.IsCancel.silent {deed : Deed} (h : deed.IsCancel) :
    deed.registered? = none ∧ deed.queued? = none ∧ deed.dropped? = none ∧
      deed.handled? = none := by
  cases deed with
  | cancelled => exact ⟨rfl, rfl, rfl, rfl⟩
  | cancelledAll => exact ⟨rfl, rfl, rfl, rfl⟩
  | _ => exact h.elim

namespace Timers

/-!
## What a trace tells
-/

section Trace

variable (trace : List Deed)

def registered : List TimerHandle :=
  trace.filterMap Deed.registered?

def queued : List TimerHandle :=
  trace.filterMap Deed.queued?

def dropped : List TimerHandle :=
  trace.filterMap Deed.dropped?

def handled : List TimerHandle :=
  trace.filterMap Deed.handled?

/-- A timer has been cancelled, alone or with all others. -/
def Cancelled (timer : TimerHandle) : Prop :=
  exists (before after : List Deed) (deed : Deed),
    trace = before ++ deed :: after ∧ timer ∈ registered before ∧ deed.Cancels timer

/-- By what has been done, a timer may still come due. -/
def Armed (timer : TimerHandle) : Prop :=
  exists once : Bool, Deed.registered timer once ∈ trace ∧ ¬ Cancelled trace timer ∧
    (once = true -> timer ∉ queued trace ∧ timer ∉ dropped trace)

end Trace

section Snoc

variable {trace : List Deed} {deed : Deed} {timer : TimerHandle}

theorem registered_append (trace more : List Deed) :
    registered (trace ++ more) = registered trace ++ registered more :=
  List.filterMap_append

theorem registered_snoc :
    registered (trace ++ [deed]) = registered trace ++ deed.registered?.toList := by
  cases deed <;> simp [registered, Deed.registered?]

theorem queued_snoc : queued (trace ++ [deed]) = queued trace ++ deed.queued?.toList := by
  cases deed <;> simp [queued, Deed.queued?]

theorem dropped_snoc : dropped (trace ++ [deed]) = dropped trace ++ deed.dropped?.toList := by
  cases deed <;> simp [dropped, Deed.dropped?]

theorem handled_snoc : handled (trace ++ [deed]) = handled trace ++ deed.handled?.toList := by
  cases deed <;> simp [handled, Deed.handled?]

theorem mem_registered :
    timer ∈ registered trace <-> exists once : Bool, Deed.registered timer once ∈ trace := by
  unfold registered
  rw [List.mem_filterMap]
  constructor
  · rintro ⟨deed, hmem, hdeed⟩
    cases deed with
    | registered other once =>
        obtain rfl : other = timer := Option.some.inj hdeed
        exact ⟨once, hmem⟩
    | _ => cases hdeed
  · rintro ⟨once, hmem⟩
    exact ⟨_, hmem, rfl⟩

theorem mem_snoc_iff {once : Bool} (hdeed : deed.registered? = none) :
    Deed.registered timer once ∈ trace ++ [deed] <-> Deed.registered timer once ∈ trace := by
  rw [List.mem_append, List.mem_singleton]
  refine ⟨fun h => h.resolve_right ?_, Or.inl⟩
  rintro rfl
  cases hdeed

theorem cancelled_snoc :
    Cancelled (trace ++ [deed]) timer <->
      Cancelled trace timer ∨ timer ∈ registered trace ∧ deed.Cancels timer := by
  constructor
  · rintro ⟨before, after, shown, htrace, hbefore, hcancels⟩
    rcases split_snoc htrace with ⟨rfl, rfl, -⟩ | ⟨rest, rfl, -⟩
    · exact Or.inr ⟨hbefore, hcancels⟩
    · exact Or.inl ⟨before, rest, shown, rfl, hbefore, hcancels⟩
  · rintro (⟨before, after, shown, rfl, hbefore, hcancels⟩ | ⟨hbefore, hcancels⟩)
    · exact ⟨before, after ++ [deed], shown, by simp, hbefore, hcancels⟩
    · exact ⟨trace, [], deed, rfl, hbefore, hcancels⟩

theorem Cancelled.registered (h : Cancelled trace timer) : timer ∈ registered trace := by
  rcases h with ⟨before, after, deed, rfl, hbefore, -⟩
  rw [registered_append]
  exact List.mem_append_left _ hbefore

theorem Armed.registered (h : Armed trace timer) : timer ∈ registered trace := by
  rcases h with ⟨once, hmem, -⟩
  exact mem_registered.mpr ⟨once, hmem⟩

end Snoc

/-!
## What the table knows
-/

/-- By what has been done, the fire of a timer that fires once is on its way and still
counts. -/
def Awaited (trace : List Deed) (waiting : List TimerHandle) (timer : TimerHandle) : Prop :=
  Deed.registered timer true ∈ trace ∧ timer ∈ waiting ∧ timer ∉ handled trace ∧
    ¬ Cancelled trace timer

def armedHandles (t : Timers) : List TimerHandle :=
  t.armed.map Prod.fst

/-- The table mirrors what has been done and which fires wait to be handled. -/
structure Tracks (trace : List Deed) (t : Timers) (waiting : List TimerHandle) : Prop where
  issued : registered trace = (List.range t.issued).map fun n => { number := n + 1 }
  /-- Only timers that were registered fire. -/
  known :
    forall timer : TimerHandle,
      timer ∈ queued trace ∨ timer ∈ dropped trace -> timer ∈ registered trace
  kind :
    forall timer : TimerHandle,
      Deed.registered timer true ∈ trace -> Deed.registered timer false ∉ trace
  period :
    forall (timer : TimerHandle) (entry : ArmedTimer), (timer, entry) ∈ t.armed ->
      Deed.registered timer entry.period.isNone ∈ trace
  armedNodup : t.armedHandles.Nodup
  armed_iff : forall timer : TimerHandle, timer ∈ t.armedHandles <-> Armed trace timer
  firedNodup : t.fired.Nodup
  fired_iff : forall timer : TimerHandle, timer ∈ t.fired <-> Awaited trace waiting timer
  /-- Every fire that is handled or waits was queued. -/
  flow :
    forall timer : TimerHandle,
      (handled trace).count timer + waiting.count timer ≤ (queued trace).count timer
  once :
    forall timer : TimerHandle, Deed.registered timer true ∈ trace ->
      (queued trace).count timer + (dropped trace).count timer ≤ 1

/-!
## How the trace goes on
-/

section Deeds

variable {trace : List Deed} {waiting : List TimerHandle} {timer other : TimerHandle}

theorem armed_registered {once : Bool} (hnew : other ∉ registered trace)
    (hunfired : other ∉ queued trace ∧ other ∉ dropped trace) :
    Armed (trace ++ [Deed.registered other once]) timer <-> Armed trace timer ∨ timer = other := by
  have hqueued : queued (trace ++ [Deed.registered other once]) = queued trace := by
    rw [queued_snoc]
    exact List.append_nil _
  have hdropped : dropped (trace ++ [Deed.registered other once]) = dropped trace := by
    rw [dropped_snoc]
    exact List.append_nil _
  simp only [Armed, cancelled_snoc, Deed.Cancels, and_false, or_false, hqueued, hdropped,
    List.mem_append, List.mem_singleton, Deed.registered.injEq]
  constructor
  · rintro ⟨once', hmem | ⟨hsame, -⟩, huncancelled, hfree⟩
    · exact Or.inl ⟨once', hmem, huncancelled, hfree⟩
    · exact Or.inr hsame
  · rintro (⟨once', hmem, huncancelled, hfree⟩ | rfl)
    · exact ⟨once', Or.inl hmem, huncancelled, hfree⟩
    · exact ⟨once, Or.inr ⟨rfl, rfl⟩, fun h => hnew h.registered, fun _ => hunfired⟩

theorem armed_cancel {deed : Deed} (hcancel : deed.IsCancel) :
    Armed (trace ++ [deed]) timer <-> Armed trace timer ∧ ¬ deed.Cancels timer := by
  rcases hcancel.silent with ⟨hregistered, hqueued, hdropped, -⟩
  simp only [Armed, mem_snoc_iff hregistered, cancelled_snoc, queued_snoc, dropped_snoc, hqueued,
    hdropped, Option.toList_none, List.append_nil, not_or, not_and]
  constructor
  · rintro ⟨once, hmem, ⟨huncancelled, hspared⟩, hfree⟩
    exact ⟨⟨once, hmem, huncancelled, hfree⟩, hspared (mem_registered.mpr ⟨once, hmem⟩)⟩
  · rintro ⟨⟨once, hmem, huncancelled, hfree⟩, hspared⟩
    exact ⟨once, hmem, ⟨huncancelled, fun _ => hspared⟩, hfree⟩

theorem armed_fire {deed : Deed} (hfire : deed = Deed.queued other ∨ deed = Deed.dropped other) :
    Armed (trace ++ [deed]) timer <->
      Armed trace timer ∧ (timer = other -> Deed.registered timer false ∈ trace) := by
  have hfired : timer ∉ queued (trace ++ [deed]) ∧ timer ∉ dropped (trace ++ [deed]) <->
      (timer ∉ queued trace ∧ timer ∉ dropped trace) ∧ timer ≠ other := by
    rcases hfire with rfl | rfl <;>
      simp only [queued_snoc, dropped_snoc, Deed.queued?, Deed.dropped?, Option.toList_some,
        Option.toList_none, List.append_nil, List.mem_append, List.mem_singleton] <;>
      tauto
  have hregistered : deed.registered? = none := by rcases hfire with rfl | rfl <;> rfl
  have hspares : ¬ deed.Cancels timer := by rcases hfire with rfl | rfl <;> exact id
  simp only [Armed, mem_snoc_iff hregistered, cancelled_snoc, hspares, and_false, or_false, hfired]
  constructor
  · rintro ⟨once, hmem, huncancelled, hfree⟩
    refine ⟨⟨once, hmem, huncancelled, fun honce => (hfree honce).left⟩, fun hsame => ?_⟩
    cases once with
    | true => exact absurd hsame (hfree rfl).right
    | false => exact hmem
  · rintro ⟨⟨once, hmem, huncancelled, hfree⟩, hother⟩
    by_cases hsame : timer = other
    · exact ⟨false, hother hsame, huncancelled, nofun⟩
    · exact ⟨once, hmem, huncancelled, fun honce => ⟨hfree honce, hsame⟩⟩

theorem armed_handled :
    Armed (trace ++ [Deed.handled other]) timer <-> Armed trace timer := by
  simp [Armed, cancelled_snoc, queued_snoc, dropped_snoc, Deed.queued?, Deed.dropped?,
    Deed.Cancels]

theorem awaited_registered {once : Bool} (hunused : other ∉ waiting) :
    Awaited (trace ++ [Deed.registered other once]) waiting timer <->
      Awaited trace waiting timer := by
  have hhandled : handled (trace ++ [Deed.registered other once]) = handled trace := by
    rw [handled_snoc]
    exact List.append_nil _
  simp only [Awaited, cancelled_snoc, Deed.Cancels, and_false, or_false, hhandled,
    List.mem_append, List.mem_singleton, Deed.registered.injEq]
  constructor
  · rintro ⟨hmem | ⟨rfl, -⟩, hwaiting, hrest⟩
    · exact ⟨hmem, hwaiting, hrest⟩
    · exact absurd hwaiting hunused
  · rintro ⟨hmem, hwaiting, hrest⟩
    exact ⟨Or.inl hmem, hwaiting, hrest⟩

theorem awaited_cancel {deed : Deed} (hcancel : deed.IsCancel) :
    Awaited (trace ++ [deed]) waiting timer <->
      Awaited trace waiting timer ∧ ¬ deed.Cancels timer := by
  rcases hcancel.silent with ⟨hregistered, -, -, hhandled⟩
  simp only [Awaited, mem_snoc_iff hregistered, cancelled_snoc, handled_snoc, hhandled,
    Option.toList_none, List.append_nil, not_or, not_and]
  constructor
  · rintro ⟨hmem, hwaiting, hunhandled, huncancelled, hspared⟩
    exact ⟨⟨hmem, hwaiting, hunhandled, huncancelled⟩,
      hspared (mem_registered.mpr ⟨true, hmem⟩)⟩
  · rintro ⟨⟨hmem, hwaiting, hunhandled, huncancelled⟩, hspared⟩
    exact ⟨hmem, hwaiting, hunhandled, huncancelled, fun _ => hspared⟩

theorem awaited_queued :
    Awaited (trace ++ [Deed.queued other]) (waiting ++ [other]) timer <->
      Awaited trace waiting timer ∨ timer = other ∧ Awaited trace [timer] timer := by
  simp [Awaited, cancelled_snoc, handled_snoc, Deed.handled?, Deed.Cancels]
  tauto

theorem awaited_dropped :
    Awaited (trace ++ [Deed.dropped other]) waiting timer <-> Awaited trace waiting timer := by
  simp [Awaited, cancelled_snoc, handled_snoc, Deed.handled?, Deed.Cancels]

theorem awaited_handled :
    Awaited (trace ++ [Deed.handled other]) waiting timer <->
      Awaited trace (other :: waiting) timer ∧ timer ≠ other := by
  simp [Awaited, cancelled_snoc, handled_snoc, Deed.handled?, Deed.Cancels]
  tauto

end Deeds

theorem isActive_iff {t : Timers} {timer : TimerHandle} :
    t.isActive timer = true <-> timer ∈ t.armedHandles := by
  unfold isActive armed? armedHandles
  rw [List.lookup_isSome_iff, List.mem_map]
  constructor
  · rintro ⟨entry, hmem, hsame⟩
    exact ⟨entry, hmem, (beq_iff_eq.mp hsame).symm⟩
  · rintro ⟨entry, hmem, hsame⟩
    exact ⟨entry, hmem, beq_iff_eq.mpr hsame.symm⟩

theorem armedHandles_disarm (t : Timers) (timer : TimerHandle) :
    (t.disarm timer).armedHandles = t.armedHandles.filter (· != timer) := by
  simp [disarm, armedHandles, List.filter_map, Function.comp_def]

theorem tracks_empty : Tracks [] empty [] := by
  constructor
  case armed_iff =>
    intro timer
    constructor
    · exact nofun
    · rintro ⟨once, hmem, -⟩
      exact nomatch hmem
  case fired_iff =>
    intro timer
    constructor
    · exact nofun
    · intro h
      exact nomatch h.left
  case issued => rfl
  case known => exact fun _ h => h.elim nofun nofun
  case kind => exact nofun
  case period => exact nofun
  case armedNodup => exact List.nodup_nil
  case firedNodup => exact List.nodup_nil
  case flow => exact fun _ => Nat.le_refl 0
  case once => exact nofun

section Tracks

variable {trace : List Deed} {t : Timers} {waiting : List TimerHandle} {timer : TimerHandle}

theorem Tracks.registered_nodup (h : Tracks trace t waiting) : (registered trace).Nodup := by
  rw [h.issued]
  refine List.nodup_range.map fun n m hnm => ?_
  simpa using hnm

theorem Tracks.queued_of_waiting (h : Tracks trace t waiting) (hwaiting : timer ∈ waiting) :
    timer ∈ queued trace := by
  have hcount := List.count_pos_iff.mpr hwaiting
  have hflow := h.flow timer
  exact List.count_pos_iff.mp (by omega)

theorem Tracks.queued_of_handled (h : Tracks trace t waiting)
    (hhandled : timer ∈ Timers.handled trace) : timer ∈ queued trace := by
  have hcount := List.count_pos_iff.mpr hhandled
  have hflow := h.flow timer
  exact List.count_pos_iff.mp (by omega)

theorem Tracks.next_not_mem (h : Tracks trace t waiting) :
    ({ number := t.issued + 1 } : TimerHandle) ∉ registered trace := by
  rw [h.issued]
  simp

theorem Tracks.unfired (h : Tracks trace t waiting) (harmed : timer ∈ t.armedHandles)
    (honce : Deed.registered timer true ∈ trace) :
    timer ∉ Timers.queued trace ∧ timer ∉ Timers.dropped trace ∧ ¬ Cancelled trace timer := by
  rcases (h.armed_iff timer).mp harmed with ⟨once, hmem, huncancelled, hfree⟩
  cases once with
  | true => exact ⟨(hfree rfl).left, (hfree rfl).right, huncancelled⟩
  | false => exact absurd hmem (h.kind timer honce)

/-!
## Registering and cancelling
-/

theorem Tracks.arm (h : Tracks trace t waiting) (entry : ArmedTimer) :
    Tracks (trace ++ [Deed.registered { number := t.issued + 1 } entry.period.isNone])
      { t with
        issued := t.issued + 1
        armed := t.armed ++ [({ number := t.issued + 1 }, entry)] } waiting := by
  have hnew := h.next_not_mem
  generalize hhandle : ({ number := t.issued + 1 } : TimerHandle) = new at *
  have hunfired : new ∉ Timers.queued trace ∧ new ∉ Timers.dropped trace :=
    ⟨fun hqueued => hnew (h.known new (Or.inl hqueued)),
      fun hdropped => hnew (h.known new (Or.inr hdropped))⟩
  have hunused : new ∉ waiting := fun hwaiting => hunfired.left (h.queued_of_waiting hwaiting)
  have hunarmed : new ∉ t.armedHandles := fun harmed =>
    hnew ((h.armed_iff new).mp harmed).registered
  have hlast : forall {timer : TimerHandle} {once : Bool},
      Deed.registered timer once ∈ trace ++ [Deed.registered new entry.period.isNone] ->
        Deed.registered timer once ∈ trace ∨ timer = new ∧ once = entry.period.isNone := by
    intro timer once hmem
    simpa using hmem
  constructor
  case issued => simp [registered_snoc, Deed.registered?, h.issued, List.range_succ, hhandle]
  case known =>
    intro timer hknown
    rw [queued_snoc, dropped_snoc] at hknown
    rw [registered_snoc]
    refine List.mem_append_left _ (h.known timer ?_)
    simpa [Deed.queued?, Deed.dropped?] using hknown
  case kind =>
    intro timer htrue hfalse
    rcases hlast htrue with hbefore | ⟨rfl, honce⟩
    · rcases hlast hfalse with hother | ⟨rfl, -⟩
      · exact h.kind timer hbefore hother
      · exact hnew (mem_registered.mpr ⟨true, hbefore⟩)
    · rcases hlast hfalse with hother | ⟨-, hrepeats⟩
      · exact hnew (mem_registered.mpr ⟨false, hother⟩)
      · cases honce.trans hrepeats.symm
  case period =>
    intro timer other hmem
    rcases List.mem_append.mp hmem with hmem | hmem
    · exact List.mem_append_left _ (h.period timer other hmem)
    · obtain ⟨rfl, rfl⟩ : timer = new ∧ other = entry := by simpa using hmem
      exact List.mem_append_right _ List.mem_cons_self
  case armedNodup =>
    simp only [armedHandles, List.map_append, List.map_cons, List.map_nil]
    exact List.nodup_append_comm.mp (List.nodup_cons.mpr ⟨hunarmed, h.armedNodup⟩)
  case armed_iff =>
    intro timer
    rw [armed_registered hnew hunfired, <- h.armed_iff]
    simp [armedHandles]
  case firedNodup => exact h.firedNodup
  case fired_iff =>
    intro timer
    rw [awaited_registered hunused, <- h.fired_iff]
  case flow => simpa [handled_snoc, queued_snoc, Deed.handled?, Deed.queued?] using h.flow
  case once =>
    intro timer honce
    rw [queued_snoc, dropped_snoc]
    rcases hlast honce with honce | ⟨rfl, -⟩
    · simpa [Deed.queued?, Deed.dropped?] using h.once timer honce
    · simp [Deed.queued?, Deed.dropped?, List.count_eq_zero_of_not_mem hunfired.left,
        List.count_eq_zero_of_not_mem hunfired.right]

theorem Tracks.register (h : Tracks trace t waiting) (now : Instant) (period : Duration)
    (repeating : Bool) :
    Tracks
      (trace ++
        [Deed.registered (t.register now period repeating).1 (!repeating || period.isZero)])
      (t.register now period repeating).2 waiting := by
  have honce : (!repeating || period.isZero) =
      (if repeating && !period.isZero then some period else none).isNone := by
    cases repeating <;> cases period.isZero <;> rfl
  rw [honce]
  exact h.arm { deadline := now.plus period, period := _ }

theorem Tracks.cancels {deed : Deed} {t' : Timers} (h : Tracks trace t waiting)
    (hcancel : deed.IsCancel) (hissued : t'.issued = t.issued) (harmed : t'.armed.Sublist t.armed)
    (hfired : t'.fired.Sublist t.fired)
    (harmed_iff : forall timer : TimerHandle,
      timer ∈ t'.armedHandles <-> timer ∈ t.armedHandles ∧ ¬ deed.Cancels timer)
    (hfired_iff : forall timer : TimerHandle,
      timer ∈ t'.fired <-> timer ∈ t.fired ∧ ¬ deed.Cancels timer) :
    Tracks (trace ++ [deed]) t' waiting := by
  rcases hcancel.silent with ⟨hregistered, hqueued, hdropped, hhandled⟩
  constructor
  case issued =>
    simpa only [registered_snoc, hregistered, hissued, Option.toList_none, List.append_nil] using
      h.issued
  case known =>
    simpa only [registered_snoc, queued_snoc, dropped_snoc, hregistered, hqueued, hdropped,
      Option.toList_none, List.append_nil] using h.known
  case kind => simpa only [mem_snoc_iff hregistered] using h.kind
  case period =>
    intro timer entry hmem
    exact List.mem_append_left _ (h.period timer entry (harmed.subset hmem))
  case armedNodup => exact h.armedNodup.sublist (harmed.map Prod.fst)
  case armed_iff =>
    intro timer
    rw [armed_cancel hcancel, <- h.armed_iff, harmed_iff]
  case firedNodup => exact h.firedNodup.sublist hfired
  case fired_iff =>
    intro timer
    rw [awaited_cancel hcancel, <- h.fired_iff, hfired_iff]
  case flow =>
    simpa only [handled_snoc, queued_snoc, hqueued, hhandled, Option.toList_none,
      List.append_nil] using h.flow
  case once =>
    simpa only [mem_snoc_iff hregistered, queued_snoc, dropped_snoc, hqueued, hdropped,
      Option.toList_none, List.append_nil] using h.once

theorem Tracks.cancel (h : Tracks trace t waiting) (timer : TimerHandle) :
    Tracks (trace ++ [Deed.cancelled timer (t.cancel timer).1]) (t.cancel timer).2 waiting := by
  refine h.cancels trivial rfl List.filter_sublist List.filter_sublist ?_ ?_
  · intro other
    change other ∈ (t.disarm timer).armedHandles <-> _
    simp [armedHandles_disarm, Deed.Cancels, ne_comm]
  · intro other
    simp [Timers.cancel, Deed.Cancels, ne_comm]

theorem Tracks.cancelAll (h : Tracks trace t waiting) :
    Tracks (trace ++ [Deed.cancelledAll t.cancelAll.1]) t.cancelAll.2 waiting := by
  refine h.cancels trivial rfl (List.nil_sublist _) (List.nil_sublist _) ?_ ?_
  · intro other
    simp [armedHandles, Timers.cancelAll, Deed.Cancels]
  · intro other
    simp [Timers.cancelAll, Deed.Cancels]

/-!
## Firing
-/

theorem armedHandles_rearm (t : Timers) (now : Instant) (timer : TimerHandle)
    (entry : ArmedTimer) :
    (t.rearm now timer entry).armedHandles =
      if entry.period.isNone then t.armedHandles.filter (· != timer) else t.armedHandles := by
  unfold rearm
  cases entry.period with
  | none => exact armedHandles_disarm t timer
  | some period =>
      simp only [armedHandles, List.map_map, Option.isNone_some, Bool.false_eq_true, if_false]
      refine List.map_congr_left fun e _ => ?_
      by_cases hsame : e.1 = timer <;> simp [hsame]

theorem issued_rearm (t : Timers) (now : Instant) (timer : TimerHandle) (entry : ArmedTimer) :
    (t.rearm now timer entry).issued = t.issued := by
  unfold rearm
  split <;> rfl

theorem fired_rearm (t : Timers) (now : Instant) (timer : TimerHandle) (entry : ArmedTimer) :
    (t.rearm now timer entry).fired = t.fired := by
  unfold rearm
  split <;> rfl

theorem mem_rearm {now : Instant} {entry found : ArmedTimer} {other : TimerHandle}
    (h : (other, found) ∈ (t.rearm now timer entry).armed) :
    exists before : ArmedTimer, (other, before) ∈ t.armed ∧ found.period = before.period := by
  unfold rearm disarm at h
  cases hperiod : entry.period with
  | none =>
      rw [hperiod] at h
      exact ⟨found, (List.mem_filter.mp h).left, rfl⟩
  | some period =>
      rw [hperiod] at h
      rcases List.mem_map.mp h with ⟨e, hmem, hsame⟩
      by_cases hown : e.1 = timer
      · obtain ⟨rfl, rfl⟩ : e.1 = other ∧ _ = found := by simpa [hown] using hsame
        exact ⟨e.2, hmem, rfl⟩
      · obtain rfl : e = (other, found) := by simpa [hown] using hsame
        exact ⟨found, hmem, rfl⟩

theorem mem_rearm_of_ne {now : Instant} {entry : ArmedTimer} {other : TimerHandle × ArmedTimer}
    (hother : other ∈ t.armed) (hne : other.1 ≠ timer) :
    other ∈ (t.rearm now timer entry).armed := by
  unfold rearm
  split
  · exact List.mem_filter.mpr ⟨hother, bne_iff_ne.mpr hne⟩
  · refine List.mem_map.mpr ⟨other, hother, ?_⟩
    simp [hne]

theorem Tracks.mem_armedHandles_rearm {entry : ArmedTimer} (h : Tracks trace t waiting)
    (now : Instant) (harmed : (timer, entry) ∈ t.armed) (other : TimerHandle) :
    other ∈ (t.rearm now timer entry).armedHandles <->
      Armed trace other ∧ (other = timer -> Deed.registered other false ∈ trace) := by
  have hperiod := h.period timer entry harmed
  rw [armedHandles_rearm, <- h.armed_iff]
  cases hrepeats : entry.period.isNone with
  | true =>
      rw [hrepeats] at hperiod
      have hkind := h.kind timer hperiod
      simp only [if_true, List.mem_filter, bne_iff_ne, ne_eq]
      refine and_congr_right fun _ => ⟨fun hne hsame => absurd hsame hne, ?_⟩
      rintro hsame rfl
      exact hkind (hsame rfl)
  | false =>
      rw [hrepeats] at hperiod
      simp only [Bool.false_eq_true, if_false]
      refine (and_iff_left_of_imp fun _ => ?_).symm
      rintro rfl
      exact hperiod

theorem Tracks.fire {entry : ArmedTimer} {deed : Deed} {fired waiting' : List TimerHandle}
    (h : Tracks trace t waiting) (now : Instant) (harmed : (timer, entry) ∈ t.armed)
    (hfire : deed = Deed.queued timer ∨ deed = Deed.dropped timer) (hnodup : fired.Nodup)
    (hfired : forall other : TimerHandle,
      other ∈ fired <-> Awaited (trace ++ [deed]) waiting' other)
    (hflow : forall other : TimerHandle,
      waiting'.count other ≤ waiting.count other + deed.queued?.toList.count other) :
    Tracks (trace ++ [deed]) { t.rearm now timer entry with fired := fired } waiting' := by
  have hmem : timer ∈ t.armedHandles := List.mem_map_of_mem harmed
  have hregistered : deed.registered? = none := by rcases hfire with rfl | rfl <;> rfl
  have hhandled : deed.handled? = none := by rcases hfire with rfl | rfl <;> rfl
  have honly : deed.queued?.toList ++ deed.dropped?.toList = [timer] := by
    rcases hfire with rfl | rfl <;> rfl
  constructor
  case issued =>
    simpa only [registered_snoc, hregistered, issued_rearm, Option.toList_none,
      List.append_nil] using h.issued
  case known =>
    intro other hknown
    rw [registered_snoc, hregistered, Option.toList_none, List.append_nil]
    rw [queued_snoc, dropped_snoc] at hknown
    by_cases hsame : other = timer
    · rw [hsame]
      exact ((h.armed_iff timer).mp hmem).registered
    · have hlast : other ∉ deed.queued?.toList ++ deed.dropped?.toList := by
        rw [honly, List.mem_singleton]
        exact hsame
      rw [List.mem_append, not_or] at hlast
      exact h.known other (by simpa [hlast] using hknown)
  case kind => simpa only [mem_snoc_iff hregistered] using h.kind
  case period =>
    intro other found hfound
    rcases mem_rearm hfound with ⟨before, hbefore, hsame⟩
    rw [hsame]
    exact List.mem_append_left _ (h.period other before hbefore)
  case armedNodup =>
    change (t.rearm now timer entry).armedHandles.Nodup
    rw [armedHandles_rearm]
    split
    · exact h.armedNodup.filter _
    · exact h.armedNodup
  case armed_iff =>
    intro other
    rw [armed_fire hfire]
    exact h.mem_armedHandles_rearm now harmed other
  case firedNodup => exact hnodup
  case fired_iff => exact hfired
  case flow =>
    intro other
    have hbefore := h.flow other
    have hnow := hflow other
    rw [handled_snoc, hhandled, Option.toList_none, List.append_nil, queued_snoc,
      List.count_append]
    omega
  case once =>
    intro other honce
    rw [mem_snoc_iff hregistered] at honce
    have hlast : deed.queued?.toList.count other + deed.dropped?.toList.count other =
        [timer].count other := by rw [<- List.count_append, honly]
    rw [queued_snoc, dropped_snoc, List.count_append, List.count_append]
    by_cases hsame : other = timer
    · subst hsame
      rcases h.unfired hmem honce with ⟨hunqueued, hundropped, -⟩
      rw [List.count_singleton_self] at hlast
      rw [List.count_eq_zero_of_not_mem hunqueued, List.count_eq_zero_of_not_mem hundropped]
      omega
    · have hbefore := h.once other honce
      rw [List.count_singleton, beq_eq_false_iff_ne.mpr (Ne.symm hsame)] at hlast
      simp only [Bool.false_eq_true, if_false] at hlast
      omega

theorem Tracks.unfired_awaits (h : Tracks trace t waiting) (harmed : timer ∈ t.armedHandles)
    (honce : Deed.registered timer true ∈ trace) :
    timer ∉ t.fired ∧ Awaited trace [timer] timer := by
  rcases h.unfired harmed honce with ⟨hunqueued, -, huncancelled⟩
  refine ⟨fun hfired => ?_, honce, List.mem_cons_self, fun hhandled => ?_, huncancelled⟩
  · have hawaited := (h.fired_iff timer).mp hfired
    exact hunqueued (h.queued_of_waiting hawaited.right.left)
  · exact hunqueued (h.queued_of_handled hhandled)

theorem Tracks.queued {entry : ArmedTimer} (h : Tracks trace t waiting) (now : Instant)
    (harmed : (timer, entry) ∈ t.armed) :
    Tracks (trace ++ [Deed.queued timer])
      { t.rearm now timer entry with
        fired :=
          if entry.period.isNone then (t.rearm now timer entry).fired ++ [timer]
          else (t.rearm now timer entry).fired }
      (waiting ++ [timer]) := by
  have hperiod := h.period timer entry harmed
  have hflow : forall other : TimerHandle, (waiting ++ [timer]).count other ≤
      waiting.count other + (Deed.queued timer).queued?.toList.count other :=
    fun other => Nat.le_of_eq List.count_append
  rw [fired_rearm]
  cases hrepeats : entry.period.isNone with
  | true =>
      rw [hrepeats] at hperiod
      rcases h.unfired_awaits (List.mem_map_of_mem harmed) hperiod with ⟨hunfired, hawaited⟩
      refine h.fire now harmed (Or.inl rfl) ?_ (fun other => ?_) hflow
      · exact List.nodup_append_comm.mp (List.nodup_cons.mpr ⟨hunfired, h.firedNodup⟩)
      · rw [awaited_queued, <- h.fired_iff, if_pos rfl, List.mem_append, List.mem_singleton]
        refine or_congr_right (and_iff_left_of_imp ?_).symm
        rintro rfl
        exact hawaited
  | false =>
      rw [hrepeats] at hperiod
      refine h.fire now harmed (Or.inl rfl) h.firedNodup (fun other => ?_) hflow
      rw [awaited_queued, <- h.fired_iff]
      refine (or_iff_left ?_).symm
      rintro ⟨rfl, honce, -⟩
      exact h.kind other honce hperiod

theorem Tracks.dropped {entry : ArmedTimer} (h : Tracks trace t waiting) (now : Instant)
    (harmed : (timer, entry) ∈ t.armed) :
    Tracks (trace ++ [Deed.dropped timer]) (t.rearm now timer entry) waiting := by
  have hsame : { t.rearm now timer entry with fired := t.fired } = t.rearm now timer entry := by
    rw [<- fired_rearm t now timer entry]
  rw [<- hsame]
  refine h.fire now harmed (Or.inr rfl) h.firedNodup (fun other => ?_) fun other => Nat.le_refl _
  rw [awaited_dropped, h.fired_iff]

/-!
## Handling
-/

theorem acceptFire_iff :
    (t.acceptFire timer).1 = true <-> timer ∈ t.fired ∨ timer ∈ t.armedHandles := by
  unfold acceptFire
  rw [Bool.or_eq_true, isActive_iff, List.contains_iff_mem]

theorem Tracks.handled (h : Tracks trace t (timer :: waiting)) :
    Tracks (trace ++ [Deed.handled timer]) (t.acceptFire timer).2 waiting := by
  constructor
  case issued =>
    rw [registered_snoc]
    exact (List.append_nil _).trans h.issued
  case known =>
    simpa [registered_snoc, queued_snoc, dropped_snoc, Deed.registered?, Deed.queued?,
      Deed.dropped?] using h.known
  case kind =>
    have hsilent : (Deed.handled timer).registered? = none := rfl
    simpa only [mem_snoc_iff hsilent] using h.kind
  case period => exact fun other entry hmem => List.mem_append_left _ (h.period other entry hmem)
  case armedNodup => exact h.armedNodup
  case armed_iff =>
    intro other
    rw [armed_handled, <- h.armed_iff]
    rfl
  case firedNodup => exact h.firedNodup.filter _
  case fired_iff =>
    intro other
    rw [awaited_handled, <- h.fired_iff]
    simp [acceptFire]
  case flow =>
    intro other
    have hbefore := h.flow other
    rw [List.count_cons] at hbefore
    rw [handled_snoc, queued_snoc, List.count_append, List.count_append]
    simp only [Deed.handled?, Deed.queued?, Option.toList_some, Option.toList_none,
      List.count_singleton, List.count_nil]
    omega
  case once => simpa [queued_snoc, dropped_snoc, Deed.queued?, Deed.dropped?] using h.once

theorem Tracks.ignored (h : Tracks trace t (timer :: waiting))
    (hrefused : (t.acceptFire timer).1 = false) :
    Tracks trace (t.acceptFire timer).2 waiting := by
  have hunfired : timer ∉ t.fired := fun hfired => by
    have haccepted := acceptFire_iff.mpr (Or.inl hfired)
    cases hrefused.symm.trans haccepted
  have hsame : (t.acceptFire timer).2 = t := by
    have hkept : t.fired.filter (· != timer) = t.fired :=
      List.filter_eq_self.mpr fun other hother => by
        rw [bne_iff_ne]
        rintro rfl
        exact hunfired hother
    simp [acceptFire, hkept]
  rw [hsame]
  refine { h with fired_iff := fun other => ?_, flow := fun other => ?_ }
  · rw [h.fired_iff]
    constructor
    · intro hawaited
      have hother := (h.fired_iff other).mpr hawaited
      have hne : other ≠ timer := fun hsame => hunfired (hsame ▸ hother)
      exact ⟨hawaited.left, List.mem_of_ne_of_mem hne hawaited.right.left, hawaited.right.right⟩
    · rintro ⟨honce, hwaiting, hrest⟩
      exact ⟨honce, List.mem_cons_of_mem _ hwaiting, hrest⟩
  · have hbefore := h.flow other
    have hless := List.count_le_count_cons (a := other) (b := timer) (l := waiting)
    omega

/-!
## What cancelling answers
-/

theorem cancel_eq_true_iff :
    (t.cancel timer).1 = true <-> timer ∈ t.armedHandles ∨ timer ∈ t.fired := by
  unfold Timers.cancel
  rw [Bool.or_eq_true, isActive_iff, List.contains_iff_mem]

theorem Tracks.live_nodup (h : Tracks trace t waiting) : (t.armedHandles ++ t.fired).Nodup := by
  refine List.nodup_append.mpr ⟨h.armedNodup, h.firedNodup, ?_⟩
  rintro timer harmed _ hfired rfl
  have hawaited := (h.fired_iff timer).mp hfired
  exact (h.unfired_awaits harmed hawaited.left).left hfired

end Tracks

/-!
## Silence
-/

/-- A timer is not handled any more after it has been cancelled. -/
def Silenced (trace : List Deed) : Prop :=
  forall (before after : List Deed) (deed : Deed) (timer : TimerHandle),
    trace = before ++ deed :: after -> timer ∈ registered before -> deed.Cancels timer ->
      timer ∉ handled after

theorem Silenced.snoc {trace : List Deed} {deed : Deed} (h : Silenced trace)
    (hdeed : forall timer : TimerHandle, deed = Deed.handled timer -> ¬ Cancelled trace timer) :
    Silenced (trace ++ [deed]) := by
  intro before after shown timer htrace hbefore hcancels
  rcases split_snoc htrace with ⟨-, -, rfl⟩ | ⟨rest, rfl, rfl⟩
  · exact nofun
  · rw [handled_snoc, List.mem_append, not_or]
    refine ⟨h before rest shown timer rfl hbefore hcancels, fun hlast => ?_⟩
    have hhandled : deed = Deed.handled timer := by
      cases deed with
      | handled other => exact congrArg _ (List.mem_singleton.mp hlast).symm
      | _ => cases hlast
    exact hdeed timer hhandled ⟨before, rest, shown, rfl, hbefore, hcancels⟩

end Timers
end Troupe
