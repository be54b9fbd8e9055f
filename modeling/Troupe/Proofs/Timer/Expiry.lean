import Troupe.Actor.Basic
import Troupe.Proofs.Timer.Tables

/-!
# Timers that are due

When the timers that are due fire into an open mailbox, all of them are treated in the order
of their handles.  As long as there are free slots their fires are queued, the others are
dropped, and either way a repeating timer is armed for a period after now and any other timer
is armed no more.

Periods are never zero, so no timer that is armed after that is due: whoever fires timers and
then waits for the next deadline does wait.
-/

namespace Troupe

namespace Timers

/-- The tables that come about by use. -/
inductive Reachable : Timers -> Prop where
  | empty : Reachable empty
  | register {t : Timers} (now : Instant) (period : Duration) (repeating : Bool) :
      Reachable t -> Reachable (t.register now period repeating).2
  | cancel {t : Timers} (timer : TimerHandle) : Reachable t -> Reachable (t.cancel timer).2
  | cancelAll {t : Timers} : Reachable t -> Reachable t.cancelAll.2
  | acceptFire {t : Timers} (timer : TimerHandle) :
      Reachable t -> Reachable (t.acceptFire timer).2
  | fireDue {t : Timers} (now : Instant) (owner : ActorId) (mailbox : Mailbox) :
      Reachable t -> Reachable (t.fireDue now owner mailbox).1.timers

/-!
## Tables in order
-/

/-- Handles ascend up to the last one given out, and repeating timers have a period to wait. -/
structure Orderly (t : Timers) : Prop where
  ascending : t.armedHandles.Pairwise fun timer later => timer.number < later.number
  issued : forall timer : TimerHandle, timer ∈ t.armedHandles -> timer.number ≤ t.issued
  waits :
    forall (timer : TimerHandle) (entry : ArmedTimer) (period : Duration),
      (timer, entry) ∈ t.armed -> entry.period = some period -> 0 < period.nanos

variable {t t' : Timers} {now : Instant} {owner : ActorId} {timer : TimerHandle}
variable {entry : ArmedTimer} {due : List (TimerHandle × ArmedTimer)}

theorem Orderly.nodup (h : t.Orderly) : t.armedHandles.Nodup := by
  refine h.ascending.imp fun hless hsame => ?_
  rw [hsame] at hless
  exact Nat.lt_irrefl _ hless

theorem orderly_empty : empty.Orderly := by
  constructor
  case ascending => exact List.Pairwise.nil
  case issued => exact nofun
  case waits => exact nofun

theorem Orderly.of_sublist (h : t.Orderly) (hissued : t'.issued = t.issued)
    (hhandles : t'.armedHandles.Sublist t.armedHandles)
    (hperiods : forall (timer : TimerHandle) (entry : ArmedTimer), (timer, entry) ∈ t'.armed ->
      exists before : ArmedTimer, (timer, before) ∈ t.armed ∧ entry.period = before.period) :
    t'.Orderly := by
  constructor
  case ascending => exact h.ascending.sublist hhandles
  case issued =>
    intro timer htimer
    rw [hissued]
    exact h.issued timer (hhandles.subset htimer)
  case waits =>
    intro timer entry period hmem hperiod
    rcases hperiods timer entry hmem with ⟨before, hbefore, hsame⟩
    exact h.waits timer before period hbefore (hsame.symm.trans hperiod)

theorem Orderly.of_armed_sublist (h : t.Orderly) (hissued : t'.issued = t.issued)
    (harmed : t'.armed.Sublist t.armed) : t'.Orderly :=
  h.of_sublist hissued (harmed.map Prod.fst) fun _ entry hmem =>
    ⟨entry, harmed.subset hmem, rfl⟩

theorem Orderly.register (h : t.Orderly) (now : Instant) (period : Duration)
    (repeating : Bool) : (t.register now period repeating).2.Orderly := by
  have hhandles : (t.register now period repeating).2.armedHandles =
      t.armedHandles ++ [{ number := t.issued + 1 }] := by
    simp [Timers.register, armedHandles]
  constructor
  case ascending =>
    rw [hhandles, List.pairwise_append]
    refine ⟨h.ascending, List.pairwise_singleton _ _, fun timer htimer last hlast => ?_⟩
    have hle := h.issued timer htimer
    rw [List.mem_singleton.mp hlast]
    exact Nat.lt_succ_of_le hle
  case issued =>
    intro timer htimer
    rw [hhandles, List.mem_append, List.mem_singleton] at htimer
    rcases htimer with hbefore | hlast
    · exact Nat.le_succ_of_le (h.issued timer hbefore)
    · rw [hlast]
      exact Nat.le_refl _
  case waits =>
    intro timer entry span hmem hspan
    rcases List.mem_append.mp hmem with hbefore | hlast
    · exact h.waits timer entry span hbefore hspan
    · rw [List.mem_singleton, Prod.mk.injEq] at hlast
      rw [hlast.right] at hspan
      have hrepeats : (repeating = true ∧ period.isZero = false) ∧ period = span := by
        simpa using hspan
      rw [<- hrepeats.right]
      simpa [Duration.isZero, Nat.pos_iff_ne_zero] using hrepeats.left.right

theorem Orderly.rearm (h : t.Orderly) (now : Instant) (timer : TimerHandle)
    (entry : ArmedTimer) : (t.rearm now timer entry).Orderly := by
  refine h.of_sublist (issued_rearm t now timer entry) ?_ fun other found => mem_rearm
  rw [armedHandles_rearm]
  split
  · exact List.filter_sublist
  · exact List.Sublist.refl _

theorem Orderly.post {f : Firing} (h : f.timers.Orderly) (now : Instant) (owner : ActorId)
    (timer : TimerHandle) (entry : ArmedTimer) :
    (f.post now owner timer entry).1.timers.Orderly := by
  have hrearmed := h.rearm now timer entry
  unfold Firing.post
  split
  · exact ⟨hrearmed.ascending, hrearmed.issued, hrearmed.waits⟩
  · exact hrearmed
  · exact hrearmed

theorem Orderly.postAll {f : Firing} (h : f.timers.Orderly) (now : Instant) (owner : ActorId)
    (due : List (TimerHandle × ArmedTimer)) :
    (Firing.postAll now owner f due).1.timers.Orderly := by
  induction due generalizing f with
  | nil => exact h
  | cons first rest ih =>
      have hfirst := h.post now owner first.1 first.2
      unfold Firing.postAll
      split
      · next hpost =>
          rw [hpost] at hfirst
          exact ih hfirst
      · next hpost =>
          rw [hpost] at hfirst
          exact hfirst

theorem Reachable.orderly (h : t.Reachable) : t.Orderly := by
  induction h with
  | empty => exact orderly_empty
  | register now period repeating _ ih => exact ih.register now period repeating
  | cancel timer _ ih => exact ih.of_armed_sublist rfl List.filter_sublist
  | cancelAll _ ih => exact ih.of_armed_sublist rfl (List.nil_sublist _)
  | acceptFire timer _ ih => exact ih.of_armed_sublist rfl (List.Sublist.refl _)
  | fireDue now owner mailbox _ ih => exact ih.postAll now owner _

/-!
## What becomes of armed timers
-/

def again? (now : Instant) (entry : ArmedTimer) : Option ArmedTimer :=
  entry.period.map fun period => { entry with deadline := now.plus period }

/-- What is left of an entry of the table after the timers with the given handles fired. -/
def leftover? (now : Instant) (fired : List TimerHandle) (e : TimerHandle × ArmedTimer) :
    Option (TimerHandle × ArmedTimer) :=
  if e.1 ∈ fired then (again? now e.2).map (Prod.mk e.1) else some e

theorem armed_rearm (now : Instant) (hnodup : t.armedHandles.Nodup)
    (harmed : (timer, entry) ∈ t.armed) :
    (t.rearm now timer entry).armed = t.armed.filterMap (leftover? now [timer]) := by
  have hown : forall e : TimerHandle × ArmedTimer, e ∈ t.armed -> e.1 = timer ->
      e.2 = entry := by
    intro e he hsame
    exact congrArg Prod.snd (List.inj_on_of_nodup_map hnodup he harmed hsame)
  unfold rearm
  split
  · next hperiod =>
      rw [disarm, <- List.filterMap_eq_filter]
      refine List.filterMap_congr fun e he => ?_
      by_cases hsame : e.1 = timer
      · simp [leftover?, again?, Option.guard, hsame, hown e he hsame, hperiod]
      · simp [leftover?, Option.guard, hsame]
  · next period hperiod =>
      rw [<- List.filterMap_eq_map]
      refine List.filterMap_congr fun e he => ?_
      by_cases hsame : e.1 = timer
      · simp [leftover?, again?, hsame, hown e he hsame, hperiod]
      · simp [leftover?, hsame]

theorem leftover?_cons {fired : List TimerHandle} (hnew : timer ∉ fired)
    (e : TimerHandle × ArmedTimer) :
    (leftover? now [timer] e).bind (leftover? now fired) = leftover? now (timer :: fired) e := by
  by_cases hsame : e.1 = timer
  · have hother : e.1 ∉ fired := hsame ▸ hnew
    cases hagain : again? now e.2 <;> simp [leftover?, hsame, hagain, hnew]
  · simp [leftover?, hsame]

namespace Firing

variable {f f' f'' : Firing}

structure Fires (now : Instant) (owner : ActorId) (due : List (TimerHandle × ArmedTimer))
    (f f' : Firing) : Prop where
  mailbox :
    f'.mailbox =
      { f.mailbox with
        queue :=
          f.mailbox.queue ++ (due.take f.mailbox.available).map fun e =>
            { message := Message.timerFired e.1, sender := some owner } }
  dropped : f'.dropped = f.dropped + (due.drop f.mailbox.available).length
  issued : f'.timers.issued = f.timers.issued
  armed : f'.timers.armed = f.timers.armed.filterMap (leftover? now (due.map Prod.fst))
  fired :
    f'.timers.fired =
      f.timers.fired ++
        ((due.take f.mailbox.available).filter fun e => e.2.period.isNone).map Prod.fst

theorem fires_nil (f : Firing) : Fires now owner [] f f := by
  constructor
  case mailbox => simp
  case dropped => simp
  case issued => rfl
  case armed =>
    have hkept : leftover? now [] = some := by
      funext e
      simp [leftover?]
    rw [List.map_nil, hkept, List.filterMap_some]
  case fired => simp

theorem available_append (m : Mailbox) (envs : List Envelope) :
    ({ m with queue := m.queue ++ envs } : Mailbox).available = m.available - envs.length := by
  simp only [Mailbox.available, List.length_append]
  omega

theorem isFull_iff {m : Mailbox} : m.isFull = true <-> m.available = 0 := by
  simp only [Mailbox.isFull, Mailbox.available, decide_eq_true_eq]
  omega

theorem fires_post (now : Instant) (owner : ActorId) (hopen : f.mailbox.closed = false)
    (hnodup : f.timers.armedHandles.Nodup) (harmed : (timer, entry) ∈ f.timers.armed) :
    exists f' : Firing, f.post now owner timer entry = (f', true) ∧
      Fires now owner [(timer, entry)] f f' := by
  have hrearmed := armed_rearm now hnodup harmed
  have hissued := issued_rearm f.timers now timer entry
  have hfired := fired_rearm f.timers now timer entry
  unfold post Mailbox.tryEnqueue
  rw [if_neg (by rw [hopen]; exact Bool.false_ne_true)]
  cases hfull : f.mailbox.isFull with
  | true =>
      have hnone := isFull_iff.mp hfull
      refine ⟨_, rfl, ?_⟩
      constructor
      case mailbox => simp [hnone]
      case dropped => simp [hnone]
      case issued => exact hissued
      case armed => exact hrearmed
      case fired => simp [hnone, hfired]
  | false =>
      have hsome : 0 < f.mailbox.available := by
        rw [Nat.pos_iff_ne_zero]
        intro hnone
        rw [isFull_iff.mpr hnone] at hfull
        cases hfull
      have htake : [(timer, entry)].take f.mailbox.available = [(timer, entry)] :=
        List.take_of_length_le hsome
      have hdrop : [(timer, entry)].drop f.mailbox.available = [] :=
        List.drop_eq_nil_of_le hsome
      refine ⟨_, rfl, ?_⟩
      constructor
      case mailbox => simp [htake, Envelope.sentBy]
      case dropped => simp [hdrop]
      case issued => exact hissued
      case armed => exact hrearmed
      case fired => cases hperiod : entry.period <;> simp [htake, hfired, hperiod]

theorem Fires.cons {first : TimerHandle × ArmedTimer} (hfirst : Fires now owner [first] f f')
    (hrest : Fires now owner due f' f'') (hnew : first.1 ∉ due.map Prod.fst) :
    Fires now owner (first :: due) f f'' := by
  have havailable : f'.mailbox.available = f.mailbox.available - 1 := by
    rw [hfirst.mailbox, available_append, List.length_map, List.length_take,
      List.length_singleton]
    omega
  have htake : (first :: due).take f.mailbox.available =
      [first].take f.mailbox.available ++ due.take f'.mailbox.available := by
    rw [havailable, <- List.singleton_append, List.take_append, List.length_singleton]
  have hdrop : (first :: due).drop f.mailbox.available =
      [first].drop f.mailbox.available ++ due.drop f'.mailbox.available := by
    rw [havailable, <- List.singleton_append, List.drop_append, List.length_singleton]
  constructor
  case mailbox =>
    rw [htake, hrest.mailbox]
    generalize due.take f'.mailbox.available = queued
    simp [hfirst.mailbox]
  case dropped =>
    rw [hdrop, List.length_append, hrest.dropped, hfirst.dropped, Nat.add_assoc]
  case issued => exact hrest.issued.trans hfirst.issued
  case armed =>
    rw [hrest.armed, hfirst.armed, List.filterMap_filterMap]
    exact List.filterMap_congr fun e _ => leftover?_cons hnew e
  case fired =>
    rw [htake, hrest.fired, hfirst.fired, List.filter_append, List.map_append,
      List.append_assoc]

theorem fires_postAll (hopen : f.mailbox.closed = false) (horderly : f.timers.Orderly)
    (hdue : due ⊆ f.timers.armed) (hnodup : (due.map Prod.fst).Nodup) :
    exists f' : Firing, postAll now owner f due = (f', true) ∧ Fires now owner due f f' := by
  induction due generalizing f with
  | nil => exact ⟨f, rfl, fires_nil f⟩
  | cons first rest ih =>
      rcases List.cons_subset.mp hdue with ⟨harmed, hrest⟩
      rcases List.nodup_cons.mp hnodup with ⟨hnew, hnodup⟩
      rcases fires_post now owner hopen horderly.nodup harmed with
        ⟨f', hpost, hfirst⟩
      have hopen' : f'.mailbox.closed = false := by
        rw [hfirst.mailbox]
        exact hopen
      have horderly' : f'.timers.Orderly := by
        have hkept := horderly.post now owner first.1 first.2
        rw [hpost] at hkept
        exact hkept
      have hrest' : rest ⊆ f'.timers.armed := by
        intro e he
        rw [hfirst.armed]
        refine List.mem_filterMap.mpr ⟨e, hrest he, if_neg ?_⟩
        rw [List.map_singleton, List.mem_singleton]
        intro hsame
        exact hnew (hsame ▸ List.mem_map_of_mem he)
      rcases ih hopen' horderly' hrest' hnodup with ⟨f'', hpostAll, hlater⟩
      refine ⟨f'', ?_, hfirst.cons hlater hnew⟩
      unfold postAll
      rw [hpost]
      exact hpostAll

end Firing

/-!
## All timers that are due
-/

theorem Orderly.armed?_eq_some_iff (h : t.Orderly) :
    t.armed? timer = some entry <-> (timer, entry) ∈ t.armed := by
  have hfound : forall found : ArmedTimer, t.armed? timer = some found ->
      (timer, found) ∈ t.armed := by
    intro found hfound
    rcases List.lookup_eq_some_iff.mp hfound with ⟨before, after, harmed, -⟩
    rw [harmed]
    exact List.mem_append_right _ List.mem_cons_self
  refine ⟨hfound entry, fun hmem => ?_⟩
  have hactive : t.isActive timer = true := isActive_iff.mpr (List.mem_map_of_mem hmem)
  rcases Option.isSome_iff_exists.mp hactive with ⟨found, hsome⟩
  rw [hsome]
  have hsame := List.inj_on_of_nodup_map h.nodup (hfound found hsome) hmem rfl
  rw [(Prod.mk.inj hsame).right]

theorem mem_due : (timer, entry) ∈ t.due now <->
    (timer, entry) ∈ t.armed ∧ entry.deadline.nanos ≤ now.nanos := by
  simp [due, Duration.atMost]

theorem due_sublist (t : Timers) (now : Instant) : (t.due now).Sublist t.armed :=
  List.filter_sublist

theorem mem_leftovers {armed : List (TimerHandle × ArmedTimer)} {fired : List TimerHandle} :
    (timer, entry) ∈ armed.filterMap (leftover? now fired) <->
      exists before : ArmedTimer, (timer, before) ∈ armed ∧
        (timer ∈ fired ∧ again? now before = some entry ∨ timer ∉ fired ∧ before = entry) := by
  rw [List.mem_filterMap]
  constructor
  · intro hleft
    rcases hleft with ⟨e, he, hleft⟩
    unfold leftover? at hleft
    split at hleft
    · next hfired =>
        rcases Option.map_eq_some_iff.mp hleft with ⟨again, hagain, hsame⟩
        rcases Prod.mk.inj hsame with ⟨htimer, hentry⟩
        rw [htimer] at hfired
        rw [hentry] at hagain
        exact ⟨e.2, htimer ▸ he, Or.inl ⟨hfired, hagain⟩⟩
    · next hfired =>
        have hsame : e = (timer, entry) := Option.some.inj hleft
        rw [hsame] at he hfired
        exact ⟨entry, he, Or.inr ⟨hfired, rfl⟩⟩
  · intro hleft
    rcases hleft with ⟨before, hbefore, hcase⟩
    refine ⟨(timer, before), hbefore, ?_⟩
    unfold leftover?
    rcases hcase with ⟨hfired, hagain⟩ | ⟨hfired, hsame⟩
    · rw [if_pos hfired, hagain]
      rfl
    · rw [if_neg hfired, hsame]

theorem Orderly.later_of_leftover (h : t.Orderly)
    (hleft : (timer, entry) ∈ t.armed.filterMap (leftover? now ((t.due now).map Prod.fst))) :
    now.nanos < entry.deadline.nanos := by
  rcases mem_leftovers.mp hleft with ⟨before, hbefore, ⟨-, hagain⟩ | ⟨hfired, hsame⟩⟩
  · rcases Option.map_eq_some_iff.mp hagain with ⟨period, hperiod, hentry⟩
    have hpositive := h.waits timer before period hbefore hperiod
    rw [<- hentry]
    exact Nat.lt_add_of_pos_right hpositive
  · rw [<- hsame]
    refine Nat.lt_of_not_le fun hdue => hfired ?_
    exact List.mem_map_of_mem (f := Prod.fst) (mem_due.mpr ⟨hbefore, hdue⟩)

/-- What the firing of the timers that are due comes to while the mailbox is open. -/
structure Expires (t : Timers) (now : Instant) (owner : ActorId) (m : Mailbox) : Prop where
  /-- The timers that are treated. -/
  due :
    forall (timer : TimerHandle) (entry : ArmedTimer),
      (timer, entry) ∈ t.due now <->
        t.armed? timer = some entry ∧ entry.deadline.nanos ≤ now.nanos
  ascending : (t.due now).Pairwise fun e later => e.1.number < later.1.number
  goesOn : (t.fireDue now owner m).2 = true
  /-- Fires are queued in order as long as there are free slots. -/
  queued :
    (t.fireDue now owner m).1.mailbox =
      { m with
        queue :=
          m.queue ++ ((t.due now).take m.available).map fun e =>
            { message := Message.timerFired e.1, sender := some owner } }
  dropped : (t.fireDue now owner m).1.dropped = ((t.due now).drop m.available).length
  once :
    forall (timer : TimerHandle) (entry : ArmedTimer), (timer, entry) ∈ t.due now ->
      entry.period = none -> (t.fireDue now owner m).1.timers.armed? timer = none
  again :
    forall (timer : TimerHandle) (entry : ArmedTimer) (period : Duration),
      (timer, entry) ∈ t.due now -> entry.period = some period ->
        (t.fireDue now owner m).1.timers.armed? timer =
          some { deadline := now.plus period, period := some period }
  untreated :
    forall timer : TimerHandle, timer ∉ (t.due now).map Prod.fst ->
      (t.fireDue now owner m).1.timers.armed? timer = t.armed? timer
  issued : (t.fireDue now owner m).1.timers.issued = t.issued
  /-- A timer that fires once and is queued can still be cancelled. -/
  fired :
    (t.fireDue now owner m).1.timers.fired =
      t.fired ++ (((t.due now).take m.available).filter fun e => e.2.period.isNone).map Prod.fst
  later :
    forall (timer : TimerHandle) (entry : ArmedTimer),
      (t.fireDue now owner m).1.timers.armed? timer = some entry ->
        now.nanos < entry.deadline.nanos
  /-- Whoever waits for the next deadline waits for a later moment. -/
  waits :
    forall deadline : Instant, (t.fireDue now owner m).1.timers.nextDeadline? = some deadline ->
      now.nanos < deadline.nanos
  /-- An actor counts its dropped fires, and none of its timers is due any more. -/
  counted :
    forall {α : Type} (a : Actor α), a.timers = t -> a.mailbox = m -> a.ref.id = owner ->
      a.timersRun = true ->
        (a.fireTimers now).stats =
            { a.stats with
              firesDropped := a.stats.firesDropped + ((t.due now).drop m.available).length } ∧
          (a.fireTimers now).timersDue now = false

theorem Reachable.fires (h : t.Reachable) (now : Instant) (owner : ActorId) {m : Mailbox}
    (hopen : m.closed = false) :
    exists f' : Firing, t.fireDue now owner m = (f', true) ∧
      Firing.Fires now owner (t.due now) { timers := t, mailbox := m, dropped := 0 } f' := by
  have hsublist := t.due_sublist now
  exact Firing.fires_postAll hopen h.orderly hsublist.subset
    (h.orderly.nodup.sublist (hsublist.map Prod.fst))

section Fires

variable {f f' : Firing}

theorem Firing.Fires.armed?_of_due (h : Firing.Fires now owner due f f')
    (horderly : f.timers.Orderly) (horderly' : f'.timers.Orderly) (hdue : (timer, entry) ∈ due)
    (harmed : (timer, entry) ∈ f.timers.armed) :
    f'.timers.armed? timer = again? now entry := by
  have hfired : timer ∈ due.map Prod.fst := List.mem_map_of_mem hdue
  refine Option.ext fun found => ?_
  rw [horderly'.armed?_eq_some_iff, h.armed, mem_leftovers]
  constructor
  · intro hfound
    rcases hfound with ⟨before, hbefore, ⟨-, hagain⟩ | ⟨hunfired, -⟩⟩
    · have hsame := List.inj_on_of_nodup_map horderly.nodup hbefore harmed rfl
      rw [<- (Prod.mk.inj hsame).right]
      exact hagain
    · exact absurd hfired hunfired
  · intro hagain
    exact ⟨entry, harmed, Or.inl ⟨hfired, hagain⟩⟩

theorem Firing.Fires.armed?_of_not_due (h : Firing.Fires now owner due f f')
    (horderly : f.timers.Orderly) (horderly' : f'.timers.Orderly)
    (hunfired : timer ∉ due.map Prod.fst) : f'.timers.armed? timer = f.timers.armed? timer := by
  refine Option.ext fun found => ?_
  rw [horderly'.armed?_eq_some_iff, horderly.armed?_eq_some_iff, h.armed, mem_leftovers]
  constructor
  · intro hfound
    rcases hfound with ⟨before, hbefore, ⟨hfired, -⟩ | ⟨-, hsame⟩⟩
    · exact absurd hfired hunfired
    · rw [<- hsame]
      exact hbefore
  · intro hfound
    exact ⟨found, hfound, Or.inr ⟨hunfired, rfl⟩⟩

end Fires

/-!
## Later deadlines
-/

def AllLater (t : Timers) (now : Instant) : Prop :=
  forall (timer : TimerHandle) (entry : ArmedTimer),
    (timer, entry) ∈ t.armed -> now.nanos < entry.deadline.nanos

theorem Firing.Fires.allLater {f f' : Firing} (h : Firing.Fires now owner (t.due now) f f')
    (htimers : f.timers = t) (horderly : t.Orderly) : f'.timers.AllLater now := by
  intro timer entry hmem
  rw [h.armed, htimers] at hmem
  exact horderly.later_of_leftover hmem

theorem AllLater.due_eq_nil (h : t.AllLater now) : t.due now = [] := by
  refine List.eq_nil_iff_forall_not_mem.mpr fun e he => ?_
  rcases mem_due.mp he with ⟨harmed, hdue⟩
  exact Nat.not_lt_of_le hdue (h e.1 e.2 harmed)

theorem AllLater.nextDeadline? (h : t.AllLater now) {deadline : Instant}
    (hnext : t.nextDeadline? = some deadline) : now.nanos < deadline.nanos := by
  rcases Option.map_eq_some_iff.mp hnext with ⟨nanos, hmin, hnanos⟩
  rcases List.mem_map.mp (List.min?_mem hmin) with ⟨e, he, hsame⟩
  rw [<- hnanos, <- hsame]
  exact h e.1 e.2 he

theorem fireTimers_eq {α : Type} {a : Actor α} {f : Firing} {goesOn : Bool}
    (hrun : a.timersRun = true)
    (hfire : a.timers.fireDue now a.ref.id a.mailbox = (f, goesOn)) :
    a.fireTimers now =
      { a with
        timers := f.timers
        mailbox := f.mailbox
        stats := { a.stats with firesDropped := a.stats.firesDropped + f.dropped } } := by
  unfold Actor.fireTimers
  rw [if_pos hrun, hfire]

/-- All timers that are due fire, in order, and none of them is due after that. -/
theorem due_timers_fire (h : t.Reachable) (now : Instant) (owner : ActorId) {m : Mailbox}
    (hopen : m.closed = false) : t.Expires now owner m := by
  have horderly := h.orderly
  have hsublist := t.due_sublist now
  rcases h.fires now owner hopen with ⟨f', hfire, hfires⟩
  have horderly' : f'.timers.Orderly := by
    have hreached := (Reachable.fireDue now owner m h).orderly
    rw [hfire] at hreached
    exact hreached
  have hlater := hfires.allLater rfl horderly
  constructor
  case due =>
    intro timer entry
    rw [mem_due, horderly.armed?_eq_some_iff]
  case ascending =>
    have hascending := List.pairwise_map.mp horderly.ascending
    exact hascending.sublist hsublist
  case goesOn => rw [hfire]
  case queued => rw [hfire, hfires.mailbox]
  case dropped =>
    rw [hfire, hfires.dropped]
    exact Nat.zero_add _
  case once =>
    intro timer entry hdue honce
    rw [hfire, hfires.armed?_of_due horderly horderly' hdue (hsublist.subset hdue), again?, honce]
    rfl
  case again =>
    intro timer entry period hdue hperiod
    rw [hfire, hfires.armed?_of_due horderly horderly' hdue (hsublist.subset hdue), again?,
      hperiod]
    rfl
  case untreated =>
    intro timer huntreated
    rw [hfire]
    exact hfires.armed?_of_not_due horderly horderly' huntreated
  case issued => rw [hfire, hfires.issued]
  case fired => rw [hfire, hfires.fired]
  case later =>
    intro timer entry hfound
    rw [hfire] at hfound
    exact hlater timer entry (horderly'.armed?_eq_some_iff.mp hfound)
  case waits =>
    intro deadline hnext
    rw [hfire] at hnext
    exact hlater.nextDeadline? hnext
  case counted =>
    intro α a htimers hmailbox howner hrun
    rw [<- htimers, <- hmailbox, <- howner] at hfire
    rw [fireTimers_eq hrun hfire, hfires.dropped]
    constructor
    · simp only [Nat.zero_add]
    · simp [Actor.timersDue, hlater.due_eq_nil]

/-- Of three timers the first two are due; one slot is free, so the fire of the second is
dropped, and as it repeats it is armed again. -/
theorem due_timers_fire_full :
    let first := empty.oneShot ⟨0⟩ ⟨5⟩
    let second := first.2.repeating ⟨0⟩ ⟨3⟩
    let third := second.2.oneShot ⟨0⟩ ⟨100⟩
    let t := third.2
    let owner := ActorId.ofNat 1
    let m := Mailbox.create 1
    t.Reachable ∧ m.closed = false ∧ t.Expires ⟨5⟩ owner m ∧
      (t.fireDue ⟨5⟩ owner m).1.mailbox.queue =
        [{ message := Message.timerFired first.1, sender := some owner }] ∧
      (t.fireDue ⟨5⟩ owner m).1.dropped = 1 ∧
      (t.fireDue ⟨5⟩ owner m).1.timers.armed? second.1 =
        some { deadline := ⟨8⟩, period := some ⟨3⟩ } := by
  intro first second third t owner m
  have hreachable : t.Reachable :=
    ((Reachable.empty.register ⟨0⟩ ⟨5⟩ false).register ⟨0⟩ ⟨3⟩ true).register ⟨0⟩ ⟨100⟩ false
  have hopen : m.closed = false := rfl
  have hexpires := due_timers_fire hreachable ⟨5⟩ owner hopen
  refine ⟨hreachable, hopen, hexpires, ?_, hexpires.dropped, ?_⟩
  · rw [hexpires.queued]
    rfl
  · exact hexpires.again second.1 ⟨⟨3⟩, some ⟨3⟩⟩ ⟨3⟩ (by decide) rfl

end Timers
end Troupe
