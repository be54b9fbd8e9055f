import Troupe.Proofs.Actor.Declarations
import Troupe.Proofs.Actor.Steps
import Troupe.System.Outside

/-!
# What goes on in a system

Whatever its performers do, a system goes on with the same actors, each of them takes
the steps of a run and no others until it is gone, and the bridge's table of bindings
only grows.
-/

namespace Troupe

namespace Actor

variable {α : Type}

theorem Step.ref {a b : Actor α} {event? : Option (Event α)} (h : Step a event? b) :
    b.ref = a.ref := by
  cases h.shape with
  | quiet hquiet => cases hquiet <;> rfl
  | move _ hmove =>
      cases hmove with
      | duty _ hcarried =>
          cases hcarried with
          | handle hopen => cases hopen <;> rfl
          | _ => rfl
      | look => rfl
      | leave => rfl
  | conclusion _ hconclusion => cases hconclusion <;> rfl

theorem Run.ref {a b : Actor α} {trace : List (Event α)} (h : Run a trace b) :
    b.ref = a.ref := by
  induction h with
  | refl => rfl
  | snoc _ hstep ih => exact hstep.ref.trans ih

def Leads (a b : Actor α) : Prop :=
  exists trace : List (Event α), Run a trace b

theorem Leads.refl (a : Actor α) : a.Leads a :=
  ⟨[], Run.refl⟩

theorem Leads.trans {a b c : Actor α} (h : a.Leads b) (h' : b.Leads c) : a.Leads c := by
  rcases h with ⟨before, hbefore⟩
  rcases h' with ⟨after, hafter⟩
  exact ⟨_, hbefore.trans hafter⟩

theorem Leads.ref {a b : Actor α} (h : a.Leads b) : b.ref = a.ref := by
  rcases h with ⟨trace, hrun⟩
  exact hrun.ref

theorem Step.leads {a b : Actor α} {event? : Option (Event α)} (h : Step a event? b) :
    a.Leads b :=
  ⟨_, Run.step h⟩

/-- A run in which no hook begins or ends. -/
structure Stays (a b : Actor α) : Prop where
  leads : a.Leads b
  hook : b.hook = a.hook

theorem Stays.refl (a : Actor α) : a.Stays a :=
  ⟨Leads.refl a, rfl⟩

theorem Disturbance.stays {a b : Actor α} {event? : Option (Event α)}
    (h : Disturbance a event? b) : a.Stays b := by
  refine ⟨(Step.disturbed h).leads, ?_⟩
  cases h.quiet <;> rfl

theorem stays_fireTimers (a : Actor α) (now : Instant) : a.Stays (a.fireTimers now) := by
  refine ⟨run_fireTimers a now, ?_⟩
  unfold fireTimers
  split <;> rfl

theorem stays_work {a : Actor α} (hhook : a.hook.isSome = true) (timers : Timers)
    (props : Props) : a.Stays { a with timers := timers, props := props } := by
  rcases Option.isSome_iff_exists.mp hhook with ⟨hook, hhook⟩
  exact (Disturbance.work timers props hhook).stays

theorem declare_eq (a : Actor α) (bridge : Bridge) (info : PropertyInfo) (initial : Handle) :
    exists props : Props, (a.declare bridge info initial).2.1 = { a with props := props } := by
  have hdeclares := a.declares bridge info initial
  generalize a.declare bridge info initial = outcome at hdeclares
  cases hdeclares with
  | refused => exact ⟨a.props, rfl⟩
  | unbound => exact ⟨a.props, rfl⟩
  | unplaced => exact ⟨_, rfl⟩
  | declared => exact ⟨_, rfl⟩

theorem leads_conclude (a : Actor α) (bridge : Bridge) (result : Except ActorError Unit) :
    a.Leads (a.conclude bridge result).1 := by
  cases hhook : a.hook with
  | none =>
      have hsame : (a.conclude bridge result).1 = a := by simp [conclude, hhook]
      rw [hsame]
      exact Leads.refl a
  | some hook => exact (Step.concluded bridge result hhook).leads

/-- The actor has come to where it is by a run from its creation. -/
def Lived (a : Actor α) : Prop :=
  exists (ref : ActorRef) (device : String) (handlers : Handlers α) (capacity : Nat),
    (create ref device handlers capacity).Leads a

theorem Lived.leads {a b : Actor α} (h : a.Lived) (hleads : a.Leads b) : b.Lived := by
  rcases h with ⟨ref, device, handlers, capacity, hbefore⟩
  exact ⟨ref, device, handlers, capacity, hbefore.trans hleads⟩

end Actor

/-!
## The bridge
-/

namespace Bridge

/-- The bridge goes on in use: bindings are added to an open table only. -/
structure Grows (b b' : Bridge) : Prop where
  bindings : b.bindings <+: b'.bindings
  isSealed : b'.isSealed = b.isSealed
  frozen : b.isSealed = true -> b'.bindings = b.bindings

theorem grows_of_bindings {b b' : Bridge} (hbindings : b'.bindings = b.bindings)
    (hsealed : b'.isSealed = b.isSealed) : Grows b b' :=
  ⟨hbindings ▸ List.prefix_rfl, hsealed, fun _ => hbindings⟩

theorem Grows.refl (b : Bridge) : Grows b b :=
  grows_of_bindings rfl rfl

theorem Grows.trans {b b' b'' : Bridge} (h : Grows b b') (h' : Grows b' b'') : Grows b b'' := by
  refine ⟨h.bindings.trans h'.bindings, h'.isSealed.trans h.isSealed, fun hsealed => ?_⟩
  exact (h'.frozen (h.isSealed.trans hsealed)).trans (h.frozen hsealed)

theorem grows_bind {b b' : Bridge} {pattern : String} {target : ActorRef} {reading : Reading}
    (h : b.bind pattern target reading = .ok b') : Grows b b' := by
  unfold bind at h
  split at h
  · cases h
  · split at h
    · cases h
    · next hopen =>
        cases h
        exact ⟨List.prefix_append _ _, rfl, fun hsealed => absurd hsealed hopen⟩

theorem grows_publishTree {b b' : Bridge} {topic : String} {t : Tree}
    (h : b.publishTree topic t = .ok b') : Grows b b' := by
  unfold publishTree at h
  split at h
  · cases h
  · split at h
    · cases h
    · cases h
      exact grows_of_bindings rfl rfl

end Bridge

namespace Actor

variable {α : Type}

theorem grows_subscribe {a : Actor α} {bridge bridge' : Bridge} {pattern : String}
    {reading : Reading} (h : a.subscribe bridge pattern reading = .ok bridge') :
    bridge.Grows bridge' := by
  unfold subscribe at h
  split at h
  · exact Bridge.grows_bind h
  · cases h

theorem grows_declare (a : Actor α) (bridge : Bridge) (info : PropertyInfo) (initial : Handle) :
    bridge.Grows (a.declare bridge info initial).2.2 := by
  have hbound : forall bridge' : Bridge, a.bindWrites bridge info = .ok bridge' ->
      bridge.Grows bridge' := by
    intro bridge' h
    unfold bindWrites at h
    split at h
    · exact Bridge.grows_bind h
    · cases h
      exact Bridge.Grows.refl bridge
  have hdeclares := a.declares bridge info initial
  generalize a.declare bridge info initial = outcome at hdeclares
  cases hdeclares with
  | refused => exact Bridge.Grows.refl bridge
  | unbound => exact Bridge.Grows.refl bridge
  | unplaced _ hbind => exact hbound _ hbind
  | declared _ hbind => exact hbound _ hbind

theorem grows_conclude (a : Actor α) (bridge : Bridge) (result : Except ActorError Unit) :
    bridge.Grows (a.conclude bridge result).2 := by
  unfold conclude
  simp only
  split
  case h_6 =>
    split
    · next hpublished => exact Bridge.grows_publishTree hpublished
    · exact Bridge.Grows.refl bridge
  all_goals exact Bridge.Grows.refl bridge

end Actor

/-!
## Performers
-/

theorem Performer.isGone_eq_false_iff {σ α : Type} {p : Performer σ α} :
    p.isGone = false <-> p.activity ≠ Activity.gone := by
  unfold isGone
  split <;> simp_all

def Performer.isActing {σ α : Type} (p : Performer σ α) : Bool :=
  !p.isGone && p.actor.hook.isSome

theorem Performer.isActing_iff {σ α : Type} {p : Performer σ α} :
    p.isActing = true <-> p.isGone = false ∧ p.actor.hook.isSome = true := by
  simp [isActing]

/-- The performer's actor has lived, and the performer's program is in the middle of a hook
only if its actor is. -/
structure Performer.Lives {σ α : Type} (p : Performer σ α) : Prop where
  lived : p.actor.Lived
  acting : p.activity = Activity.free ∨ p.isActing = true

/-- A performer goes on with its actor. -/
structure Performer.Leads {σ α : Type} (p q : Performer σ α) : Prop where
  actor : p.actor.Leads q.actor
  isGone : q.isGone = p.isGone

theorem Performer.Leads.refl {σ α : Type} (p : Performer σ α) : p.Leads p :=
  ⟨Actor.Leads.refl p.actor, rfl⟩

theorem Performer.Leads.trans {σ α : Type} {p q r : Performer σ α} (h : p.Leads q)
    (h' : q.Leads r) : p.Leads r :=
  ⟨h.actor.trans h'.actor, h'.isGone.trans h.isGone⟩

namespace System

variable {σ α : Type} {s s' s'' : System σ α} {i j : Nat} {p : Performer σ α}

def Lively (s : System σ α) : Prop :=
  forall (i : Nat) (p : Performer σ α), s.performers[i]? = some p -> p.isGone = false -> p.Lives

def Amid (i : Nat) (s : System σ α) : Prop :=
  forall p : Performer σ α, s.performers[i]? = some p -> p.isActing = true

/-- The system goes on with the actors that it has. -/
structure Continues (s s' : System σ α) : Prop where
  length : s'.performers.length = s.performers.length
  performers :
    forall (i : Nat) (p q : Performer σ α), s.performers[i]? = some p ->
      s'.performers[i]? = some q -> p.Leads q
  lively : s.Lively -> s'.Lively
  registry : s'.registry = s.registry
  config : s'.config = s.config
  bridge : s.bridge.Grows s'.bridge

/-- The system goes on with no hook begun or ended. -/
structure Keeps (s s' : System σ α) : Prop extends Continues s s' where
  amid : forall i : Nat, s.Amid i -> s'.Amid i

theorem Amid.isGone (h : s.Amid i) (hp : s.performers[i]? = some p) : p.isGone = false :=
  (Performer.isActing_iff.mp (h p hp)).left

theorem Amid.hook (h : s.Amid i) (hp : s.performers[i]? = some p) :
    p.actor.hook.isSome = true :=
  (Performer.isActing_iff.mp (h p hp)).right

theorem Continues.performer (h : Continues s s') (hp : s.performers[i]? = some p) :
    exists q : Performer σ α, s'.performers[i]? = some q ∧ p.Leads q := by
  have hbound : i < s'.performers.length := by
    rw [h.length]
    exact (List.getElem?_eq_some_iff.mp hp).choose
  have hq := List.getElem?_eq_getElem hbound
  exact ⟨_, hq, h.performers i p _ hp hq⟩

theorem Continues.trans (h : Continues s s') (h' : Continues s' s'') : Continues s s'' := by
  constructor
  case length => exact h'.length.trans h.length
  case performers =>
    intro i p r hp hr
    rcases h.performer hp with ⟨q, hq, hbefore⟩
    exact hbefore.trans (h'.performers i q r hq hr)
  case lively => exact h'.lively ∘ h.lively
  case registry => exact h'.registry.trans h.registry
  case config => exact h'.config.trans h.config
  case bridge => exact h.bridge.trans h'.bridge

theorem Keeps.trans (h : Keeps s s') (h' : Keeps s' s'') : Keeps s s'' :=
  ⟨h.toContinues.trans h'.toContinues, fun i => h'.amid i ∘ h.amid i⟩

theorem keeps_of_performers (hperformers : s'.performers = s.performers)
    (hregistry : s'.registry = s.registry) (hconfig : s'.config = s.config)
    (hbridge : s.bridge.Grows s'.bridge) : Keeps s s' := by
  have hsame : forall (i : Nat) (p q : Performer σ α), s.performers[i]? = some p ->
      s'.performers[i]? = some q -> p.Leads q := by
    intro i p q hp hq
    rw [hperformers] at hq
    obtain rfl : p = q := Option.some.inj (hp.symm.trans hq)
    exact Performer.Leads.refl p
  refine ⟨⟨by rw [hperformers], hsame, ?_, hregistry, hconfig, hbridge⟩, ?_⟩
  · exact fun hlively i p hp => hlively i p (hperformers ▸ hp)
  · exact fun i hamid p hp => hamid p (hperformers ▸ hp)

theorem Keeps.refl (s : System σ α) : Keeps s s :=
  keeps_of_performers rfl rfl rfl (Bridge.Grows.refl s.bridge)

theorem keeps_bridge (s : System σ α) (bridge : Bridge) (h : s.bridge.Grows bridge) :
    Keeps s { s with bridge := bridge } :=
  keeps_of_performers rfl rfl rfl h

/-!
## Changes to performers
-/

theorem modify_cases {f : Performer σ α -> Performer σ α} {q : Performer σ α}
    (h : (s.modify j f).performers[i]? = some q) :
    (j = i ∧ exists p : Performer σ α, s.performers[i]? = some p ∧ q = f p) ∨
      j ≠ i ∧ s.performers[i]? = some q := by
  change (s.performers.modify j f)[i]? = some q at h
  rw [List.getElem?_modify] at h
  rcases Option.map_eq_some_iff.mp h with ⟨p, hp, rfl⟩
  by_cases hji : j = i
  · exact Or.inl ⟨hji, p, hp, if_pos hji⟩
  · rw [if_neg hji]
    exact Or.inr ⟨hji, hp⟩

/-- A change lets a performer live on: it goes on with its actor, and its program is not
left behind by a hook that has ended. -/
structure LivesOn (p q : Performer σ α) : Prop where
  leads : p.Leads q
  acting : (p.activity = Activity.free ∨ p.isActing = true) ->
    q.activity = Activity.free ∨ q.isActing = true

theorem LivesOn.lives {q : Performer σ α} (h : LivesOn p q) (hthere : q.isGone = false)
    (hlives : p.isGone = false -> p.Lives) : q.Lives := by
  have hp := hlives (h.leads.isGone.symm.trans hthere)
  exact ⟨hp.lived.leads h.leads.actor, h.acting hp.acting⟩

theorem livesOn_of_stays {q : Performer σ α} (hstays : p.actor.Stays q.actor)
    (hactivity : q.activity = p.activity) : LivesOn p q := by
  have hgone : q.isGone = p.isGone := by
    unfold Performer.isGone
    rw [hactivity]
  have hacting : q.isActing = p.isActing := by
    unfold Performer.isActing
    rw [hgone, hstays.hook]
  constructor
  case leads => exact ⟨hstays.leads, hgone⟩
  case acting =>
    intro hp
    rw [hactivity, hacting]
    exact hp

theorem continues_modify {f : Performer σ α -> Performer σ α}
    (h : forall p : Performer σ α, s.performers[j]? = some p -> LivesOn p (f p)) :
    Continues s (s.modify j f) := by
  constructor
  case length => exact List.length_modify ..
  case performers =>
    intro i p q hp hq
    rcases modify_cases hq with ⟨rfl, p', hp', rfl⟩ | ⟨-, hq⟩
    · obtain rfl : p = p' := Option.some.inj (hp.symm.trans hp')
      exact (h p hp).leads
    · obtain rfl : p = q := Option.some.inj (hp.symm.trans hq)
      exact Performer.Leads.refl p
  case lively =>
    intro hlively i q hq hthere
    rcases modify_cases hq with ⟨rfl, p, hp, rfl⟩ | ⟨-, hq⟩
    · exact (h p hp).lives hthere (hlively j p hp)
    · exact hlively i q hq hthere
  case registry => rfl
  case config => rfl
  case bridge => exact Bridge.Grows.refl s.bridge

theorem keeps_modifyActor {f : Actor α -> Actor α}
    (hf : forall p : Performer σ α, s.performers[j]? = some p -> p.actor.Stays (f p.actor)) :
    Keeps s (s.modifyActor j f) := by
  refine ⟨continues_modify fun p hp => livesOn_of_stays (hf p hp) rfl, ?_⟩
  intro i hamid q hq
  rcases modify_cases hq with ⟨rfl, p, hp, rfl⟩ | ⟨-, hq⟩
  · have hacting := hamid p hp
    unfold Performer.isActing at hacting
    rw [<- (hf p hp).hook] at hacting
    exact hacting
  · exact hamid q hq

theorem continues_map {f : Performer σ α -> Performer σ α}
    (h : forall p : Performer σ α, LivesOn p (f p)) :
    Continues s { s with performers := s.performers.map f } := by
  constructor
  case length => exact List.length_map ..
  case performers =>
    intro i p q hp hq
    rw [List.getElem?_map, hp] at hq
    obtain rfl : f p = q := Option.some.inj hq
    exact (h p).leads
  case lively =>
    intro hlively i q hq hthere
    rw [List.getElem?_map] at hq
    rcases Option.map_eq_some_iff.mp hq with ⟨p, hp, rfl⟩
    exact (h p).lives hthere (hlively i p hp)
  case registry => rfl
  case config => rfl
  case bridge => exact Bridge.Grows.refl s.bridge

/-!
## Answers
-/

theorem position?_of_performer? {target : ActorRef} (h : s.performer? target = some p) :
    exists i : Nat,
      s.position? target = some i ∧ s.performers[i]? = some p ∧
        p.actor.ref.id = target.id := by
  unfold performer? at h
  have hid : p.actor.ref.id = target.id := by simpa using List.find?_some h
  rw [List.find?_eq_bind_findIdx?_getElem?] at h
  rcases Option.bind_eq_some_iff.mp h with ⟨i, hposition, hp⟩
  exact ⟨i, hposition, hp, hid⟩

theorem position?_of_actor? {target : ActorRef} {actor : Actor α}
    (h : s.actor? target = some actor) :
    exists (i : Nat) (p : Performer σ α),
      s.position? target = some i ∧ s.performers[i]? = some p ∧ p.actor = actor ∧
        actor.ref.id = target.id := by
  rcases Option.map_eq_some_iff.mp h with ⟨p, hfound, rfl⟩
  rcases position?_of_performer? hfound with ⟨i, hposition, hp, hid⟩
  exact ⟨i, p, hposition, hp, rfl, hid⟩

theorem keeps_post (s : System σ α) (target : ActorRef) (env : Envelope) :
    Keeps s (s.post target env).2 := by
  unfold post
  split
  · exact Keeps.refl s
  · next actor hactor =>
      rcases position?_of_actor? hactor with ⟨j, p, hposition, hp, rfl, -⟩
      split
      · exact Keeps.refl s
      · next actor' haccept =>
          simp only [hposition]
          refine keeps_modifyActor fun q hq => ?_
          obtain rfl : p = q := Option.some.inj (hp.symm.trans hq)
          exact (Actor.Disturbance.accept haccept).stays

theorem keeps_react (event : Message) (reaction : Reaction) (s : System σ α) :
    Keeps s (react event reaction s).2 := by
  cases reaction with
  | forward target => exact keeps_post s target _
  | note label failure => cases failure <;>
        exact keeps_of_performers rfl rfl rfl (Bridge.Grows.refl s.bridge)

theorem keeps_runAll (event : Message) (listeners : List (Listener Reaction)) (s : System σ α) :
    Keeps s (Events.runAll (react event) event.type listeners s).2 := by
  induction listeners generalizing s with
  | nil => exact Keeps.refl s
  | cons l rest ih =>
      unfold Events.runAll
      split
      · have hfirst := keeps_react event l.action s
        rcases hreact : react event l.action s with ⟨error | _, s'⟩
        · rw [hreact] at hfirst
          exact hfirst.trans (ih s')
        · rw [hreact] at hfirst
          exact hfirst.trans (ih s')
      · exact ih s

theorem keeps_raise (s : System σ α) (source : ActorId) (event : Message) :
    Keeps s (s.raise source event).2 := by
  have hall := keeps_runAll event (s.events.filed source event.type.id) s
  unfold raise Events.raise
  rcases hrun : Events.runAll (react event) event.type
    (s.events.filed source event.type.id) s with ⟨_ | error, s'⟩
  · rw [hrun] at hall
    simpa only [hrun] using hall
  · rw [hrun] at hall
    simpa only [hrun] using hall

theorem keeps_withBridge {outcome : Except ActorError Bridge}
    (h : forall bridge : Bridge, outcome = .ok bridge -> s.bridge.Grows bridge) :
    Keeps s (s.withBridge outcome).2 := by
  cases outcome with
  | error => exact Keeps.refl s
  | ok bridge => exact keeps_bridge s bridge (h bridge rfl)

theorem keeps_withProps {β : Type} (hamid : s.Amid i) (outcome : Except ActorError β × Props) :
    Keeps s (s.withProps i outcome).2 := by
  change Keeps s (s.modifyActor i fun a => { a with props := outcome.2 })
  exact keeps_modifyActor fun p hp => Actor.stays_work (hamid.hook hp) p.actor.timers outcome.2

theorem keeps_withTimers {β : Type} (hamid : s.Amid i) (outcome : β × Timers) :
    Keeps s (s.withTimers i outcome).2 := by
  change Keeps s (s.modifyActor i fun a => { a with timers := outcome.2 })
  exact keeps_modifyActor fun p hp => Actor.stays_work (hamid.hook hp) outcome.2 p.actor.props

theorem keeps_declare (hp : s.performers[i]? = some p) (hamid : s.Amid i) (info : PropertyInfo)
    (initial : Tree) : Keeps s (s.answer i p (Request.declare info initial)).2 := by
  let live := p.actor.props.store.thaw initial
  rcases Actor.declare_eq { p.actor with props := { p.actor.props with store := live.2 } }
    s.bridge info live.1 with ⟨props, hdeclared⟩
  have hworked : Keeps s (s.modifyActor i fun _ => { p.actor with props := props }) := by
    refine keeps_modifyActor fun q hq => ?_
    obtain rfl : p = q := Option.some.inj (hp.symm.trans hq)
    exact Actor.stays_work (hamid.hook hp) p.actor.timers props
  rw [<- hdeclared] at hworked
  refine hworked.trans (keeps_bridge _ _ ?_)
  exact Actor.grows_declare _ s.bridge info live.1

theorem keeps_answer (hp : s.performers[i]? = some p) (hamid : s.Amid i) (request : Request) :
    Keeps s (s.answer i p request).2 := by
  cases request with
  | declare info initial => exact keeps_declare hp hamid info initial
  | subscribe pattern reading => exact keeps_withBridge fun _ h => Actor.grows_subscribe h
  | publishInfo => exact keeps_withBridge fun _ h => Bridge.grows_publishTree h
  | publishProps => exact keeps_withBridge fun _ h => Bridge.grows_publishTree h
  | publishTree topic t => exact keeps_withBridge fun _ h => Bridge.grows_publishTree h
  | publish topic body => exact keeps_withBridge fun _ h => Bridge.grows_publishTree h
  | announce message body => exact keeps_withBridge fun _ h => Bridge.grows_publishTree h
  | valueAt path => exact keeps_withProps hamid _
  | setValue path t => exact keeps_withProps hamid _
  | insertValue name t => exact keeps_withProps hamid _
  | raise event => exact keeps_raise s p.actor.ref.id event
  | startTimer period repeating => exact keeps_withTimers hamid _
  | cancelTimer timer => exact keeps_withTimers hamid _
  | cancelAllTimers => exact keeps_withTimers hamid _
  | stop => exact keeps_modifyActor fun _ _ => Actor.Disturbance.requestStop.stays
  | _ => exact Keeps.refl s

end System
end Troupe
