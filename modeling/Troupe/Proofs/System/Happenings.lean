import Troupe.Proofs.System.Lives

/-!
# Happenings

A system is used and kept busy by many at once.  What happens to it in one go is a
happening; between any two, others may act.  A call that seals the bridge waits for one
actor after another and goes on beside everything else.

What happens within a system leaves its actors going on; the rest adds actors, loses one
or seals the bridge.
-/

namespace Troupe

inductive Occurrence where
  /-- The actor was refused a binding because the bridge was sealed. -/
  | turnedAway (ref : ActorRef)
  /-- The actor with this id was lost to a panic. -/
  | perished (id : ActorId)
  | sealedDirectly
  /-- The bridge was sealed by a call that found these actors registered. -/
  | sealed (registered : List ActorRef)

def Occurrence.IsSeal : Occurrence -> Prop
  | turnedAway _ => False
  | perished _ => False
  | sealedDirectly => True
  | sealed _ => True

def Request.isTurnedAway : (request : Request) -> request.Answer -> Bool
  | Request.declare _ _, Except.error ActorError.bindingsSealed => true
  | Request.subscribe _ _, Except.error ActorError.bindingsSealed => true
  | _, _ => false

namespace System

variable {σ α : Type}

def refusal? (s : System σ α) (i : Nat) (p : Performer σ α) (request : Request) :
    Option Occurrence :=
  if request.isTurnedAway (s.answer i p request).1 then
    some (Occurrence.turnedAway p.actor.ref)
  else none

/-- What may happen to a system in one go, and what it shows. -/
inductive Happens (s : System σ α) : Option Occurrence -> System σ α -> Prop where
  | spawned (config : ActorConfig) (part : Part σ α) : Happens s none (s.spawn config part).2
  | groupSpawned (thread : ThreadConfig) (members : List (ActorConfig × Part σ α)) :
      Happens s none (s.spawnGroup thread members).2
  | moved {i : Nat} {p : Performer σ α} {actor : Actor α} :
      s.performers[i]? = some p -> p.isGone = false -> p.actor.advance = some actor ->
        Happens s none (s.modifyActor i fun _ => actor)
  /-- Somebody does something to an actor or its timers. -/
  | disturbed {i : Nat} {p : Performer σ α} {actor : Actor α}
      {event? : Option (Event α)} :
      s.performers[i]? = some p -> p.actor.Disturbance event? actor ->
        Happens s none (s.modifyActor i fun _ => actor)
  /-- The hook under way asks for something. -/
  | answered {i : Nat} {p : Performer σ α} (request : Request) :
      s.performers[i]? = some p -> p.isActing = true ->
        Happens s (s.refusal? i p request) (s.answer i p request).2
  | waited {i : Nat} (activity : Activity (Except ActorError Unit × σ)) :
      s.Amid i -> activity ≠ Activity.gone -> Happens s none (s.setActivity i activity)
  | finished {i : Nat} (result : Except ActorError Unit) (mind : σ) :
      s.Amid i -> Happens s none (s.finish i result mind)
  /-- A performer panics, in the middle of a hook or at any other moment. -/
  | perished {i : Nat} {p : Performer σ α} :
      s.performers[i]? = some p ->
        Happens s (some (Occurrence.perished p.actor.ref.id)) (s.perish i)
  | posted (target : ActorRef) (env : Envelope) : Happens s none (s.post target env).2
  | fired {s' : System σ α} : s.fireTimers? = some s' -> Happens s none s'
  | timePassed {s' : System σ α} : s.passTime? = some s' -> Happens s none s'
  | listened (source : ActorRef) (type : MessageType) (reaction : Reaction) :
      Happens s none (s.listen source type reaction)
  /-- Somebody outside the actors binds one of them. -/
  | bound (pattern : String) (target : ActorRef) (reading : Reading) :
      Happens s none (s.withBridge (s.bridge.bind pattern target reading)).2
  | published (topic : String) (t : Tree) :
      Happens s none (s.withBridge (s.bridge.publishTree topic t)).2
  /-- The other end of the transport does something. -/
  | transported (transport : Transport) :
      Happens s none { s with bridge := { s.bridge with transport := transport } }
  | stopped (target : ActorRef) : Happens s none (s.stop target)
  | allStopped : Happens s none s.stopAll
  | released (target : ActorRef) : Happens s none (s.release target)
  | allReleased : Happens s none s.dismissHeld
  | sealedDirectly :
      Happens s (some Occurrence.sealedDirectly) { s with bridge := s.bridge.sealBindings }

end System

/-!
## Calls that seal the bridge
-/

/-- A call that seals the bridge once the actors have started up that were registered
when it was made. -/
structure SealCall where
  registered : List ActorRef
  /-- The actors that it has still to wait for, in turn. -/
  awaited : List ActorRef

structure Sealing (σ α : Type) where
  system : System σ α
  calls : List SealCall

namespace Sealing

variable {σ α : Type}

def start (config : SystemConfig) (transport : Transport) (isVirtual : Bool) : Sealing σ α :=
  { system := System.create config transport isVirtual, calls := [] }

inductive Step (x : Sealing σ α) : Option Occurrence -> Sealing σ α -> Prop where
  | happened {occurrence? : Option Occurrence} {s : System σ α} :
      x.system.Happens occurrence? s -> Step x occurrence? { x with system := s }
  | called :
      Step x none
        { x with
          calls := x.calls ++
            [{ registered := x.system.registry.refs, awaited := x.system.registry.refs }] }
  /-- A call has seen that the next actor has started up, or is gone. -/
  | awaited {before after : List SealCall} {registered rest : List ActorRef} {ref : ActorRef} :
      x.calls = before ++ { registered := registered, awaited := ref :: rest } :: after ->
        x.system.isPastStartup ref = true ->
          Step x none
            { x with
              calls := before ++ { registered := registered, awaited := rest } :: after }
  | sealed {before after : List SealCall} {registered : List ActorRef} :
      x.calls = before ++ { registered := registered, awaited := [] } :: after ->
        Step x (some (Occurrence.sealed registered))
          { system := { x.system with bridge := x.system.bridge.sealBindings }
            calls := before ++ after }

inductive Run (x : Sealing σ α) : List Occurrence -> Sealing σ α -> Prop where
  | refl : Run x [] x
  | snoc {trace : List Occurrence} {occurrence? : Option Occurrence} {y z : Sealing σ α} :
      Run x trace y -> Step y occurrence? z -> Run x (trace ++ occurrence?.toList) z

variable {x y z : Sealing σ α} {before after : List Occurrence}

theorem Run.step {occurrence? : Option Occurrence} (h : Step x occurrence? y) :
    Run x occurrence?.toList y := by
  simpa using Run.refl.snoc h

theorem Run.trans (hbefore : Run x before y) (hafter : Run y after z) :
    Run x (before ++ after) z := by
  induction hafter with
  | refl => simpa using hbefore
  | snoc _ hstep ih =>
      rw [<- List.append_assoc]
      exact ih.snoc hstep

end Sealing

namespace System

variable {σ α : Type} {s s' s'' : System σ α} {i j : Nat} {p : Performer σ α}

/-!
## What happenings preserve
-/

theorem continues_finish (hamid : s.Amid i) (result : Except ActorError Unit) (mind : σ) :
    Continues s (s.finish i result mind) := by
  unfold finish
  split
  · exact (Keeps.refl s).toContinues
  · next p hp =>
      let ended (q : Performer σ α) : Performer σ α :=
        { q with
          actor := (p.actor.conclude s.bridge result).1, mind := mind, activity := Activity.free }
      have hended : Continues s (s.modify i ended) := by
        refine continues_modify fun q hq => ?_
        obtain rfl : p = q := Option.some.inj (hp.symm.trans hq)
        have hthere : (ended p).isGone = p.isGone := (hamid.isGone hp).symm
        exact ⟨⟨p.actor.leads_conclude s.bridge result, hthere⟩, fun _ => Or.inl rfl⟩
      have hbridge := keeps_bridge (s.modify i ended) (p.actor.conclude s.bridge result).2
        (p.actor.grows_conclude s.bridge result)
      exact hended.trans hbridge.toContinues

theorem continues_move {actor : Actor α} (hp : s.performers[i]? = some p)
    (hmove : p.actor.advance = some actor) :
    Continues s (s.modifyActor i fun _ => actor) := by
  refine continues_modify fun q hq => ?_
  obtain rfl : p = q := Option.some.inj (hp.symm.trans hq)
  refine ⟨⟨(Actor.Step.moved hmove).leads, rfl⟩, fun hacting => Or.inl ?_⟩
  refine hacting.resolve_right fun hbusy => ?_
  unfold Performer.isActing at hbusy
  rw [(Actor.move_of_advance hmove).left, Option.isSome_none, Bool.and_false] at hbusy
  cases hbusy

theorem keeps_disturb {actor : Actor α} {event? : Option (Event α)}
    (hp : s.performers[i]? = some p) (hdisturbs : p.actor.Disturbance event? actor) :
    Keeps s (s.modifyActor i fun _ => actor) := by
  refine keeps_modifyActor fun q hq => ?_
  obtain rfl : p = q := Option.some.inj (hp.symm.trans hq)
  exact hdisturbs.stays

theorem continues_wait (hamid : s.Amid i) {activity : Activity (Except ActorError Unit × σ)}
    (hgoing : activity ≠ Activity.gone) : Continues s (s.setActivity i activity) := by
  refine continues_modify fun p hp => ?_
  have hhook := hamid.hook hp
  let waiting : Performer σ α := { p with activity := activity }
  have hthere : waiting.isGone = false := Performer.isGone_eq_false_iff.mpr hgoing
  refine ⟨⟨Actor.Leads.refl p.actor, hthere.trans (hamid.isGone hp).symm⟩, fun _ => Or.inr ?_⟩
  exact Performer.isActing_iff.mpr ⟨hthere, hhook⟩

theorem continues_fireTimers (h : s.fireTimers? = some s') : Continues s s' := by
  unfold fireTimers? at h
  split at h
  · cases h
    refine continues_map fun p => ?_
    split
    · exact livesOn_of_stays (Actor.Stays.refl p.actor) rfl
    · exact livesOn_of_stays (p.actor.stays_fireTimers _) rfl
  · cases h

theorem continues_passTime (h : s.passTime? = some s') : Continues s s' := by
  unfold passTime? at h
  simp only at h
  split at h
  · cases h
  · cases h
    refine Keeps.toContinues ?_
    exact keeps_of_performers rfl rfl rfl (Bridge.Grows.refl s.bridge)

theorem keeps_listen (s : System σ α) (source : ActorRef) (type : MessageType)
    (reaction : Reaction) : Keeps s (s.listen source type reaction) :=
  keeps_of_performers rfl rfl rfl (Bridge.Grows.refl s.bridge)

theorem keeps_stop (s : System σ α) (target : ActorRef) : Keeps s (s.stop target) := by
  unfold stop
  split
  · exact keeps_modifyActor fun _ _ => Actor.Disturbance.requestStop.stays
  · exact Keeps.refl s

theorem livesOn_release {actor : Actor α} {next : Program (Except ActorError Unit × σ)}
    (hholding : p.activity = Activity.holding next) (hstays : p.actor.Stays actor) :
    LivesOn p { p with actor := actor, activity := Activity.ready next } := by
  have hthere : p.isGone = false :=
    Performer.isGone_eq_false_iff.mpr (by rw [hholding]; nofun)
  refine ⟨⟨hstays.leads, hthere.symm⟩, fun hacting => Or.inr ?_⟩
  have hacting := hacting.resolve_left (by rw [hholding]; nofun)
  refine Performer.isActing_iff.mpr ⟨rfl, ?_⟩
  rw [hstays.hook]
  exact (Performer.isActing_iff.mp hacting).right

theorem continues_release (s : System σ α) (target : ActorRef) :
    Continues s (s.release target) := by
  unfold release
  split
  · refine continues_modify fun p _ => ?_
    split
    · next hholding => exact livesOn_release hholding (Actor.Stays.refl p.actor)
    · exact livesOn_of_stays (Actor.Stays.refl p.actor) rfl
  · exact (Keeps.refl s).toContinues

theorem continues_dismissHeld (s : System σ α) : Continues s s.dismissHeld := by
  refine continues_map fun p => ?_
  split
  · next hholding => exact livesOn_release hholding Actor.Disturbance.requestStop.stays
  · exact livesOn_of_stays (Actor.Stays.refl p.actor) rfl

/-- What happens to a system either adds actors, seals the bridge, loses an actor or does
none of this. -/
theorem Happens.shape {occurrence? : Option Occurrence} (h : s.Happens occurrence? s') :
    Continues s s' ∨
      (exists (config : ActorConfig) (part : Part σ α),
        occurrence? = none ∧ s' = (s.spawn config part).2) ∨
      (exists (thread : ThreadConfig) (members : List (ActorConfig × Part σ α)),
        occurrence? = none ∧ s' = (s.spawnGroup thread members).2) ∨
      (occurrence? = some Occurrence.sealedDirectly ∧
        s' = { s with bridge := s.bridge.sealBindings }) ∨
      exists (i : Nat) (p : Performer σ α), s.performers[i]? = some p ∧
        occurrence? = some (Occurrence.perished p.actor.ref.id) ∧ s' = s.perish i := by
  cases h with
  | spawned config part => exact Or.inr (Or.inl ⟨config, part, rfl, rfl⟩)
  | groupSpawned thread members => exact Or.inr (Or.inr (Or.inl ⟨thread, members, rfl, rfl⟩))
  | sealedDirectly => exact Or.inr (Or.inr (Or.inr (Or.inl ⟨rfl, rfl⟩)))
  | perished hp => exact Or.inr (Or.inr (Or.inr (Or.inr ⟨_, _, hp, rfl, rfl⟩)))
  | moved hp _ hmove => exact Or.inl (continues_move hp hmove)
  | disturbed hp hdisturbs => exact Or.inl (keeps_disturb hp hdisturbs).toContinues
  | answered request hp hacting =>
      refine Or.inl (keeps_answer hp (fun q hq => ?_) request).toContinues
      obtain rfl := Option.some.inj (hp.symm.trans hq)
      exact hacting
  | waited activity hamid hgoing => exact Or.inl (continues_wait hamid hgoing)
  | finished result mind hamid => exact Or.inl (continues_finish hamid result mind)
  | posted target env => exact Or.inl (keeps_post s target env).toContinues
  | fired hfired => exact Or.inl (continues_fireTimers hfired)
  | timePassed hpassed => exact Or.inl (continues_passTime hpassed)
  | listened source type reaction => exact Or.inl (keeps_listen s source type reaction).toContinues
  | bound => exact Or.inl (keeps_withBridge fun _ h => Bridge.grows_bind h).toContinues
  | published =>
      exact Or.inl (keeps_withBridge fun _ h => Bridge.grows_publishTree h).toContinues
  | transported transport =>
      have hkept := keeps_bridge s { s.bridge with transport := transport }
        (Bridge.grows_of_bindings rfl rfl)
      exact Or.inl hkept.toContinues
  | stopped target => exact Or.inl (keeps_stop s target).toContinues
  | allStopped =>
      exact Or.inl (continues_map fun p =>
        livesOn_of_stays (Actor.Disturbance.requestStop (a := p.actor)).stays rfl)
  | released target => exact Or.inl (continues_release s target)
  | allReleased => exact Or.inl (continues_dismissHeld s)

/-!
### Spawning
-/

theorem Lively.addPerformer (h : s.Lively) (enlisted : Enlisted) (part : Part σ α)
    (thread : String) (clock : Nat) : (s.addPerformer enlisted part thread clock).Lively := by
  intro i p hp hthere
  rcases List.mem_append.mp (List.mem_of_getElem? hp) with hold | hnew
  · rcases List.mem_iff_getElem?.mp hold with ⟨j, hj⟩
    exact h j p hj hthere
  · obtain rfl := List.mem_singleton.mp hnew
    exact ⟨⟨_, _, _, _, Actor.Leads.refl _⟩, Or.inl rfl⟩

theorem Lively.addPerformers (h : s.Lively) (thread : String) (clock : Nat)
    (members : List (Enlisted × Part σ α)) : (addPerformers thread clock s members).Lively := by
  induction members generalizing s with
  | nil => exact h
  | cons member rest ih => exact ih (h.addPerformer member.1 member.2 thread clock)

theorem Lively.of_performers (h : s.Lively) (hsame : s'.performers = s.performers) : s'.Lively :=
  fun i p hp => h i p (hsame ▸ hp)

theorem addClock_performers (s : System σ α) : s.addClock.2.performers = s.performers := by
  unfold addClock
  split <;> rfl

theorem Lively.spawn (h : s.Lively) (config : ActorConfig) (part : Part σ α) :
    (s.spawn config part).2.Lively := by
  unfold System.spawn
  split
  · exact h
  · next enlisted registry _ =>
      have hclock : { s with registry := registry }.addClock.2.Lively :=
        h.of_performers (addClock_performers _)
      exact hclock.addPerformer enlisted part _ _

theorem Lively.spawnGroup (h : s.Lively) (thread : ThreadConfig)
    (members : List (ActorConfig × Part σ α)) : (s.spawnGroup thread members).2.Lively := by
  unfold System.spawnGroup
  split
  · exact h.of_performers rfl
  · next all registry _ =>
      have hclock : { s with registry := registry }.addClock.2.Lively :=
        h.of_performers (addClock_performers _)
      exact hclock.addPerformers _ _ _

theorem Lively.perish (h : s.Lively) (i : Nat) : (s.perish i).Lively := by
  intro j q hq hthere
  rcases modify_cases hq with ⟨rfl, p, -, rfl⟩ | ⟨-, hq⟩
  · cases hthere
  · exact h j q hq hthere

theorem Happens.lively {occurrence? : Option Occurrence} (h : s.Happens occurrence? s')
    (hlively : s.Lively) : s'.Lively := by
  rcases h.shape with hgoes | ⟨config, part, -, rfl⟩ | ⟨thread, members, -, rfl⟩ | ⟨-, rfl⟩ |
    ⟨i, p, -, -, rfl⟩
  · exact hgoes.lively hlively
  · exact hlively.spawn config part
  · exact hlively.spawnGroup thread members
  · exact hlively
  · exact hlively.perish i

end System

theorem Sealing.Step.lively {σ α : Type} {x y : Sealing σ α} {occurrence? : Option Occurrence}
    (h : Sealing.Step x occurrence? y) (hlively : x.system.Lively) : y.system.Lively := by
  cases h with
  | happened hhappens => exact hhappens.lively hlively
  | _ => exact hlively

theorem Sealing.Run.lively {σ α : Type} {x y : Sealing σ α} {trace : List Occurrence}
    (h : Sealing.Run x trace y) (hlively : x.system.Lively) : y.system.Lively := by
  induction h with
  | refl => exact hlively
  | snoc _ hstep ih => exact hstep.lively ih

end Troupe
