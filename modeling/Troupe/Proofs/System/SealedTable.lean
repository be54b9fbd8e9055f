import Troupe.Proofs.Actor.Life
import Troupe.Proofs.History
import Troupe.Proofs.System.Roster

/-!
# The sealed table

Bindings are made while actors start up, and the bridge is sealed while they do.  A call
that seals the bridge waits for one actor after another, until the actor has started up
or is gone; because an actor never goes back to an earlier state, and binds topics only
during its startup, no startup that the call waits for is ever turned away.
-/

namespace Troupe

/-!
## States move forward
-/

namespace Actor

variable {α : Type} {a b : Actor α} {states : List ActorState} {hooks : List (Hook α)}
  {results : List (Except ActorError Unit)}

theorem Course.ranks_sorted (h : Course states hooks results a) :
    (states.map ActorState.rank).Pairwise (· < ·) := by
  cases h <;> decide

theorem Course.state_of_start (h : Course states hooks results a)
    (hhook : a.hook = some Hook.start) : a.state = ActorState.starting := by
  obtain ⟨state, hat, hstarting⟩ := h.at_of_hook hhook
  exact hat.state.trans (hstarting rfl)

theorem rank_getLastD_le {before after : List ActorState}
    (h : ((before ++ after).map ActorState.rank).Pairwise (· < ·)) :
    (before.getLastD ActorState.created).rank ≤
      ((before ++ after).getLastD ActorState.created).rank := by
  rcases List.eq_nil_or_concat after with rfl | ⟨rest, last, rfl⟩
  · exact Nat.le_of_eq (by rw [List.append_nil])
  · rcases List.eq_nil_or_concat before with rfl | ⟨first, state, rfl⟩
    · exact Nat.zero_le _
    · have hlater : state.rank < last.rank := by
        rw [List.map_append, List.pairwise_append] at h
        exact h.right.right _ (by simp) _ (by simp)
      simpa [List.concat_eq_append, <- List.append_assoc] using Nat.le_of_lt hlater

/-- An actor never goes back to an earlier state. -/
theorem Lived.rank_le (h : a.Lived) (hleads : a.Leads b) : a.state.rank ≤ b.state.rank := by
  rcases h with ⟨ref, device, handlers, capacity, before, hbefore⟩
  rcases hleads with ⟨after, hafter⟩
  have hcourse := (hbefore.trans hafter).course
  rw [hbefore.course.state_eq, hcourse.state_eq]
  have hsorted := hcourse.ranks_sorted
  have hsplit : published (before ++ after) = published before ++ published after :=
    List.filterMap_append
  rw [hsplit] at hsorted ⊢
  exact rank_getLastD_le hsorted

theorem Lived.state_of_start (h : a.Lived) (hstarting : a.isStarting = true) :
    a.state = ActorState.starting := by
  rcases h with ⟨ref, device, handlers, capacity, trace, hrun⟩
  refine hrun.course.state_of_start ?_
  unfold isStarting at hstarting
  split at hstarting
  · assumption
  · cases hstarting

end Actor

/-!
## Who is turned away
-/

theorem Bridge.bind_sealed {b : Bridge} {pattern : String} {target : ActorRef} {reading : Reading}
    (h : b.bind pattern target reading = .error ActorError.bindingsSealed) :
    b.isSealed = true := by
  unfold bind at h
  split at h
  · cases h
  · split at h
    · assumption
    · cases h

namespace Actor

variable {α : Type} {a : Actor α} {bridge : Bridge}

theorem subscribe_sealed {pattern : String} {reading : Reading}
    (h : a.subscribe bridge pattern reading = .error ActorError.bindingsSealed) :
    a.isStarting = true ∧ bridge.isSealed = true := by
  unfold subscribe at h
  split at h
  · next hstarting => exact ⟨hstarting, Bridge.bind_sealed h⟩
  · cases h

theorem checkDeclaration_eq_error {info : PropertyInfo} {initial : Tree} {error : ActorError}
    (h : a.checkDeclaration info initial = .error error) : error ≠ ActorError.bindingsSealed := by
  unfold checkDeclaration at h
  split at h
  · cases h
    nofun
  · split at h
    · cases h
      nofun
    · split at h
      · cases h
        nofun
      · cases h

theorem bindWrites_sealed {info : PropertyInfo}
    (h : a.bindWrites bridge info = .error ActorError.bindingsSealed) :
    bridge.isSealed = true := by
  unfold bindWrites at h
  split at h
  · exact Bridge.bind_sealed h
  · cases h

theorem insert_eq_error {p : Props} {name : String} {value : Handle} {error : ActorError}
    (h : (p.insert name value).1 = .error error) :
    exists fault : ValueError, error = ActorError.value fault := by
  unfold Props.insert Props.update at h
  cases hplaced : (p.store.insert p.root name value).1 with
  | error fault =>
      rw [hplaced] at h
      exact ⟨fault, (Except.error.inj h).symm⟩
  | ok old =>
      rw [hplaced] at h
      cases h

/-- A declaration that is refused binds nothing, unless only its value could not be
placed. -/
theorem declare_refused {info : PropertyInfo} {initial : Handle} {error : ActorError}
    (h : (a.declare bridge info initial).1 = .error error) :
    (a.declare bridge info initial).2.2 = bridge ∧
        (error = ActorError.bindingsSealed -> a.isStarting = true ∧ bridge.isSealed = true) ∨
      exists fault : ValueError, error = ActorError.value fault := by
  have hdeclares := a.declares bridge info initial
  generalize a.declare bridge info initial = outcome at hdeclares h
  cases hdeclares with
  | refused hcheck =>
      cases h
      exact Or.inl ⟨rfl, fun hsealed => absurd hsealed (checkDeclaration_eq_error hcheck)⟩
  | unbound hcheck hbind =>
      cases h
      refine Or.inl ⟨rfl, fun hsealed => ?_⟩
      rw [hsealed] at hbind
      exact ⟨(checkDeclaration_eq_ok_iff.mp hcheck).left, bindWrites_sealed hbind⟩
  | unplaced _ _ hplaced =>
      cases h
      exact Or.inr (insert_eq_error hplaced)
  | declared => cases h

end Actor

namespace System

variable {σ α : Type} {s s' : System σ α} {i : Nat} {p : Performer σ α}

theorem withBridge_eq_error {outcome : Except ActorError Bridge} {error : ActorError}
    (h : (s.withBridge outcome).1 = .error error) :
    outcome = .error error ∧ (s.withBridge outcome).2 = s := by
  cases outcome with
  | ok bridge => cases h
  | error other => exact ⟨congrArg Except.error (Except.error.inj h), rfl⟩

/-- Only a startup is turned away, and only once the bridge is sealed. -/
theorem refusal_cases {request : Request} {occurrence : Occurrence}
    (h : s.refusal? i p request = some occurrence) :
    occurrence = Occurrence.turnedAway p.actor.ref ∧ p.actor.isStarting = true ∧
      s.bridge.isSealed = true := by
  unfold refusal? at h
  split at h
  · next haway =>
      refine ⟨(Option.some.inj h).symm, ?_⟩
      unfold Request.isTurnedAway at haway
      split at haway
      · next hdeclare =>
          have haway : _ = Except.error ActorError.bindingsSealed := hdeclare
          rcases Actor.declare_refused haway with ⟨-, hsealed⟩ | ⟨_, hvalue⟩
          · exact hsealed rfl
          · cases hvalue
      · next hsubscribe =>
          exact Actor.subscribe_sealed (withBridge_eq_error hsubscribe).left
      · cases haway
  · cases h

/-!
## Who is past startup
-/

theorem ofNat_inj {m n : Nat} (hm : m < UInt64.size) (hn : n < UInt64.size)
    (h : ActorId.ofNat m = ActorId.ofNat n) : m = n := by
  have hbits : m % 2 ^ 128 = n % 2 ^ 128 := congrArg (fun id => id.bits.toNat) h
  have hwide : UInt64.size < 2 ^ 128 := by decide
  rwa [Nat.mod_eq_of_lt (Nat.lt_trans hm hwide), Nat.mod_eq_of_lt (Nat.lt_trans hn hwide)] at hbits

theorem Roster.id_inj (h : s.Roster) {j : Nat} {q : Performer σ α}
    (hp : s.performers[i]? = some p) (hq : s.performers[j]? = some q)
    (hsame : p.actor.ref.id = q.actor.ref.id) : i = j := by
  have hlength : s.performers.length ≤ s.config.maxActors.toNat := by
    have hperm := h.performers.length_eq
    rw [List.length_map] at hperm
    exact hperm ▸ h.limit
  have hfew : s.config.maxActors.toNat < UInt64.size := s.config.maxActors.toNat_lt
  have hi := (List.getElem?_eq_some_iff.mp hp).choose
  have hj := (List.getElem?_eq_some_iff.mp hq).choose
  rw [h.id i p hp, h.id j q hq] at hsame
  have hnumbers := ofNat_inj (by omega) (by omega) hsame
  omega

end System

/-- The performer's actor is past its startup, or the performer is gone. -/
def Performer.IsPastStartup {σ α : Type} (p : Performer σ α) : Prop :=
  ActorState.running.rank ≤ p.actor.state.rank ∨ p.isGone = true

theorem Performer.IsPastStartup.leads {σ α : Type} {p q : Performer σ α} (h : p.IsPastStartup)
    (hlives : p.isGone = false -> p.Lives) (hleads : p.Leads q) : q.IsPastStartup := by
  cases hthere : p.isGone with
  | true => exact Or.inr (hleads.isGone.trans hthere)
  | false =>
      refine Or.inl ?_
      rcases h with hrank | hgone
      · exact Nat.le_trans hrank ((hlives hthere).lived.rank_le hleads.actor)
      · cases hthere.symm.trans hgone

namespace System

variable {σ α : Type} {s s' : System σ α} {i : Nat} {p : Performer σ α}

theorem isPastStartup_eq_true_iff {ref : ActorRef} :
    s.isPastStartup ref = true <->
      exists p : Performer σ α, s.performer? ref = some p ∧ p.IsPastStartup := by
  unfold isPastStartup Performer.IsPastStartup
  cases s.performer? ref with
  | none => simp
  | some p => simp [ActorState.less, or_comm]

/-- Ids are unique, so that any performer with the id of an actor is that actor's. -/
theorem Roster.isPastStartup_iff (h : s.Roster) {ref : ActorRef} :
    s.isPastStartup ref = true <->
      exists (i : Nat) (p : Performer σ α), s.performers[i]? = some p ∧
        p.actor.ref.id = ref.id ∧ p.IsPastStartup := by
  rw [isPastStartup_eq_true_iff]
  constructor
  · rintro ⟨p, hfound, hpast⟩
    rcases position?_of_performer? hfound with ⟨i, -, hp, hid⟩
    exact ⟨i, p, hp, hid, hpast⟩
  · rintro ⟨i, p, hp, hid, hpast⟩
    have hfound : (s.performer? ref).isSome = true := by
      rw [performer?, List.find?_isSome]
      exact ⟨p, List.mem_of_getElem? hp, beq_iff_eq.mpr hid⟩
    rcases Option.isSome_iff_exists.mp hfound with ⟨q, hfound⟩
    rcases position?_of_performer? hfound with ⟨j, -, hq, hother⟩
    obtain rfl := h.id_inj hp hq (hid.trans hother.symm)
    obtain rfl : p = q := Option.some.inj (hp.symm.trans hq)
    exact ⟨p, hfound, hpast⟩

theorem Roster.isPastStartup_mono (h : s.Roster) (h' : s'.Roster)
    (hkept : forall (i : Nat) (p : Performer σ α), s.performers[i]? = some p ->
      exists q : Performer σ α, s'.performers[i]? = some q ∧ q.actor.ref = p.actor.ref ∧
        (p.IsPastStartup -> q.IsPastStartup)) {ref : ActorRef}
    (hpast : s.isPastStartup ref = true) : s'.isPastStartup ref = true := by
  rcases h.isPastStartup_iff.mp hpast with ⟨i, p, hp, hid, hpast⟩
  rcases hkept i p hp with ⟨q, hq, href, hlater⟩
  exact h'.isPastStartup_iff.mpr ⟨i, q, hq, href ▸ hid, hlater hpast⟩

theorem performer_perish (hp : s.performers[i]? = some p) (j : Nat) :
    exists q : Performer σ α, (s.perish j).performers[i]? = some q ∧
      q.actor.ref = p.actor.ref ∧ (q = p ∨ q.isGone = true) := by
  unfold perish modify
  simp only [List.getElem?_modify, hp]
  by_cases hji : j = i
  · exact ⟨_, congrArg some (if_pos hji), rfl, Or.inr rfl⟩
  · exact ⟨_, congrArg some (if_neg hji), rfl, Or.inl rfl⟩

end System

/-!
## What a step leaves
-/

namespace Sealing

variable {σ α : Type} {x y z : Sealing σ α} {occurrence? : Option Occurrence}
  {trace before after : List Occurrence}

structure Sound (x : Sealing σ α) : Prop where
  lively : x.system.Lively
  roster : x.system.Roster

theorem Step.sound (h : Step x occurrence? y) (hsound : x.Sound) : y.Sound :=
  ⟨h.lively hsound.lively, h.roster hsound.roster⟩

theorem Run.sound (h : Run x trace y) (hsound : x.Sound) : y.Sound :=
  ⟨h.lively hsound.lively, h.roster hsound.roster⟩

theorem Step.performers (h : Step x occurrence? y) (hsound : x.Sound) (i : Nat)
    (p : Performer σ α) (hp : x.system.performers[i]? = some p) :
    exists q : Performer σ α, y.system.performers[i]? = some q ∧ q.actor.ref = p.actor.ref ∧
      (p.IsPastStartup -> q.IsPastStartup) := by
  rcases h.shape hsound.roster.limit with
    hgoes | ⟨actors, hadds⟩ | ⟨-, hsealed⟩ | ⟨j, -, -, -, hlost⟩
  · rcases hgoes.performer hp with ⟨q, hq, hleads⟩
    exact ⟨q, hq, hleads.actor.ref, fun hpast => hpast.leads (hsound.lively i p hp) hleads⟩
  · rcases hadds.kept with ⟨added, hkept⟩
    refine ⟨p, ?_, rfl, id⟩
    rw [<- hkept]
    exact (List.getElem?_append_left (List.getElem?_eq_some_iff.mp hp).choose).trans hp
  · exact ⟨p, hsealed ▸ hp, rfl, id⟩
  · rw [hlost]
    rcases System.performer_perish hp j with ⟨q, hq, href, hgone⟩
    refine ⟨q, hq, href, fun hpast => ?_⟩
    rcases hgone with rfl | hgone
    · exact hpast
    · exact Or.inr hgone

/-- An actor is gone only if it has been seen to perish. -/
theorem Step.gone (h : Step x occurrence? y) (hsound : x.Sound) {q : Performer σ α}
    (hq : q ∈ y.system.performers) (hgone : q.isGone = true) :
    (exists p : Performer σ α, p ∈ x.system.performers ∧ p.actor.ref = q.actor.ref ∧
      p.isGone = true) ∨ occurrence? = some (Occurrence.perished q.actor.ref.id) := by
  rcases h.shape hsound.roster.limit with
    hgoes | ⟨actors, hadds⟩ | ⟨-, hsealed⟩ | ⟨j, p, hp, hshown, hlost⟩
  · rcases List.mem_iff_getElem?.mp hq with ⟨i, hi⟩
    have hbound : i < x.system.performers.length := by
      rw [<- hgoes.length]
      exact (List.getElem?_eq_some_iff.mp hi).choose
    have hp := List.getElem?_eq_getElem hbound
    have hleads := hgoes.performers i _ q hp hi
    exact Or.inl ⟨_, List.mem_of_getElem? hp, hleads.actor.ref.symm,
      hleads.isGone.symm.trans hgone⟩
  · rcases hadds.there q hq with hold | hthere
    · exact Or.inl ⟨q, hold, rfl, hgone⟩
    · cases hthere.symm.trans hgone
  · rw [hsealed] at hq
    exact Or.inl ⟨q, hq, rfl, hgone⟩
  · rw [hlost] at hq
    rcases List.mem_iff_getElem?.mp hq with ⟨i, hi⟩
    rcases System.modify_cases hi with ⟨rfl, p', hp', rfl⟩ | ⟨-, hi⟩
    · obtain rfl : p = p' := Option.some.inj (hp.symm.trans hp')
      exact Or.inr hshown
    · exact Or.inl ⟨q, List.mem_of_getElem? hi, rfl, hgone⟩

theorem Step.isPastStartup (h : Step x occurrence? y) (hsound : x.Sound) {ref : ActorRef}
    (hpast : x.system.isPastStartup ref = true) : y.system.isPastStartup ref = true :=
  hsound.roster.isPastStartup_mono (h.sound hsound).roster (h.performers hsound) hpast

/-- The table of bindings only grows at its end, and not at all once it is sealed. -/
structure Extends (b b' : Bridge) : Prop where
  bindings : b.bindings <+: b'.bindings
  frozen : b.isSealed = true -> b'.isSealed = true ∧ b'.bindings = b.bindings

theorem Extends.trans {b b' b'' : Bridge} (h : Extends b b') (h' : Extends b' b'') :
    Extends b b'' := by
  refine ⟨h.bindings.trans h'.bindings, fun hsealed => ?_⟩
  rcases h.frozen hsealed with ⟨hstill, hsame⟩
  rcases h'.frozen hstill with ⟨hlater, hlast⟩
  exact ⟨hlater, hlast.trans hsame⟩

theorem Step.extends (h : Step x occurrence? y) (hsound : x.Sound) :
    Extends x.system.bridge y.system.bridge := by
  rcases h.shape hsound.roster.limit with
    hgoes | ⟨actors, hadds⟩ | ⟨-, hsealed⟩ | ⟨i, -, -, -, hlost⟩
  · refine ⟨hgoes.bridge.bindings, fun hsealed => ?_⟩
    exact ⟨hgoes.bridge.isSealed.trans hsealed, hgoes.bridge.frozen hsealed⟩
  · rw [hadds.bridge]
    exact ⟨List.prefix_rfl, fun hsealed => ⟨hsealed, rfl⟩⟩
  · rw [hsealed]
    exact ⟨List.prefix_rfl, fun _ => ⟨rfl, rfl⟩⟩
  · rw [hlost]
    exact ⟨List.prefix_rfl, fun hsealed => ⟨hsealed, rfl⟩⟩

theorem Run.extends (h : Run x trace y) (hsound : x.Sound) :
    Extends x.system.bridge y.system.bridge := by
  induction h with
  | refl => exact ⟨List.prefix_rfl, fun hsealed => ⟨hsealed, rfl⟩⟩
  | snoc hrun hstep ih => exact ih.trans (hstep.extends (hrun.sound hsound))

end Sealing

/-!
## What an occurrence tells
-/

def System.TurnsAway {σ α : Type} (s : System σ α) (ref : ActorRef) : Prop :=
  s.bridge.isSealed = true ∧
    exists (i : Nat) (p : Performer σ α), s.performers[i]? = some p ∧ p.actor.ref = ref ∧
      p.isGone = false ∧ p.actor.isStarting = true

theorem System.Happens.occurrence {σ α : Type} {s s' : System σ α}
    {occurrence? : Option Occurrence} {occurrence : Occurrence}
    (h : s.Happens occurrence? s') (hshown : occurrence? = some occurrence) :
    occurrence = Occurrence.sealedDirectly ∨
      (exists ref : ActorRef, occurrence = Occurrence.turnedAway ref ∧ s.TurnsAway ref) ∨
        exists id : ActorId, occurrence = Occurrence.perished id := by
  cases h with
  | answered request hp hacting =>
      rcases refusal_cases hshown with ⟨haway, hstarting, hsealed⟩
      have hthere := (Performer.isActing_iff.mp hacting).left
      exact Or.inr (Or.inl ⟨_, haway, hsealed, _, _, hp, rfl, hthere, hstarting⟩)
  | perished => exact Or.inr (Or.inr ⟨_, (Option.some.inj hshown).symm⟩)
  | sealedDirectly => exact Or.inl (Option.some.inj hshown).symm
  | _ => cases hshown

namespace Sealing

variable {σ α : Type} {x y z : Sealing σ α} {trace : List Occurrence} {ref : ActorRef}
  {registered : List ActorRef}

def Unsealed (shown : List Occurrence) : Prop :=
  forall occurrence : Occurrence, occurrence ∈ shown -> ¬ occurrence.IsSeal

theorem Step.turnsAway (h : Step x (some (Occurrence.turnedAway ref)) y) :
    x.system.TurnsAway ref := by
  cases h with
  | happened hhappens =>
      rcases hhappens.occurrence rfl with hdirect | ⟨other, hother, haway⟩ | ⟨id, hlost⟩
      · cases hdirect
      · cases hother
        exact haway
      · cases hlost

theorem Step.call (h : Step x (some (Occurrence.sealed registered)) y) :
    { registered := registered, awaited := [] } ∈ x.calls := by
  cases h with
  | happened hhappens =>
      rcases hhappens.occurrence rfl with hdirect | ⟨_, hother, -⟩ | ⟨_, hlost⟩
      · cases hdirect
      · cases hother
      · cases hlost
  | sealed hcalls =>
      rw [hcalls]
      exact List.mem_append_right _ List.mem_cons_self

theorem Step.isSealed {occurrence? : Option Occurrence} (h : Step x occurrence? y)
    (hsound : x.Sound) (hnone : Unsealed occurrence?.toList) :
    y.system.bridge.isSealed = x.system.bridge.isSealed := by
  rcases h.shape hsound.roster.limit with
    hgoes | ⟨actors, hadds⟩ | ⟨⟨shown, rfl, hseal⟩, -⟩ | ⟨i, -, -, -, hlost⟩
  · exact hgoes.bridge.isSealed
  · rw [hadds.bridge]
  · exact absurd hseal (hnone shown List.mem_cons_self)
  · rw [hlost]
    rfl

theorem Sound.not_turnsAway (h : x.Sound) (hpast : x.system.isPastStartup ref = true) :
    ¬ x.system.TurnsAway ref := by
  rintro ⟨-, i, p, hp, rfl, hthere, hstarting⟩
  rcases h.roster.isPastStartup_iff.mp hpast with ⟨j, q, hq, hid, hthrough⟩
  obtain rfl := h.roster.id_inj hq hp hid
  obtain rfl : q = p := Option.some.inj (hq.symm.trans hp)
  rcases hthrough with hrank | hgone
  · rw [(h.lively _ q hq hthere).lived.state_of_start hstarting] at hrank
    exact absurd hrank (by decide)
  · cases hthere.symm.trans hgone

/-!
## Every run
-/

/-- What is known at any moment of the calls under way and of who has been turned away. -/
structure Tracked (trace : List Occurrence) (x : Sealing σ α) : Prop where
  /-- Nobody is turned away before the bridge is sealed. -/
  unsealed :
    Unsealed trace -> x.system.bridge.isSealed = false ∧
      forall ref : ActorRef, Occurrence.turnedAway ref ∉ trace
  gone :
    forall p : Performer σ α, p ∈ x.system.performers -> p.isGone = true ->
      Occurrence.perished p.actor.ref.id ∈ trace
  calls :
    forall (call : SealCall) (ref : ActorRef), call ∈ x.calls -> ref ∈ call.registered ->
      ref ∈ call.awaited ∨ x.system.isPastStartup ref = true
  welcome :
    forall (before after : List Occurrence) (registered : List ActorRef) (ref : ActorRef),
      trace = before ++ Occurrence.sealed registered :: after -> Unsealed before ->
        ref ∈ registered ->
          x.system.isPastStartup ref = true ∧ Occurrence.turnedAway ref ∉ trace

theorem Tracked.step_unsealed {occurrence? : Option Occurrence} (h : Tracked trace x)
    (hsound : x.Sound) (hstep : Step x occurrence? y)
    (hnone : Unsealed (trace ++ occurrence?.toList)) :
    y.system.bridge.isSealed = false ∧
      forall ref : ActorRef, Occurrence.turnedAway ref ∉ trace ++ occurrence?.toList := by
  rcases List.forall_mem_append.mp hnone with ⟨hbefore, hlast⟩
  rcases h.unsealed hbefore with ⟨hopen, hnobody⟩
  refine ⟨(hstep.isSealed hsound hlast).trans hopen, fun ref => ?_⟩
  rw [List.mem_append, not_or]
  refine ⟨hnobody ref, fun haway => ?_⟩
  obtain rfl := Option.mem_toList.mp haway
  cases hstep.turnsAway.left.symm.trans hopen

theorem Tracked.step_gone {occurrence? : Option Occurrence} (h : Tracked trace x)
    (hsound : x.Sound) (hstep : Step x occurrence? y) (q : Performer σ α)
    (hq : q ∈ y.system.performers) (hgone : q.isGone = true) :
    Occurrence.perished q.actor.ref.id ∈ trace ++ occurrence?.toList := by
  rcases hstep.gone hsound hq hgone with ⟨p, hp, href, hbefore⟩ | rfl
  · rw [<- href]
    exact List.mem_append_left _ (h.gone p hp hbefore)
  · exact List.mem_append_right _ List.mem_cons_self

theorem Tracked.step_calls {occurrence? : Option Occurrence} (h : Tracked trace x)
    (hsound : x.Sound) (hstep : Step x occurrence? y) (call : SealCall) (ref : ActorRef)
    (hcall : call ∈ y.calls) (href : ref ∈ call.registered) :
    ref ∈ call.awaited ∨ y.system.isPastStartup ref = true := by
  have hlater : forall {call : SealCall}, call ∈ x.calls -> ref ∈ call.registered ->
      ref ∈ call.awaited ∨ y.system.isPastStartup ref = true :=
    fun hbefore hmem => (h.calls _ ref hbefore hmem).imp_right (hstep.isPastStartup hsound)
  cases hstep with
  | happened => exact hlater hcall href
  | called =>
      rcases List.mem_append.mp hcall with hcall | hcall
      · exact hlater hcall href
      · obtain rfl := List.mem_singleton.mp hcall
        exact Or.inl href
  | @awaited before after registered rest next hcalls hstarted =>
      have hbefore : { registered := registered, awaited := next :: rest } ∈ x.calls := by
        rw [hcalls]
        exact List.mem_append_right _ List.mem_cons_self
      rcases List.mem_append.mp hcall with hcall | hcall
      · exact hlater (hcalls ▸ List.mem_append_left _ hcall) href
      · rcases List.mem_cons.mp hcall with rfl | hcall
        · rcases hlater hbefore href with hawaited | hdone
          · rcases List.mem_cons.mp hawaited with rfl | hrest
            · exact Or.inr hstarted
            · exact Or.inl hrest
          · exact Or.inr hdone
        · exact hlater (hcalls ▸ List.mem_append_right _ (List.mem_cons_of_mem _ hcall)) href
  | @sealed before after registered hcalls =>
      refine hlater ?_ href
      rw [hcalls]
      rcases List.mem_append.mp hcall with hcall | hcall
      · exact List.mem_append_left _ hcall
      · exact List.mem_append_right _ (List.mem_cons_of_mem _ hcall)

/-- Whoever is past its startup and has not been turned away never is. -/
theorem Step.welcome {occurrence? : Option Occurrence} (h : Step x occurrence? y)
    (hsound : x.Sound) (hpast : x.system.isPastStartup ref = true)
    (hwelcome : Occurrence.turnedAway ref ∉ trace) :
    y.system.isPastStartup ref = true ∧
      Occurrence.turnedAway ref ∉ trace ++ occurrence?.toList := by
  refine ⟨h.isPastStartup hsound hpast, ?_⟩
  rw [List.mem_append, not_or]
  refine ⟨hwelcome, fun hlast => ?_⟩
  obtain rfl := Option.mem_toList.mp hlast
  exact hsound.not_turnsAway hpast h.turnsAway

theorem Tracked.step_welcome {occurrence? : Option Occurrence} (h : Tracked trace x)
    (hsound : x.Sound) (hstep : Step x occurrence? y) (before after : List Occurrence)
    (registered : List ActorRef) (ref : ActorRef)
    (htrace : trace ++ occurrence?.toList = before ++ Occurrence.sealed registered :: after)
    (hnone : Unsealed before) (href : ref ∈ registered) :
    y.system.isPastStartup ref = true ∧
      Occurrence.turnedAway ref ∉ trace ++ occurrence?.toList := by
  have hlater : forall rest : List Occurrence,
      trace = before ++ Occurrence.sealed registered :: rest ->
        y.system.isPastStartup ref = true ∧
          Occurrence.turnedAway ref ∉ trace ++ occurrence?.toList := by
    intro rest hrest
    rcases h.welcome before rest registered ref hrest hnone href with ⟨hpast, hwelcome⟩
    exact hstep.welcome hsound hpast hwelcome
  cases occurrence? with
  | none => exact hlater after ((List.append_nil trace).symm.trans htrace)
  | some last =>
      rcases split_snoc htrace with ⟨rfl, rfl, -⟩ | ⟨rest, hrest, -⟩
      · have hpast := (h.calls _ ref hstep.call href).resolve_left List.not_mem_nil
        exact hstep.welcome hsound hpast ((h.unsealed hnone).right ref)
      · exact hlater rest hrest

theorem Tracked.step {occurrence? : Option Occurrence} (h : Tracked trace x) (hsound : x.Sound)
    (hstep : Step x occurrence? y) : Tracked (trace ++ occurrence?.toList) y :=
  ⟨h.step_unsealed hsound hstep, h.step_gone hsound hstep, h.step_calls hsound hstep,
    h.step_welcome hsound hstep⟩

/-- What is true at any moment of the table of bindings and of those who bind, given
what has been shown. -/
structure Orderly (trace : List Occurrence) (x : Sealing σ α) : Prop where
  grows :
    forall (after : List Occurrence) (y : Sealing σ α), Run x after y ->
      x.system.bridge.bindings <+: y.system.bridge.bindings
  frozen :
    forall (after : List Occurrence) (y : Sealing σ α), Run x after y ->
      x.system.bridge.isSealed = true ->
        y.system.bridge.isSealed = true ∧ y.system.bridge.bindings = x.system.bridge.bindings
  bindRefused :
    forall (pattern : String) (target : ActorRef) (reading : Reading) (error : ActorError),
      x.system.bridge.bind pattern target reading = .error error ->
        (x.system.withBridge (x.system.bridge.bind pattern target reading)).2 = x.system
  subscribeRefused :
    forall (i : Nat) (p : Performer σ α) (pattern : String) (reading : Reading)
      (error : ActorError),
      (x.system.answer i p (Request.subscribe pattern reading)).1 = .error error ->
        (x.system.answer i p (Request.subscribe pattern reading)).2 = x.system
  /-- A declaration whose value cannot be placed may have bound its actor before. -/
  declareRefused :
    forall (i : Nat) (p : Performer σ α) (info : PropertyInfo) (initial : Tree)
      (error : ActorError),
      (x.system.answer i p (Request.declare info initial)).1 = .error error ->
        (forall fault : ValueError, error ≠ ActorError.value fault) ->
          (x.system.answer i p (Request.declare info initial)).2.bridge = x.system.bridge
  /-- The first call to seal the bridge seals it when everybody who was registered when
  the call was made is running or later.  Only for those who have perished nobody waits:
  they stay in the state that they last published, which may be an earlier one. -/
  started :
    forall (before : List Occurrence) (registered : List ActorRef) (ref : ActorRef),
      trace = before ++ [Occurrence.sealed registered] -> Unsealed before ->
        ref ∈ registered ->
          exists p : Performer σ α, x.system.performer? ref = some p ∧
            (ActorState.running.rank ≤ p.actor.state.rank ∨
              Occurrence.perished ref.id ∈ before)
  welcome :
    forall (before after : List Occurrence) (registered : List ActorRef) (ref : ActorRef),
      trace = before ++ Occurrence.sealed registered :: after -> Unsealed before ->
        ref ∈ registered -> Occurrence.turnedAway ref ∉ trace

end Sealing

namespace Sealing

variable {σ α : Type} {x y : Sealing σ α} {trace : List Occurrence}

end Sealing
end Troupe
