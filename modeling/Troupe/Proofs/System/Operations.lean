import Troupe.Proofs.System.Happenings

/-!
# Operations come down to happenings

Whatever is done with a system, and however long it then runs by itself, comes down to
happenings one after another.  What all happenings preserve is therefore true of every
system that comes about.
-/

namespace Troupe

namespace System

variable {σ α : Type} {s s' s'' : System σ α} {i j : Nat} {p : Performer σ α}

/-- A system comes to another one by happenings, whatever calls are under way. -/
def Comes (s s' : System σ α) : Prop :=
  forall calls : List SealCall, exists trace : List Occurrence,
    Sealing.Run { system := s, calls := calls } trace { system := s', calls := calls }

theorem Comes.refl (s : System σ α) : Comes s s :=
  fun _ => ⟨[], Sealing.Run.refl⟩

theorem Comes.trans (h : Comes s s') (h' : Comes s' s'') : Comes s s'' := by
  intro calls
  rcases h calls with ⟨before, hbefore⟩
  rcases h' calls with ⟨after, hafter⟩
  exact ⟨_, hbefore.trans hafter⟩

theorem Happens.comes {occurrence? : Option Occurrence} (h : s.Happens occurrence? s') :
    Comes s s' :=
  fun _ => ⟨_, Sealing.Run.step (Sealing.Step.happened h)⟩

theorem Comes.lively (h : Comes s s') (hlively : s.Lively) : s'.Lively := by
  rcases h [] with ⟨trace, hrun⟩
  exact hrun.lively hlively

/-!
## Turns
-/

theorem comes_wait (hamid : s.Amid i) {activity : Activity (Except ActorError Unit × σ)}
    (hgoing : activity ≠ Activity.gone) : Comes s (s.setActivity i activity) :=
  (Happens.waited activity hamid hgoing).comes

theorem comes_follow (hamid : s.Amid i) (program : Program (Except ActorError Unit × σ)) :
    Comes s (follow i program s) := by
  induction program generalizing s with
  | done result => exact (Happens.finished result.1 result.2 hamid).comes
  | ask request next ih =>
      unfold follow
      split
      · exact Comes.refl s
      · next p hp =>
          have hanswered := Happens.answered request hp (hamid p hp)
          exact hanswered.comes.trans (ih _ ((keeps_answer hp hamid request).amid i hamid))
  | tell target message next ih =>
      unfold follow
      split
      · exact Comes.refl s
      · next p hp =>
          have hkeeps := keeps_post s target (Envelope.sentBy message p.actor.ref.id)
          simp only
          split
          · exact comes_wait hamid nofun
          · exact (Happens.posted target _).comes.trans (ih _ (hkeeps.amid i hamid))
  | sleep span next ih =>
      unfold follow
      split
      · exact Comes.refl s
      · split
        · exact ih hamid
        · exact comes_wait hamid nofun
  | hold next => exact comes_wait hamid nofun
  | panic =>
      unfold follow
      cases hp : s.performers[i]? with
      | none =>
          have hsame : s.perish i = s := by
            unfold perish modify
            rw [List.modify_eq_self (List.getElem?_eq_none_iff.mp hp)]
          exact hsame.symm ▸ Comes.refl s
      | some p => exact (Happens.perished hp).comes

theorem comes_begin (hp : s.performers[i]? = some p) (hthere : p.isGone = false)
    {actor : Actor α} (hmove : p.actor.advance = some actor) :
    Comes s (s.begin i p actor) := by
  have hmoved := (Happens.moved hp hthere hmove).comes
  unfold begin
  simp only
  split
  · next hook hhook =>
      refine hmoved.trans (comes_follow (fun q hq => ?_) _)
      rcases modify_cases hq with ⟨-, p', hp', rfl⟩ | ⟨hne, -⟩
      · obtain rfl : p = p' := Option.some.inj (hp.symm.trans hp')
        have hbegun : actor.hook.isSome = true := Option.isSome_iff_exists.mpr ⟨hook, hhook⟩
        exact Performer.isActing_iff.mpr ⟨hthere, hbegun⟩
      · exact absurd rfl hne
  · exact hmoved

theorem comes_takeTurn (h : s.Lively) (hturn : s.takeTurn? i = some s') : Comes s s' := by
  unfold takeTurn? at hturn
  split at hturn
  · cases hturn
  · next p hp =>
      have hthere : p.activity ≠ Activity.gone -> p.isGone = false :=
        Performer.isGone_eq_false_iff.mpr
      have hamid : p.activity ≠ Activity.gone -> p.activity ≠ Activity.free -> s.Amid i := by
        intro hgone hbusy q hq
        obtain rfl : p = q := Option.some.inj (hp.symm.trans hq)
        exact (h i p hp (hthere hgone)).acting.resolve_left hbusy
      split at hturn
      · next hfree =>
          rcases Option.map_eq_some_iff.mp hturn with ⟨actor, hmove, rfl⟩
          exact comes_begin hp (hthere (by rw [hfree]; nofun)) hmove
      · next next hready =>
          cases hturn
          exact comes_follow (hamid (by rw [hready]; nofun) (by rw [hready]; nofun)) next
      · cases hturn
      · cases hturn
      · next moment next hsleeping =>
          split at hturn
          · cases hturn
            exact comes_follow (hamid (by rw [hsleeping]; nofun) (by rw [hsleeping]; nofun)) next
          · cases hturn
      · next target env deadline next hsending =>
          split at hturn
          · cases hturn
            have hkeeps := keeps_post s target env
            refine (Happens.posted target env).comes.trans (comes_follow ?_ _)
            exact hkeeps.amid i (hamid (by rw [hsending]; nofun) (by rw [hsending]; nofun))
          · cases hturn

theorem comes_takeFirstTurn (h : s.Lively) (hturn : s.takeFirstTurn? = some (i, s')) :
    Comes s s' := by
  rcases List.exists_of_findSome?_eq_some hturn with ⟨j, -, hfirst⟩
  rcases Option.map_eq_some_iff.mp hfirst with ⟨s'', hturn, hsame⟩
  cases hsame
  exact comes_takeTurn h hturn

theorem comes_settleWith (turns current : Nat) (h : s.Lively) :
    Comes s (settleWith turns current s) := by
  induction turns generalizing current s with
  | zero => exact Comes.refl s
  | succ turns ih =>
      have hgo : forall {next : System σ α} (i : Nat), Comes s next ->
          Comes s (settleWith turns i next) :=
        fun i hfirst => hfirst.trans (ih i (hfirst.lively h))
      unfold settleWith
      split
      · next hturn => exact hgo current (comes_takeTurn h hturn)
      · split
        · next i s' hturn => exact hgo i (comes_takeFirstTurn h hturn)
        · split
          · next hfired => exact hgo current (Happens.fired hfired).comes
          · split
            · next hpassed => exact hgo current (Happens.timePassed hpassed).comes
            · exact Comes.refl s

theorem comes_settle (h : s.Lively) : Comes s s.settle :=
  comes_settleWith turnLimit 0 h

/-!
## From outside
-/

theorem comes_send (h : s.Lively) (target : ActorRef) (env : Envelope) :
    Comes s (send target env s).2 := by
  unfold send
  split
  · exact (comes_settle h).trans (Happens.posted target env).comes
  · exact (Happens.posted target env).comes

theorem comes_deliverAll (h : s.Lively) (topic : String) (payload : Tree)
    (bindings : List Binding) :
    Comes s (Bridge.deliverAll System.send topic payload bindings s).2 := by
  induction bindings generalizing s with
  | nil => exact Comes.refl s
  | cons binding rest ih =>
      have hfirst : Comes s (Bridge.deliverTo System.send topic payload binding s).2 := by
        unfold Bridge.deliverTo
        cases binding.reading.message topic payload with
        | ok message => exact comes_send h binding.target _
        | error error => exact Comes.refl s
      exact hfirst.trans (ih (hfirst.lively h))

theorem comes_deliver (h : s.Lively) (topic : String) (payload : List UInt8) :
    Comes s (s.deliver topic payload).2 := by
  unfold System.deliver Bridge.deliver
  split
  · exact Comes.refl s
  · exact comes_deliverAll h topic _ _

theorem comes_onEvent (s : System σ α) (source : String) (type : MessageType)
    (reaction : Reaction) : Comes s (s.onEvent source type reaction).2 := by
  unfold onEvent
  split
  · exact Comes.refl s
  · exact (Happens.listened _ type reaction).comes

theorem comes_forward (s : System σ α) (source target : String) (type : MessageType) :
    Comes s (s.forward source target type).2 := by
  unfold forward
  split
  · exact Comes.refl s
  · exact comes_onEvent s source type _

theorem awaited_dropWhile (calls : List SealCall) (registered refs : List ActorRef) :
    Sealing.Run
      { system := s, calls := calls ++ [{ registered := registered, awaited := refs }] } []
      { system := s
        calls := calls ++ [{ registered := registered, awaited := s.awaiting refs }] } := by
  induction refs with
  | nil => exact Sealing.Run.refl
  | cons ref rest ih =>
      unfold awaiting
      rw [List.dropWhile_cons]
      split
      · next hpast => exact (Sealing.Run.step (Sealing.Step.awaited rfl hpast)).trans ih
      · exact Sealing.Run.refl

theorem comes_sealBridge (h : s.Lively) : Comes s s.sealBridge := by
  unfold sealBridge
  simp only
  split
  · next hnone =>
      intro calls
      let refs := s.registry.refs
      have hcall := Sealing.Run.step
        (Sealing.Step.called (x := { system := s, calls := calls }))
      rcases comes_settle h (calls ++ [{ registered := refs, awaited := refs }]) with
        ⟨trace, hsettle⟩
      have hawaited := awaited_dropWhile (s := s.settle) calls refs refs
      rw [List.isEmpty_iff.mp hnone] at hawaited
      have hsealed := hawaited.snoc (Sealing.Step.sealed rfl)
      rw [List.append_nil] at hsealed
      exact ⟨_, (hcall.trans hsettle).trans hsealed⟩
  · exact comes_settle h

/-!
## Every system
-/

/-- The systems that come about: created, and then used from outside in any way. -/
inductive Reached : System σ α -> Prop where
  | create (config : SystemConfig) (transport : Transport) (isVirtual : Bool) :
      Reached (create config transport isVirtual)
  | spawn {s : System σ α} (config : ActorConfig) (part : Part σ α) :
      Reached s -> Reached (s.spawn config part).2
  | spawnGroup {s : System σ α} (thread : ThreadConfig) (members : List (ActorConfig × Part σ α)) :
      Reached s -> Reached (s.spawnGroup thread members).2
  | tryTell {s : System σ α} (target : ActorRef) (message : Message) :
      Reached s -> Reached (s.tryTell target message).2
  | tell {s : System σ α} (target : ActorRef) (message : Message) :
      Reached s -> Reached (s.tell target message).2
  | deliver {s : System σ α} (topic : String) (payload : List UInt8) :
      Reached s -> Reached (s.deliver topic payload).2
  | deliverTree {s : System σ α} (topic : String) (payload : Tree) :
      Reached s -> Reached (s.deliverTree topic payload).2
  | bind {s : System σ α} (pattern : String) (target : ActorRef) (reading : Reading) :
      Reached s -> Reached (s.withBridge (s.bridge.bind pattern target reading)).2
  | publishTree {s : System σ α} (topic : String) (t : Tree) :
      Reached s -> Reached (s.withBridge (s.bridge.publishTree topic t)).2
  | transport {s : System σ α} (transport : Transport) :
      Reached s -> Reached { s with bridge := { s.bridge with transport := transport } }
  | sealBindings {s : System σ α} :
      Reached s -> Reached { s with bridge := s.bridge.sealBindings }
  | onEvent {s : System σ α} (source : String) (type : MessageType) (reaction : Reaction) :
      Reached s -> Reached (s.onEvent source type reaction).2
  | forward {s : System σ α} (source target : String) (type : MessageType) :
      Reached s -> Reached (s.forward source target type).2
  | stop {s : System σ α} (target : ActorRef) : Reached s -> Reached (s.stop target)
  | release {s : System σ α} (target : ActorRef) : Reached s -> Reached (s.release target)
  | dismissHeld {s : System σ α} : Reached s -> Reached s.dismissHeld
  | sealBridge {s : System σ α} : Reached s -> Reached s.sealBridge
  | settle {s : System σ α} : Reached s -> Reached s.settle
  | shutdown {s : System σ α} : Reached s -> Reached s.shutdown

theorem lively_create (config : SystemConfig) (transport : Transport) (isVirtual : Bool) :
    (create config transport isVirtual : System σ α).Lively :=
  fun _ _ hp => nomatch hp

/-- Every system that comes about has come from an empty one by happenings. -/
theorem Reached.comes (h : s.Reached) :
    exists (config : SystemConfig) (transport : Transport) (isVirtual : Bool),
      Comes (System.create config transport isVirtual) s := by
  have hnext : forall {s s' : System σ α},
      (exists (config : SystemConfig) (transport : Transport) (isVirtual : Bool),
        Comes (System.create config transport isVirtual) s) -> (s.Lively -> Comes s s') ->
        exists (config : SystemConfig) (transport : Transport) (isVirtual : Bool),
          Comes (System.create config transport isVirtual) s' := by
    rintro s s' ⟨config, transport, isVirtual, hbefore⟩ hstep
    have hlively := hbefore.lively (lively_create config transport isVirtual)
    exact ⟨config, transport, isVirtual, hbefore.trans (hstep hlively)⟩
  induction h with
  | create config transport isVirtual => exact ⟨config, transport, isVirtual, Comes.refl _⟩
  | spawn config part _ ih => exact hnext ih fun _ => (Happens.spawned config part).comes
  | spawnGroup thread members _ ih =>
      exact hnext ih fun _ => (Happens.groupSpawned thread members).comes
  | tryTell target message _ ih => exact hnext ih fun _ => (Happens.posted target _).comes
  | tell target message _ ih => exact hnext ih fun h => comes_send h target _
  | deliver topic payload _ ih => exact hnext ih fun h => comes_deliver h topic payload
  | deliverTree topic payload _ ih => exact hnext ih fun h => comes_deliverAll h topic payload _
  | bind pattern target reading _ ih =>
      exact hnext ih fun _ => (Happens.bound pattern target reading).comes
  | publishTree topic t _ ih => exact hnext ih fun _ => (Happens.published topic t).comes
  | transport transport _ ih => exact hnext ih fun _ => (Happens.transported transport).comes
  | sealBindings _ ih => exact hnext ih fun _ => Happens.sealedDirectly.comes
  | onEvent source type reaction _ ih =>
      exact hnext ih fun _ => comes_onEvent _ source type reaction
  | forward source target type _ ih => exact hnext ih fun _ => comes_forward _ source target type
  | stop target _ ih => exact hnext ih fun _ => (Happens.stopped target).comes
  | release target _ ih => exact hnext ih fun _ => (Happens.released target).comes
  | dismissHeld _ ih => exact hnext ih fun _ => Happens.allReleased.comes
  | sealBridge _ ih => exact hnext ih comes_sealBridge
  | settle _ ih => exact hnext ih comes_settle
  | shutdown _ ih =>
      exact hnext ih fun h =>
        have hstopped := Happens.allStopped.comes
        hstopped.trans (comes_settle (hstopped.lively h))

/-- Every actor that is not gone has come to where it is by a run from its creation. -/
theorem Reached.lived (h : s.Reached) (hp : p ∈ s.performers) (hthere : p.isGone = false) :
    p.actor.Lived := by
  rcases h.comes with ⟨config, transport, isVirtual, hcomes⟩
  rcases List.mem_iff_getElem?.mp hp with ⟨i, hi⟩
  exact (hcomes.lively (lively_create config transport isVirtual) i p hi hthere).lived

end System
end Troupe
