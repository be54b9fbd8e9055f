import Troupe.Proofs.Actor.Steps
import Troupe.Proofs.Property.Writes
import Troupe.Proofs.Timer.Tables

/-!
# What becomes of an envelope

An envelope that the receive loop has taken meets one of six fates.  The fire of a timer of
the actor's own is told to the program, or ignored if the timer counts no more; a write is
made and told to the program, or refused; and anything else goes to the earliest handler for
the type of its message, or is discarded if there is none.  Types are told apart by more than
their ids, so it never goes to a handler for another type with the same id.

The statistics follow the fate, and what the program then makes of the envelope adds to the
failures alone.
-/

namespace Troupe
namespace Handlers

variable {α : Type} {handlers : Handlers α} {env : Envelope} {handler : α}

/-- The handler is bound to the type, and none before it is. -/
def Earliest (handlers : Handlers α) (type : MessageType) (handler : α) : Prop :=
  exists before after : Handlers α, handlers = before ++ (type, handler) :: after ∧
    forall other : MessageType × α, other ∈ before -> other.1 ≠ type

def Lacks (handlers : Handlers α) (type : MessageType) : Prop :=
  forall other : MessageType × α, other ∈ handlers -> other.1 ≠ type

theorem accepts_iff {binding : MessageType × α} :
    accepts env binding = true <-> binding.1 = env.message.type := by
  unfold accepts
  rw [Bool.and_eq_true, beq_iff_eq, Envelope.holds_iff]
  constructor
  · intro h
    exact h.right.symm
  · intro h
    rw [h]
    exact ⟨rfl, rfl⟩

theorem select?_eq_some_iff :
    handlers.select? env = some handler <-> handlers.Earliest env.message.type handler := by
  unfold select? Earliest
  rw [Option.map_eq_some_iff]
  constructor
  · rintro ⟨⟨type, handler⟩, hfound, rfl⟩
    rcases List.find?_eq_some_iff_append.mp hfound with
      ⟨haccepts, before, after, hsplit, hbefore⟩
    obtain rfl : type = env.message.type := accepts_iff.mp haccepts
    refine ⟨before, after, hsplit, fun other hmem htype => ?_⟩
    have hrefused := hbefore other hmem
    rw [accepts_iff.mpr htype] at hrefused
    cases hrefused
  · rintro ⟨before, after, hsplit, hbefore⟩
    refine ⟨(env.message.type, handler), ?_, rfl⟩
    refine List.find?_eq_some_iff_append.mpr ⟨accepts_iff.mpr rfl, before, after, hsplit, ?_⟩
    intro other hmem
    rw [Bool.not_eq_true', Bool.eq_false_iff, ne_eq, accepts_iff]
    exact hbefore other hmem

theorem select?_eq_none_iff :
    handlers.select? env = none <-> handlers.Lacks env.message.type := by
  unfold select? Lacks
  rw [Option.map_eq_none_iff, List.find?_eq_none]
  constructor
  · intro h other hmem htype
    exact h other hmem (accepts_iff.mpr htype)
  · intro h other hmem haccepts
    exact h other hmem (accepts_iff.mp haccepts)

end Handlers

namespace Actor

variable {α : Type} {a : Actor α} {env : Envelope}

/-!
## Fates
-/

/-- What becomes of an envelope.  A fire is told to the program or ignored; a write is made
and then told, with the earlier values, or refused; a message is handled or discarded. -/
inductive Fate (α : Type) where
  | told (timer : TimerHandle)
  | ignored
  | written (previous : List (String × Tree))
  | refused
  | handled (handler : α)
  | discarded

namespace Fate

def hook? (message : Message) : Fate α -> Option (Hook α)
  | told timer => some (Hook.timer timer)
  | written previous => some (Hook.props previous)
  | handled handler => some (Hook.message handler message)
  | _ => none

def counted (stats : ActorStats) : Fate α -> ActorStats
  | ignored => stats
  | refused => { stats with delivered := stats.delivered + 1, failed := stats.failed + 1 }
  | discarded => { stats with unmatched := stats.unmatched + 1 }
  | _ => { stats with delivered := stats.delivered + 1 }

theorem eq_of_same {message : Message} {stats : ActorStats} {fate other : Fate α}
    (hhook : fate.hook? message = other.hook? message)
    (hcounted : fate.counted stats = other.counted stats) : fate = other := by
  rcases stats with ⟨delivered, unmatched, failed, discarded, dropped, startupError⟩
  cases fate <;> cases other <;> simp_all [hook?, counted]

theorem forEnvelope {message : Message} {fate : Fate α} {hook : Hook α}
    (h : fate.hook? message = some hook) : hook.forEnvelope = true := by
  cases fate <;> cases h <;> rfl

end Fate

def OwnFire (a : Actor α) (env : Envelope) (timer : TimerHandle) : Prop :=
  env.message = Message.timerFired timer ∧ env.sender = some a.ref.id

/-- The envelope is for the handlers: it holds neither a write nor a fire of the actor's own. -/
def ForHandlers (a : Actor α) (env : Envelope) : Prop :=
  (forall (topic : String) (payload : Tree), env.message ≠ Message.setProps topic payload) ∧
    forall timer : TimerHandle, ¬ a.OwnFire env timer

/-- Which envelopes meet which fate.  A fire counts while its timer is armed, or has fired
without being cancelled since. -/
inductive Meets (a : Actor α) (env : Envelope) : Fate α -> Prop where
  | told {timer : TimerHandle} : a.OwnFire env timer ->
      timer ∈ a.timers.fired ∨ timer ∈ a.timers.armedHandles -> Meets a env (Fate.told timer)
  | ignored {timer : TimerHandle} : a.OwnFire env timer ->
      ¬ (timer ∈ a.timers.fired ∨ timer ∈ a.timers.armedHandles) -> Meets a env Fate.ignored
  | written {topic : String} {payload : Tree} {previous : List (String × Tree)} :
      env.message = Message.setProps topic payload ->
        (a.props.apply a.ref.name payload).1 = .ok previous -> Meets a env (Fate.written previous)
  | refused {topic : String} {payload : Tree} {error : ActorError} :
      env.message = Message.setProps topic payload ->
        (a.props.apply a.ref.name payload).1 = .error error -> Meets a env Fate.refused
  | handled {handler : α} : a.ForHandlers env ->
      a.handlers.Earliest env.message.type handler -> Meets a env (Fate.handled handler)
  | discarded : a.ForHandlers env -> a.handlers.Lacks env.message.type -> Meets a env Fate.discarded

theorem exists_meets (a : Actor α) (env : Envelope) : exists fate : Fate α, a.Meets env fate := by
  have hhandlers : a.ForHandlers env -> exists fate : Fate α, a.Meets env fate := by
    intro hfor
    cases hselect : Handlers.select? a.handlers env with
    | some handler => exact ⟨_, Meets.handled hfor (Handlers.select?_eq_some_iff.mp hselect)⟩
    | none => exact ⟨_, Meets.discarded hfor (Handlers.select?_eq_none_iff.mp hselect)⟩
  cases hmessage : env.message with
  | timerFired timer =>
      by_cases hown : env.sender = some a.ref.id
      · by_cases haccepts : timer ∈ a.timers.fired ∨ timer ∈ a.timers.armedHandles
        · exact ⟨_, Meets.told ⟨hmessage, hown⟩ haccepts⟩
        · exact ⟨_, Meets.ignored ⟨hmessage, hown⟩ haccepts⟩
      · refine hhandlers ⟨fun topic payload => ?_, fun other hfire => hown hfire.right⟩
        rw [hmessage]
        nofun
  | setProps topic payload =>
      cases happly : (a.props.apply a.ref.name payload).1 with
      | ok previous => exact ⟨_, Meets.written hmessage happly⟩
      | error error => exact ⟨_, Meets.refused hmessage happly⟩
  | raw topic payload =>
      refine hhandlers ⟨fun _ _ => ?_, fun _ hfire => ?_⟩
      · rw [hmessage]
        nofun
      · cases hmessage.symm.trans hfire.left
  | defined label name body =>
      refine hhandlers ⟨fun _ _ => ?_, fun _ hfire => ?_⟩
      · rw [hmessage]
        nofun
      · cases hmessage.symm.trans hfire.left

/-!
## Opening
-/

theorem openEnvelope_ownFire {timer : TimerHandle} (h : a.OwnFire env timer) :
    a.openEnvelope env = a.openFire timer := by
  simp [openEnvelope, h.left, h.right]

theorem openEnvelope_forHandlers (h : a.ForHandlers env) :
    a.openEnvelope env = a.openMessage env := by
  unfold openEnvelope
  split
  · next timer hmessage =>
      rw [if_neg]
      exact fun hown => h.right timer ⟨hmessage, hown⟩
  · next topic payload hmessage => exact absurd hmessage (h.left topic payload)
  · rfl

theorem openFire_told {timer : TimerHandle}
    (h : timer ∈ a.timers.fired ∨ timer ∈ a.timers.armedHandles) :
    (a.openFire timer).hook = some (Hook.timer timer) ∧
      (a.openFire timer).stats = a.countDelivered.stats := by
  unfold openFire
  rcases hfire : a.timers.acceptFire timer with ⟨_ | _, timers⟩
  · have htrue := Timers.acceptFire_iff.mpr h
    rw [hfire] at htrue
    cases htrue
  · exact ⟨rfl, rfl⟩

theorem openFire_ignored {timer : TimerHandle}
    (h : ¬ (timer ∈ a.timers.fired ∨ timer ∈ a.timers.armedHandles)) :
    (a.openFire timer).hook = a.hook ∧ (a.openFire timer).stats = a.stats := by
  unfold openFire
  rcases hfire : a.timers.acceptFire timer with ⟨_ | _, timers⟩
  · exact ⟨rfl, rfl⟩
  · exact absurd (Timers.acceptFire_iff.mp (congrArg Prod.fst hfire)) h

theorem openWrite_ok {payload : Tree} {previous : List (String × Tree)}
    (h : (a.props.apply a.ref.name payload).1 = .ok previous) :
    (a.openWrite payload).hook = some (Hook.props previous) ∧
      (a.openWrite payload).stats = a.countDelivered.stats := by
  unfold openWrite
  rcases hwrite : a.countDelivered.props.apply a.countDelivered.ref.name payload with
    ⟨error | written, props⟩
  · cases (congrArg Prod.fst hwrite).symm.trans h
  · cases (congrArg Prod.fst hwrite).symm.trans h
    simp only [hwrite]
    exact ⟨rfl, rfl⟩

theorem openWrite_error {payload : Tree} {error : ActorError}
    (h : (a.props.apply a.ref.name payload).1 = .error error) :
    (a.openWrite payload).hook = a.hook ∧
      (a.openWrite payload).stats = a.countDelivered.countFailed.stats := by
  unfold openWrite
  rcases hwrite : a.countDelivered.props.apply a.countDelivered.ref.name payload with
    ⟨refusal | previous, props⟩
  · simp only [hwrite]
    exact ⟨rfl, rfl⟩
  · cases (congrArg Prod.fst hwrite).symm.trans h

/-- The fate of an envelope shows in the hook and the statistics. -/
theorem Meets.opened {fate : Fate α} (h : a.Meets env fate) (hfree : a.hook = none) :
    (a.openEnvelope env).hook = fate.hook? env.message ∧
      (a.openEnvelope env).stats = fate.counted a.stats := by
  cases h with
  | told hown haccepts =>
      rw [openEnvelope_ownFire hown]
      exact openFire_told haccepts
  | ignored hown hrefuses =>
      rw [openEnvelope_ownFire hown]
      rcases openFire_ignored hrefuses with ⟨hhook, hstats⟩
      exact ⟨hhook.trans hfree, hstats⟩
  | written hmessage happly =>
      rw [openEnvelope_write hmessage]
      exact openWrite_ok happly
  | refused hmessage happly =>
      rw [openEnvelope_write hmessage]
      rcases openWrite_error happly with ⟨hhook, hstats⟩
      exact ⟨hhook.trans hfree, hstats⟩
  | handled hfor hearliest =>
      rw [openEnvelope_forHandlers hfor, openMessage, Handlers.select?_eq_some_iff.mpr hearliest]
      exact ⟨rfl, rfl⟩
  | discarded hfor hlacks =>
      rw [openEnvelope_forHandlers hfor, openMessage, Handlers.select?_eq_none_iff.mpr hlacks]
      exact ⟨hfree, rfl⟩

def propsAfter (a : Actor α) (env : Envelope) : Props :=
  match env.message with
  | Message.setProps _ payload => (a.props.apply a.ref.name payload).2
  | _ => a.props

theorem props_openFire (a : Actor α) (timer : TimerHandle) :
    (a.openFire timer).props = a.props := by
  unfold openFire
  split <;> rfl

theorem props_openMessage (a : Actor α) (env : Envelope) :
    (a.openMessage env).props = a.props := by
  unfold openMessage
  split <;> rfl

theorem props_openWrite (a : Actor α) (payload : Tree) :
    (a.openWrite payload).props = (a.props.apply a.ref.name payload).2 := by
  unfold openWrite
  rcases hwrite : a.countDelivered.props.apply a.countDelivered.ref.name payload with
    ⟨error | previous, props⟩ <;>
  · simp only [hwrite]
    exact (congrArg Prod.snd hwrite).symm

theorem props_openEnvelope (a : Actor α) (env : Envelope) :
    (a.openEnvelope env).props = a.propsAfter env := by
  unfold openEnvelope propsAfter
  cases env.message with
  | timerFired timer =>
      simp only
      split
      · exact props_openFire a timer
      · exact props_openMessage a env
  | setProps topic payload => exact props_openWrite a payload
  | _ => exact props_openMessage a env

theorem Meets.unique {fate other : Fate α} (h : a.Meets env fate) (hother : a.Meets env other)
    (hfree : a.hook = none) : other = fate := by
  rcases h.opened hfree with ⟨hhook, hstats⟩
  rcases hother.opened hfree with ⟨hotherHook, hotherStats⟩
  exact Fate.eq_of_same (hotherHook.symm.trans hhook) (hotherStats.symm.trans hstats)

theorem Meets.withAgenda {fate : Fate α} (h : a.Meets env fate) (agenda : List (Duty α)) :
    { a with agenda := agenda }.Meets env fate := by
  cases h with
  | told hown haccepts => exact Meets.told hown haccepts
  | ignored hown hrefuses => exact Meets.ignored hown hrefuses
  | written hmessage happly => exact Meets.written hmessage happly
  | refused hmessage happly => exact Meets.refused hmessage happly
  | handled hfor hearliest => exact Meets.handled hfor hearliest
  | discarded hfor hlacks => exact Meets.discarded hfor hlacks

theorem stats_conclude {hook : Hook α} (bridge : Bridge) (result : Except ActorError Unit)
    (hhook : a.hook = some hook) (hturn : hook.forEnvelope = true) :
    (a.conclude bridge result).1.stats =
      { a.stats with failed := a.stats.failed + if result.isOk then 0 else 1 } := by
  have hend := conclusion bridge result hhook
  generalize (a.conclude bridge result).1 = b at hend
  cases hend with
  | succeeded => rfl
  | failed => rfl
  | started => cases hturn
  | startFailed => cases hturn
  | stopped => cases hturn

/-- Each envelope has one fate, and the actor's next move, the statistics and the properties
follow it.  If the program is then called and returns an error, that is one more failure. -/
theorem envelopes_dispatched {rest : List (Duty α)} (hfree : a.hook = none)
    (hagenda : a.agenda = Duty.handle env :: rest) :
    exists (fate : Fate α) (b : Actor α),
      a.Meets env fate ∧ (forall other : Fate α, a.Meets env other -> other = fate) ∧
      a.advance = some b ∧ b.hook = fate.hook? env.message ∧ b.stats = fate.counted a.stats ∧
      b.props = a.propsAfter env ∧
      forall (hook : Hook α) (c : Actor α) (bridge : Bridge) (result : Except ActorError Unit),
        b.hook = some hook -> c.hook = some hook ->
          (c.conclude bridge result).1.stats =
            { c.stats with failed := c.stats.failed + if result.isOk then 0 else 1 } := by
  rcases exists_meets a env with ⟨fate, hmeets⟩
  rcases (hmeets.withAgenda rest).opened hfree with ⟨hhook, hstats⟩
  refine ⟨fate, { a with agenda := rest }.openEnvelope env, hmeets, ?_, ?_, hhook, hstats,
    props_openEnvelope _ env, ?_⟩
  · exact fun other hother => hmeets.unique hother hfree
  · unfold advance
    rw [hfree, hagenda]
    rfl
  · intro hook c bridge result hbegun hunderWay
    exact stats_conclude bridge result hunderWay (Fate.forEnvelope (hhook.symm.trans hbegun))

/-- A blink goes to the first of two handlers for blinks, past an earlier one for another type
of that name; when the handler fails, one delivery and one failure have been counted. -/
theorem envelopes_dispatched_same_name :
    let blink := MessageType.defined "Blink" "Blink"
    let impostor := MessageType.defined "Impostor" "Blink"
    let lamp : ActorRef :=
      { id := ActorId.ofNat 1, name := "lamp", enqueueTimeout := Duration.ofMillis 100 }
    let message := Message.defined "Blink" "Blink" Json.null
    let a : Actor Nat :=
      { Actor.create lamp "house" [(impostor, 0), (blink, 1), (blink, 2)] 8 with
        agenda := [Duty.handle (Envelope.ofMessage message)] }
    let counted := { ActorStats.zero with delivered := 1 }
    exists b : Actor Nat, a.advance = some b ∧ b.hook = some (Hook.message 1 message) ∧
      b.stats = counted ∧
      forall (bridge : Bridge) (error : ActorError),
        (b.conclude bridge (.error error)).1.stats = { counted with failed := 1 } := by
  intro blink impostor lamp message a counted
  rcases @envelopes_dispatched Nat a (Envelope.ofMessage message) [] rfl rfl with
    ⟨fate, b, -, hunique, hadvance, hhook, hstats, -, hconclude⟩
  have hfor : a.ForHandlers (Envelope.ofMessage message) :=
    ⟨fun _ _ => nofun, fun _ hfire => nomatch hfire.left⟩
  have hearliest : Handlers.Earliest a.handlers blink 1 :=
    ⟨[(impostor, 0)], [(blink, 2)], rfl, by decide⟩
  obtain rfl : Fate.handled 1 = fate := hunique _ (Meets.handled hfor hearliest)
  refine ⟨b, hadvance, hhook, hstats, fun bridge error => ?_⟩
  rw [hconclude _ b bridge (.error error) hhook hhook, hstats]
  rfl

end Actor
end Troupe
