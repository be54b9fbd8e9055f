import Troupe.Proofs.Actor.Dispatch
import Troupe.Proofs.Property.Typing

/-!
# Actors that keep their values typed

Whatever happens to an actor whose program keeps to its declarations, a value under a declared
name is one that the declared type admits, with one exception.  If the program removes a value,
a write from outside names it, and the program objects to the write, then a null is put back
where there was nothing.
-/

namespace Troupe
namespace Actor

variable {α : Type} {a b : Actor α} {blank : List String}

/-- The names that are left blank when a hook ends: those for which a write has remembered a
null, if it is undone. -/
def blanked (a : Actor α) (result : Except ActorError Unit) : List String :=
  match a.hook, result with
  | some (Hook.props previous), .error _ => Props.blanks previous
  | _, _ => []

/-- What happens to an actor whose program keeps to its declarations, with the names that are
left blank. -/
inductive Tending (a : Actor α) : List String -> Actor α -> Prop where
  | declare {initial : Handle} (bridge : Bridge) (info : PropertyInfo) :
      initial < a.props.store.size -> Tending a [] (a.declare bridge info initial).2.1
  | work {props : Props} : a.props.Tends props -> Tending a [] { a with props := props }
  | move {b : Actor α} :
      (forall (env : Envelope) (topic : String) (payload : Tree),
        Duty.handle env ∈ a.agenda -> env.message = Message.setProps topic payload ->
          payload.UniqueKeys) ->
        a.advance = some b -> Tending a [] b
  | conclude (bridge : Bridge) (result : Except ActorError Unit) :
      Tending a (a.blanked result) (a.conclude bridge result).1
  /-- What others do to the actor has nothing to do with its values. -/
  | outside (mailbox : Mailbox) (stopRequested : Bool) (stats : ActorStats) (timers : Timers) :
      Tending a []
        { a with mailbox := mailbox, stopRequested := stopRequested, stats := stats,
                 timers := timers }

inductive Tended (a : Actor α) : List String -> Actor α -> Prop where
  | start : Tended a [] a
  | step {blank more : List String} {b c : Actor α} :
      Tended a blank b -> Tending b more c -> Tended a (blank ++ more) c

/-!
## What is kept
-/

/-- The values are typed, and so will they be if a write under way is undone. -/
structure Keeps (blank : List String) (a : Actor α) : Prop where
  valid : a.props.Valid
  names : a.props.names.Nodup
  typed : a.props.Typed blank
  remembers : forall previous : List (String × Tree), a.hook = some (Hook.props previous) ->
    Tree.UniqueKeysEntries previous ∧
      forall entry : String × Tree, entry ∈ previous ->
        a.props.Suits (blank ++ Props.blanks previous) entry.1 entry.2
  begins : forall hook : Hook α, Duty.begin hook ∈ a.agenda -> hook.forEnvelope = false

theorem keeps_create (ref : ActorRef) (device : String) (handlers : Handlers α)
    (capacity : Nat) : Keeps [] (create ref device handlers capacity) := by
  constructor
  case valid => exact Props.valid_empty
  case names => exact List.nodup_nil
  case typed => exact fun _ _ _ _ hinfo => nomatch hinfo
  case remembers => nofun
  case begins =>
    intro hook hmem
    obtain rfl : hook = Hook.start := by simpa [create, startingUp] using hmem
    rfl

theorem Keeps.elsewhere (h : Keeps blank a) (hprops : b.props = a.props)
    (hhook : forall previous : List (String × Tree), b.hook = some (Hook.props previous) ->
      a.hook = some (Hook.props previous))
    (hbegins : forall hook : Hook α, Duty.begin hook ∈ b.agenda ->
      Duty.begin hook ∈ a.agenda ∨ hook.forEnvelope = false) : Keeps blank b := by
  constructor
  case valid => exact hprops ▸ h.valid
  case names => exact hprops ▸ h.names
  case typed => exact hprops ▸ h.typed
  case remembers =>
    intro previous hprevious
    rw [hprops]
    exact h.remembers previous (hhook previous hprevious)
  case begins =>
    intro hook hmem
    rcases hbegins hook hmem with hbefore | hother
    · exact h.begins hook hbefore
    · exact hother

theorem Keeps.work {props : Props} (h : Keeps blank a) (htends : a.props.Tends props) :
    Keeps blank { a with props := props } := by
  constructor
  case valid => exact htends.worked.valid h.valid
  case names =>
    rw [Props.names, htends.worked.declared]
    exact h.names
  case typed => exact h.typed.tends htends
  case remembers =>
    intro previous hprevious
    rcases h.remembers previous hprevious with ⟨hunique, hsuits⟩
    exact ⟨hunique, fun entry hmem => (hsuits entry hmem).of_declared htends.worked.declared⟩
  case begins => exact h.begins

/-!
## Declarations
-/

theorem declare_of_not_starting {initial : Handle} (h : a.isStarting = false) (bridge : Bridge)
    (info : PropertyInfo) :
    a.declare bridge info initial = (.error (ActorError.notStarting a.ref.name), a, bridge) := by
  simp [declare, checkDeclaration, h]

theorem typed_declare {initial : Handle} (htyped : a.props.Typed blank) (hp : a.props.Valid)
    (bridge : Bridge) (info : PropertyInfo) (hinitial : initial < a.props.store.size) :
    (a.declare bridge info initial).2.1.props.Typed blank := by
  have hdeclares := a.declares bridge info initial
  generalize a.declare bridge info initial = outcome at hdeclares
  cases hdeclares with
  | refused => exact htyped
  | unbound => exact htyped
  | unplaced _ _ hplaced =>
      rcases hp.insert_value hinitial info.name with ⟨error, hrefused⟩ | ⟨⟨old, hok⟩, -⟩
      · rw [hrefused]
        exact htyped
      · cases hplaced.symm.trans hok
  | declared hcheck _ hplaced =>
      rcases hp.insert_value hinitial info.name with ⟨error, hrefused⟩ | ⟨-, hself, hother⟩
      · rw [hrefused] at hplaced
        cases hplaced
      · rcases checkDeclaration_eq_ok_iff.mp hcheck with ⟨-, hunknown, hadmits⟩
        have hnew := Props.info?_eq_none hunknown
        intro name value hvalue other hmem hname
        rcases List.mem_append.mp hmem with hold | hlast
        · have hne : name ≠ info.name := by
            rintro rfl
            exact hnew (List.mem_map.mpr ⟨other, hold, hname⟩)
          exact htyped name value ((hother name hne).symm.trans hvalue) other hold hname
        · obtain rfl := List.mem_singleton.mp hlast
          obtain rfl : info.name = name := hname
          cases hself.symm.trans hvalue
          exact Or.inl hadmits

theorem kept_declare (a : Actor α) (bridge : Bridge) (info : PropertyInfo) (initial : Handle) :
    (a.declare bridge info initial).2.1.hook = a.hook ∧
      (a.declare bridge info initial).2.1.agenda = a.agenda := by
  have hdeclares := a.declares bridge info initial
  generalize a.declare bridge info initial = outcome at hdeclares
  cases hdeclares <;> exact ⟨rfl, rfl⟩

theorem Keeps.declare {initial : Handle} (h : Keeps blank a) (bridge : Bridge)
    (info : PropertyInfo) (hinitial : initial < a.props.store.size) :
    Keeps blank (a.declare bridge info initial).2.1 := by
  cases hstarting : a.isStarting with
  | false =>
      rw [declare_of_not_starting hstarting]
      exact h
  | true =>
      have hkept := a.kept_declare bridge info initial
      constructor
      case valid => exact Props.declare_valid h.valid hinitial bridge info
      case names => exact Props.declare_nodup h.names bridge info initial
      case typed => exact typed_declare h.typed h.valid bridge info hinitial
      case remembers =>
        intro previous hprevious
        rw [hkept.left] at hprevious
        rw [isStarting, hprevious] at hstarting
        cases hstarting
      case begins =>
        rw [hkept.right]
        exact h.begins

/-!
## Moves
-/

theorem hook_openEnvelope {env : Envelope} {previous : List (String × Tree)}
    (hfree : a.hook = none) (hhook : (a.openEnvelope env).hook = some (Hook.props previous)) :
    exists (topic : String) (payload : Tree), env.message = Message.setProps topic payload ∧
      (a.props.apply a.ref.name payload).1 = .ok previous := by
  rcases exists_meets a env with ⟨fate, hmeets⟩
  have hfate := (hmeets.opened hfree).left.symm.trans hhook
  cases hmeets with
  | written hmessage happly =>
      cases hfate
      exact ⟨_, _, hmessage, happly⟩
  | _ => cases hfate

theorem agenda_openEnvelope (env : Envelope) (hfree : a.hook = none) :
    (a.openEnvelope env).agenda = a.agenda := by
  have hopening := opening env hfree
  generalize a.dutyEvent? (Duty.handle env) = event? at hopening
  generalize a.openEnvelope env = b at hopening
  cases hopening <;> rfl

theorem Keeps.openEnvelope {env : Envelope} (h : Keeps blank a) (hfree : a.hook = none)
    (hunique : forall (topic : String) (payload : Tree),
      env.message = Message.setProps topic payload -> payload.UniqueKeys) :
    Keeps blank (a.openEnvelope env) := by
  have hprops : (a.openEnvelope env).props.Valid ∧
      (a.openEnvelope env).props.declared = a.props.declared ∧
      (a.openEnvelope env).props.Typed blank := by
    rw [props_openEnvelope]
    unfold propsAfter
    split
    · next topic payload hmessage =>
        have happlied := h.valid.apply a.ref.name (hunique topic payload hmessage)
        exact ⟨happlied.left, happlied.right,
          (h.typed.apply h.valid h.names a.ref.name (hunique topic payload hmessage)).left⟩
    · exact ⟨h.valid, rfl, h.typed⟩
  rcases hprops with ⟨hvalid, hdeclared, htyped⟩
  constructor
  case valid => exact hvalid
  case names =>
    rw [Props.names, hdeclared]
    exact h.names
  case typed => exact htyped
  case remembers =>
    intro previous hprevious
    rcases hook_openEnvelope hfree hprevious with ⟨topic, payload, hmessage, happly⟩
    rcases (h.typed.apply h.valid h.names a.ref.name (hunique topic payload hmessage)).right
      previous happly with ⟨htrees, hvalues⟩
    refine ⟨htrees, fun entry hmem => Props.Suits.of_declared ?_ hdeclared⟩
    exact h.typed.suits_remembered hmem (hvalues entry hmem).right
  case begins =>
    rw [agenda_openEnvelope env hfree]
    exact h.begins

theorem Keeps.look (h : Keeps blank a) : Keeps blank a.look := by
  unfold Actor.look
  refine h.elsewhere rfl (fun _ => id) fun hook hmem => ?_
  split at hmem
  · exact Or.inr (begins_windingDown hmem)
  · cases List.mem_singleton.mp hmem

theorem Keeps.take (h : Keeps blank a) : Keeps blank a.take := by
  unfold Actor.take
  split
  · refine h.elsewhere rfl (fun _ => id) fun hook hmem => ?_
    cases List.mem_singleton.mp hmem
  · exact h.elsewhere rfl (fun _ => id) fun hook hmem => Or.inr (begins_windingDown hmem)
  · refine h.elsewhere rfl (fun _ => id) fun hook hmem => ?_
    cases List.mem_singleton.mp hmem

theorem Keeps.carryOut {duty : Duty α} (h : Keeps blank a) (hfree : a.hook = none)
    (hbegins : forall hook : Hook α, duty = Duty.begin hook -> hook.forEnvelope = false)
    (hunique : forall (env : Envelope) (topic : String) (payload : Tree),
      duty = Duty.handle env -> env.message = Message.setProps topic payload ->
        payload.UniqueKeys) : Keeps blank (a.carryOut duty) := by
  cases duty with
  | begin hook =>
      refine h.elsewhere rfl (fun previous hprevious => ?_) fun _ => Or.inl
      cases hprevious
      cases hbegins _ rfl
  | handle env => exact h.openEnvelope hfree fun topic payload => hunique env topic payload rfl
  | take => exact h.take
  | _ => exact h.elsewhere rfl (fun _ => id) fun _ => Or.inl

theorem Keeps.advance (h : Keeps blank a)
    (hunique : forall (env : Envelope) (topic : String) (payload : Tree),
      Duty.handle env ∈ a.agenda -> env.message = Message.setProps topic payload ->
        payload.UniqueKeys) (hadvance : a.advance = some b) : Keeps blank b := by
  unfold Actor.advance at hadvance
  split at hadvance
  · cases hadvance
  · next duty rest hfree hagenda =>
      split at hadvance
      · cases hadvance
        have hfirst : duty ∈ a.agenda := hagenda ▸ List.mem_cons_self
        have hleft : Keeps blank { a with agenda := rest } :=
          h.elsewhere rfl (fun _ => id) fun hook hmem =>
            Or.inl (hagenda ▸ List.mem_cons_of_mem _ hmem)
        refine hleft.carryOut hfree (fun hook hduty => ?_) fun env topic payload hduty => ?_
        · exact h.begins hook (hduty ▸ hfirst)
        · exact hunique env topic payload (hduty ▸ hfirst)
      · cases hadvance
  · split at hadvance
    · cases hadvance
      exact h.look
    · cases hadvance

/-!
## The end of a hook
-/

theorem props_conclude_blanked (a : Actor α) (bridge : Bridge)
    (result : Except ActorError Unit) :
    (a.conclude bridge result).1.props = a.props ∨
      exists previous : List (String × Tree), a.hook = some (Hook.props previous) ∧
        a.blanked result = Props.blanks previous ∧
          (a.conclude bridge result).1.props = a.props.restore previous := by
  rcases props_conclude a bridge result with hkept | ⟨previous, hhook, hrestored⟩
  · exact Or.inl hkept
  · cases result with
    | ok =>
        left
        unfold conclude
        rw [hhook]
        simp only
        split <;> rfl
    | error error =>
        have hblank : a.blanked (.error error) = Props.blanks previous := by
          unfold blanked
          rw [hhook]
        exact Or.inr ⟨previous, hhook, hblank, hrestored⟩

theorem begin_mem_conclude {hook : Hook α} {bridge : Bridge} {result : Except ActorError Unit}
    (hmem : Duty.begin hook ∈ (a.conclude bridge result).1.agenda) :
    Duty.begin hook ∈ a.agenda := by
  cases hhook : a.hook with
  | none =>
      unfold conclude at hmem
      rw [hhook] at hmem
      exact hmem
  | some ended =>
      have hconclusion := conclusion bridge result hhook
      generalize (a.conclude bridge result).1 = b at hconclusion hmem
      cases hconclusion with
      | started => simp at hmem
      | startFailed => simp [givingUp] at hmem
      | stopped => simp at hmem
      | succeeded => exact hmem
      | failed => exact hmem

theorem Keeps.conclude (h : Keeps blank a) (bridge : Bridge) (result : Except ActorError Unit) :
    Keeps (blank ++ a.blanked result) (a.conclude bridge result).1 := by
  have hprops : (a.conclude bridge result).1.props.Valid ∧
      (a.conclude bridge result).1.props.declared = a.props.declared ∧
      (a.conclude bridge result).1.props.Typed (blank ++ a.blanked result) := by
    rcases props_conclude_blanked a bridge result with hkept | ⟨previous, hhook, hblank, hrestored⟩
    · rw [hkept]
      exact ⟨h.valid, rfl, h.typed.mono (List.subset_append_left _ _)⟩
    · rcases h.remembers previous hhook with ⟨htrees, hsuits⟩
      have hback := h.valid.restore htrees
      rw [hrestored, hblank]
      exact ⟨hback.valid, hback.declared,
        (h.typed.mono (List.subset_append_left _ _)).restore h.valid htrees hsuits⟩
  rcases hprops with ⟨hvalid, hdeclared, htyped⟩
  have hfree : (a.conclude bridge result).1.hook = none := hook_conclude a bridge result
  constructor
  case valid => exact hvalid
  case names =>
    rw [Props.names, hdeclared]
    exact h.names
  case typed => exact htyped
  case remembers =>
    intro previous hprevious
    cases hfree.symm.trans hprevious
  case begins => exact fun hook hmem => h.begins hook (begin_mem_conclude hmem)

/-!
## Runs
-/

theorem Keeps.step {more : List String} (h : Keeps blank a) (hstep : Tending a more b) :
    Keeps (blank ++ more) b := by
  cases hstep with
  | declare bridge info hinitial =>
      rw [List.append_nil]
      exact h.declare bridge info hinitial
  | work htends =>
      rw [List.append_nil]
      exact h.work htends
  | move hunique hadvance =>
      rw [List.append_nil]
      exact h.advance hunique hadvance
  | conclude bridge result => exact h.conclude bridge result
  | outside mailbox stopRequested stats timers =>
      rw [List.append_nil]
      exact h.elsewhere rfl (fun _ => id) fun _ => Or.inl

theorem Tended.keeps (h : Tended a blank b) (hkeeps : Keeps [] a) : Keeps blank b := by
  induction h with
  | start => exact hkeeps
  | step _ hstep ih => exact ih.step hstep

/-- A write remembers a null only for a name that is without a value, or blank already. -/
theorem Keeps.unvalued {env : Envelope} {previous : List (String × Tree)} {name : String}
    (h : Keeps blank a) (hfree : a.hook = none)
    (hunique : forall (topic : String) (payload : Tree),
      env.message = Message.setProps topic payload -> payload.UniqueKeys)
    (hhook : (a.openEnvelope env).hook = some (Hook.props previous))
    (hblank : name ∈ Props.blanks previous) :
    a.props.tree.get? (Key.field name) = none ∨
      a.props.tree.get? (Key.field name) = some Tree.null ∧ name ∈ blank := by
  rcases hook_openEnvelope hfree hhook with ⟨topic, payload, hmessage, happly⟩
  have hunique := hunique topic payload hmessage
  have hremembers := (h.typed.apply h.valid h.names a.ref.name hunique).right previous happly
  rcases hremembers.right _ (Props.mem_blanks_iff.mp hblank) with ⟨hname, hvalue⟩
  cases hfound : a.props.tree.get? (Key.field name) with
  | none => exact Or.inl rfl
  | some value =>
      obtain rfl : Tree.null = value := by
        rw [hfound] at hvalue
        exact hvalue
      rcases List.mem_map.mp hname with ⟨info, hinfo, hsame⟩
      rcases h.typed name Tree.null hfound info hinfo hsame with hadmits | ⟨-, hmem⟩
      · rw [Props.admits_null] at hadmits
        cases hadmits
      · exact Or.inr ⟨rfl, hmem⟩

/-- However an actor's properties have been declared, worked on, written and put back, a value
under a declared name is one that its type admits, or it is the null of a name left blank.
A write remembers that null, to be put back if the program objects, only for a name that is
without a value when the write is made, or blank already. -/
theorem values_admitted {ref : ActorRef} {device : String} {handlers : Handlers α}
    {capacity : Nat} (hrun : Tended (create ref device handlers capacity) blank b) :
    (forall (info : PropertyInfo) (value : Tree), info ∈ b.props.declared ->
      b.props.tree.get? (Key.field info.name) = some value ->
        info.type.admits value = true ∨ value = Tree.null ∧ info.name ∈ blank) ∧
    (forall (env : Envelope) (previous : List (String × Tree)), b.hook = none ->
      (forall (topic : String) (payload : Tree),
        env.message = Message.setProps topic payload -> payload.UniqueKeys) ->
        (b.openEnvelope env).hook = some (Hook.props previous) ->
          forall name : String, name ∈ Props.blanks previous ->
            b.props.tree.get? (Key.field name) = none ∨
              b.props.tree.get? (Key.field name) = some Tree.null ∧ name ∈ blank) := by
  have hkeeps : Keeps blank b := hrun.keeps (keeps_create ref device handlers capacity)
  refine ⟨fun info value hinfo hvalue => ?_, fun env previous hfree hunique hhook name hblank => ?_⟩
  · exact hkeeps.typed info.name value hvalue info hinfo rfl
  · exact hkeeps.unvalued hfree hunique hhook hblank

/-!
## A night light
-/

theorem Tended.next (h : Tended a blank b) {c : Actor α} (hmove : Tending b [] c) :
    Tended a blank c := by
  have hstep := Tended.step h hmove
  rwa [List.append_nil] at hstep

theorem Tended.open {env : Envelope} (h : Tended a blank b) (hfree : b.hook = none)
    (hidle : b.agenda = []) (hrunning : b.state = ActorState.running)
    (hgoing : b.stopRequested = false) (hempty : b.mailbox.queue = [])
    (hunique : forall (topic : String) (payload : Tree),
      env.message = Message.setProps topic payload -> payload.UniqueKeys) :
    Tended a blank (b.openEnvelope env) := by
  rcases b with ⟨ref, device, handlers, ⟨capacity, queue, closed⟩, state, stopRequested, stats,
    timers, props, hook, agenda⟩
  cases hfree
  cases hidle
  cases hrunning
  cases hgoing
  cases hempty
  have hsent := h.next (Tending.outside ⟨capacity, [env], closed⟩ false stats timers)
  have hlooked := hsent.next (Tending.move nofun rfl)
  have hnone : forall (other : Envelope), Duty.handle other ∉ [Duty.take (α := α)] := by simp
  have htaken := hlooked.next (Tending.move (fun other _ _ hmem => absurd hmem (hnone other)) rfl)
  refine htaken.next (Tending.move (fun other topic payload hmem => ?_) rfl)
  cases List.mem_singleton.mp hmem
  exact hunique topic payload

theorem Tended.started (h : Tended a blank b) (hhook : b.hook = some Hook.start)
    (bridge : Bridge) :
    Tended a blank { b with hook := none, state := ActorState.running, agenda := [] } := by
  have hended : (b.conclude bridge (.ok ())).1 =
      { b with hook := none, agenda := [Duty.publish ActorState.running] } := by
    unfold conclude
    rw [hhook]
  have hblank : b.blanked (.ok ()) = [] := by
    unfold blanked
    rw [hhook]
  have hconcluded := Tending.conclude (a := b) bridge (.ok ())
  rw [hended, hblank] at hconcluded
  refine (h.next hconcluded).next (Tending.move (fun env topic payload hmem => ?_) rfl)
  cases List.mem_singleton.mp hmem

def nightLightBorn : Actor Unit :=
  create { id := ActorId.ofNat 1, name := "lamp", enqueueTimeout := Duration.zero } "node" [] 1

/-- The night light starts up, and has made a one for the level that it is going to declare. -/
def nightLightStarting : Actor Unit :=
  let store := (nightLightBorn.props.store.thaw (Tree.integer 1)).2
  { nightLightBorn with
    state := ActorState.starting, hook := some Hook.start, agenda := []
    props := { nightLightBorn.props with store := store } }

def nightLightDeclared : Actor Unit :=
  (nightLightStarting.declare (Bridge.create Transport.null Format.cbor)
    (PropertyInfo.create "level" PropType.uint PropMode.readWrite "") 1).2.1

def nightLight : Actor Unit :=
  { nightLightDeclared with hook := none, state := ActorState.running, agenda := [] }

theorem nightLight_tended : Tended nightLightBorn [] nightLight := by
  let waking : Actor Unit :=
    { nightLightBorn with state := ActorState.starting, agenda := [Duty.begin Hook.start] }
  let begun : Actor Unit :=
    { nightLightBorn with state := ActorState.starting, hook := some Hook.start, agenda := [] }
  have hwaking : Tending nightLightBorn [] waking :=
    Tending.move (by simp [nightLightBorn, create, startingUp]) rfl
  have hbegun : Tending waking [] begun := Tending.move (by simp [waking]) rfl
  have hunique : (Tree.integer 1).UniqueKeys := trivial
  have hmade : Tending begun [] nightLightStarting :=
    Tending.work ((Props.Minds.start.make hunique).tends Props.valid_empty)
  have hdeclared : Tending nightLightStarting [] nightLightDeclared :=
    Tending.declare _ _ (by decide)
  have hhook : nightLightDeclared.hook = some Hook.start :=
    (kept_declare nightLightStarting _ _ _).left
  have hstarting := ((Tended.start.next hwaking).next hbegun).next hmade
  exact (hstarting.next hdeclared).started hhook (Bridge.create Transport.null Format.cbor)

def dimming : Envelope :=
  Envelope.ofMessage (Message.setProps "node/lamp/set" (Tree.map [("level", Tree.integer 2)]))

def undimmed (a : Actor α) : Actor α :=
  ((a.openEnvelope dimming).conclude (Bridge.create Transport.null Format.cbor)
    (.error (ActorError.handler "no"))).1

theorem Tended.undimmed (h : Tended a [] b) (hfree : b.hook = none) (hidle : b.agenda = [])
    (hrunning : b.state = ActorState.running) (hgoing : b.stopRequested = false)
    (hempty : b.mailbox.queue = []) :
    Tended a ((b.openEnvelope dimming).blanked (.error (ActorError.handler "no"))) b.undimmed := by
  have hopened : Tended a [] (b.openEnvelope dimming) := by
    refine h.open hfree hidle hrunning hgoing hempty fun topic payload hdim => ?_
    cases hdim
    simp [Tree.UniqueKeys, Tree.UniqueKeysEntries, Entries.Unique, Entries.keys]
  exact hopened.step (Tending.conclude _ _)

/-- The night light is dimmed and objects; it has got its level back, which is one. -/
theorem values_admitted_undimmed :
    Tended nightLightBorn [] nightLight.undimmed ∧
      nightLight.undimmed.props.tree.get? (Key.field "level") = some (Tree.integer 1) ∧
      PropType.uint.admits (Tree.integer 1) = true := by
  have hblank : (nightLight.openEnvelope dimming).blanked
      (.error (ActorError.handler "no")) = [] := by decide
  have hrun : Tended nightLightBorn [] nightLight.undimmed := by
    rw [<- hblank]
    exact nightLight_tended.undimmed rfl rfl rfl rfl rfl
  have hvalue : nightLight.undimmed.props.tree.get? (Key.field "level") =
      some (Tree.integer 1) := by decide
  have hinfo : PropertyInfo.create "level" PropType.uint PropMode.readWrite "" ∈
      nightLight.undimmed.props.declared := by decide
  rcases (values_admitted hrun).left _ _ hinfo hvalue with hadmits | ⟨-, hmem⟩
  · exact ⟨hrun, hvalue, hadmits⟩
  · cases hmem

/-- The level of the night light is removed before it is dimmed and objects, and a null is put
back, which is no level. -/
theorem rollback_leaves_null :
    let store := (nightLight.props.store.remove nightLight.props.root (Key.field "level")).2
    let dark := { nightLight with props := { nightLight.props with store := store } }
    Tended nightLightBorn ["level"] dark.undimmed ∧
      PropertyInfo.create "level" PropType.uint PropMode.readWrite "" ∈
        dark.undimmed.props.declared ∧
      dark.undimmed.props.tree.get? (Key.field "level") = some Tree.null ∧
      PropType.uint.admits Tree.null = false := by
  intro store dark
  have hvalid : nightLight.props.Valid :=
    (nightLight_tended.keeps (keeps_create _ _ _ _)).valid
  have hdark : Tended nightLightBorn [] dark :=
    nightLight_tended.next (Tending.work ((Props.Minds.start.remove "level").tends hvalid))
  have hblank : (dark.openEnvelope dimming).blanked (.error (ActorError.handler "no")) =
      ["level"] := by decide
  refine ⟨?_, by decide, by decide, rfl⟩
  rw [<- hblank]
  exact hdark.undimmed rfl rfl rfl rfl rfl

end Actor
end Troupe
