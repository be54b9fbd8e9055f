import Troupe.Proofs.Actor.Declarations
import Troupe.Proofs.Property.Values

/-!
# Refused declarations

A declaration that is refused leaves the actor as it was, with its table of properties and
its values.  It leaves the bridge as it was too, unless it strays: the first writable
property binds the actor to the topic of its writes before the value is placed, and when
the values then refuse to hold it, the binding stays.

However many declarations an actor makes, it is therefore bound once for each of them that
strayed, and once more when it gets its first writable property.  Ids count the declarations
that went through.
-/

namespace Troupe

/-- Values refuse to hold another one under a name if they are that one or lie below it, or if
they are no map and cannot become one. -/
def Props.Refuses (p : Props) (value : Handle) : Prop :=
  p.store.reaches value p.root = true ∨
    p.store.node p.root ≠ Node.null ∧
      forall entries : Entries Handle, p.store.node p.root ≠ Node.map entries

namespace Props

variable {p : Props}

theorem insert_cases (p : Props) (name : String) (value : Handle) :
    p.Refuses value ∧
        (exists fault : ValueError, p.insert name value = (.error (ActorError.value fault), p)) ∨
      ¬ p.Refuses value ∧
        exists (old : Option Handle) (store : Store),
          p.insert name value = (.ok old, { p with store := store }) := by
  unfold Refuses Props.insert Store.insert
  by_cases hreaches : p.store.reaches value p.root = true
  · rw [if_pos hreaches]
    exact Or.inl ⟨Or.inl hreaches, _, rfl⟩
  · rw [if_neg hreaches]
    cases hnode : p.store.node p.root with
    | null => exact Or.inr ⟨by simp [hreaches], _, _, rfl⟩
    | map entries => exact Or.inr ⟨by simp [hreaches], _, _, rfl⟩
    | _ => exact Or.inl ⟨Or.inr ⟨nofun, nofun⟩, _, rfl⟩

/-- Values that are a map, or nothing yet, hold a fresh copy of any tree. -/
theorem Valid.not_refuses_thawed (hp : p.Valid) {t : Tree} (ht : t.UniqueKeys)
    (hmap : p.store.node p.root = Node.null ∨
      exists entries : Entries Handle, p.store.node p.root = Node.map entries) :
    ¬ { p with store := (p.store.thaw t).2 }.Refuses (p.store.thaw t).1 := by
  have hmade := Store.yields_thaw hp.sound ht
  have hroot := hmade.grows.node_eq p.root hp.root
  unfold Refuses
  rw [hmade.sound.reaches_iff hmade.valid, hroot, not_or]
  refine ⟨hp.not_reach_thawed ht, ?_⟩
  rcases hmap with hnull | ⟨entries, hentries⟩
  · exact fun hneither => hneither.left hnull
  · exact fun hneither => hneither.right entries hentries

end Props

namespace Actor

variable {α : Type} {a a' : Actor α} {bridge bridge' : Bridge} {info : PropertyInfo}
variable {initial : Handle} {strays : Nat}

/-- The declaration is the first one of a writable property that nothing speaks against, so
the actor gets bound, and then its values refuse the initial one. -/
structure Strays (a : Actor α) (bridge : Bridge) (info : PropertyInfo) (initial : Handle) :
    Prop where
  checked : a.checkDeclaration info (a.props.store.freeze initial) = .ok ()
  first : (info.mode.writable && !a.props.anyWritable) = true
  bound :
    exists bridge' : Bridge, bridge.bind (a.topic "set") a.ref Reading.setProps = .ok bridge'
  refused : a.props.Refuses initial

/-- Whether a binding hands the actor the writes of its own properties. -/
def takesWrites (a : Actor α) (binding : Binding) : Bool :=
  match binding.reading with
  | Reading.setProps => binding.target == a.ref && binding.pattern.text == a.topic "set"
  | _ => false

def writeBindings (a : Actor α) (bridge : Bridge) : Nat :=
  bridge.bindings.countP a.takesWrites

theorem OwnWrites.takesWrites {binding : Binding} (h : a.OwnWrites binding) :
    a.takesWrites binding = true := by
  have htext : binding.pattern.text = a.topic "set" := by
    have hpattern := h.pattern
    unfold TopicPattern.parse at hpattern
    split at hpattern
    · cases hpattern
    · split at hpattern
      · cases hpattern
      · rw [<- Except.ok.inj hpattern]
  unfold Actor.takesWrites
  rw [h.reading, h.target, htext]
  simp

theorem writeBindings_append (bridge : Bridge) {added : List Binding}
    (hown : forall binding : Binding, binding ∈ added -> a.OwnWrites binding) :
    a.writeBindings { bridge with bindings := bridge.bindings ++ added } =
      a.writeBindings bridge + added.length := by
  have hall : added.countP a.takesWrites = added.length :=
    List.countP_eq_length.mpr fun binding hmem => (hown binding hmem).takesWrites
  unfold writeBindings
  rw [List.countP_append, hall]

/-!
## One declaration
-/

inductive Settles (a : Actor α) (bridge : Bridge) (info : PropertyInfo) (initial : Handle) :
    Except ActorError Unit × Actor α × Bridge -> Prop where
  | kept {error : ActorError} :
      ¬ a.Strays bridge info initial -> Settles a bridge info initial (.error error, a, bridge)
  | strayed {fault : ValueError} {binding : Binding} :
      a.Strays bridge info initial -> a.OwnWrites binding ->
        Settles a bridge info initial
          (.error (ActorError.value fault), a,
            { bridge with bindings := bridge.bindings ++ [binding] })
  | declared {store : Store} {added : List Binding} :
      ¬ a.Strays bridge info initial ->
        (added.length = if info.mode.writable && !a.props.anyWritable then 1 else 0) ->
          (forall binding : Binding, binding ∈ added -> a.OwnWrites binding) ->
            Settles a bridge info initial
              (.ok (),
                { a with
                  props :=
                    { a.props with
                      store := store
                      declared := a.props.declared ++
                        [{ info with id := UInt32.ofNat a.props.declared.length }] } },
                { bridge with bindings := bridge.bindings ++ added })

theorem settles (a : Actor α) (bridge : Bridge) (info : PropertyInfo) (initial : Handle) :
    Settles a bridge info initial (a.declare bridge info initial) := by
  have hdeclares := a.declares bridge info initial
  generalize a.declare bridge info initial = outcome at hdeclares
  cases hdeclares with
  | refused hcheck =>
      refine Settles.kept fun hstrays => ?_
      rw [hstrays.checked] at hcheck
      cases hcheck
  | unbound _ hbind =>
      refine Settles.kept fun hstrays => ?_
      rcases hstrays.bound with ⟨bridge', hbound⟩
      rw [bindWrites_of_first hstrays.first, hbound] at hbind
      cases hbind
  | unplaced hcheck hbind hplaced =>
      rcases a.props.insert_cases info.name initial with
        ⟨hrefuses, fault, hinsert⟩ | ⟨-, old, store, hinsert⟩
      · rw [hinsert] at hplaced ⊢
        cases hplaced
        cases hfirst : info.mode.writable && !a.props.anyWritable with
        | false =>
            rw [bindWrites_of_later hfirst] at hbind
            cases hbind
            refine Settles.kept fun hstrays => ?_
            rw [hstrays.first] at hfirst
            cases hfirst
        | true =>
            rcases bindWrites_cases hbind with ⟨hlater, -⟩ | ⟨binding, hown, hadded⟩
            · rw [hfirst] at hlater
              cases hlater
            · rw [hadded]
              rw [bindWrites_of_first hfirst] at hbind
              exact Settles.strayed ⟨hcheck, hfirst, ⟨_, hbind⟩, hrefuses⟩ hown
      · rw [hinsert] at hplaced
        cases hplaced
  | declared hcheck hbind hplaced =>
      rcases a.props.insert_cases info.name initial with
        ⟨hrefuses, fault, hinsert⟩ | ⟨haccepts, old, store, hinsert⟩
      · rw [hinsert] at hplaced
        cases hplaced
      · rcases bindWrites_added hbind with ⟨added, hadded, hlength, hown⟩
        rw [hinsert, hadded]
        exact Settles.declared (fun hstrays => haccepts hstrays.refused) hlength hown

theorem Strays.declare (h : a.Strays bridge info initial) :
    exists (fault : ValueError) (binding : Binding), a.OwnWrites binding ∧
      a.declare bridge info initial =
        (.error (ActorError.value fault), a,
          { bridge with bindings := bridge.bindings ++ [binding] }) := by
  have hsettles := a.settles bridge info initial
  generalize a.declare bridge info initial = outcome at hsettles
  cases hsettles with
  | kept hkept => exact absurd h hkept
  | strayed _ hown => exact ⟨_, _, hown, rfl⟩
  | declared hkept => exact absurd h hkept

/-!
## Many declarations
-/

/-- What comes of an actor and the bridge by declarations, with the number of those that
strayed.  Meanwhile the program may do anything with its values, and everybody anything with
the bridge that does not bind the actor to its writes. -/
inductive Declaring (a : Actor α) (bridge : Bridge) : Nat -> Actor α -> Bridge -> Prop where
  | start : Declaring a bridge 0 a bridge
  | meanwhile {strays : Nat} {a' : Actor α} {bridge' bridge'' : Bridge} (store : Store) :
      Declaring a bridge strays a' bridge' ->
        a.writeBindings bridge'' = a.writeBindings bridge' ->
          Declaring a bridge strays { a' with props := { a'.props with store := store } }
            bridge''
  | declare {strays : Nat} {a' : Actor α} {bridge' : Bridge} (info : PropertyInfo)
      (initial : Handle) :
      Declaring a bridge strays a' bridge' -> ¬ a'.Strays bridge' info initial ->
        Declaring a bridge strays (a'.declare bridge' info initial).2.1
          (a'.declare bridge' info initial).2.2
  | stray {strays : Nat} {a' : Actor α} {bridge' : Bridge} (info : PropertyInfo)
      (initial : Handle) :
      Declaring a bridge strays a' bridge' -> a'.Strays bridge' info initial ->
        Declaring a bridge (strays + 1) (a'.declare bridge' info initial).2.1
          (a'.declare bridge' info initial).2.2

/-- What holds after declarations.  Ids go on counting from the properties there were, and
the actor has been bound for each declaration that strayed, and once if it has got its first
writable property. -/
structure Settled (a : Actor α) (bridge : Bridge) (strays : Nat) (a' : Actor α)
    (bridge' : Bridge) : Prop where
  ref : a'.ref = a.ref
  device : a'.device = a.device
  declared :
    exists added : List PropertyInfo,
      a'.props.declared = a.props.declared ++ added ∧
        (added.map fun info => info.id) =
          (List.range' a.props.declared.length added.length).map UInt32.ofNat
  bindings :
    a.writeBindings bridge' =
      a.writeBindings bridge + strays +
        if a.props.anyWritable then 0 else if a'.props.anyWritable then 1 else 0

theorem settled_start (a : Actor α) (bridge : Bridge) : Settled a bridge 0 a bridge := by
  constructor
  case ref => rfl
  case device => rfl
  case declared => exact ⟨[], (List.append_nil _).symm, rfl⟩
  case bindings => cases a.props.anyWritable <;> rfl

theorem anyWritable_of_settled (h : Settled a bridge strays a' bridge')
    (hwritable : a.props.anyWritable = true) : a'.props.anyWritable = true := by
  rcases h.declared with ⟨added, hdeclared, -⟩
  unfold Props.anyWritable at hwritable ⊢
  rw [hdeclared, List.any_append, hwritable, Bool.true_or]

theorem Settled.meanwhile {bridge'' : Bridge} (h : Settled a bridge strays a' bridge')
    (store : Store) (hbindings : a.writeBindings bridge'' = a.writeBindings bridge') :
    Settled a bridge strays { a' with props := { a'.props with store := store } } bridge'' := by
  constructor
  case ref => exact h.ref
  case device => exact h.device
  case declared => exact h.declared
  case bindings => exact hbindings.trans h.bindings

theorem Settled.ownWrites (h : Settled a bridge strays a' bridge') {binding : Binding}
    (hown : a'.OwnWrites binding) : a.OwnWrites binding := by
  have htopic : a'.topic "set" = a.topic "set" := by
    unfold topic
    rw [h.ref, h.device]
  constructor
  case pattern => rw [<- htopic, hown.pattern]
  case target => rw [<- h.ref, hown.target]
  case reading => exact hown.reading

theorem Settled.stray (h : Settled a bridge strays a' bridge') {binding : Binding}
    (hown : a'.OwnWrites binding) :
    Settled a bridge (strays + 1) a'
      { bridge' with bindings := bridge'.bindings ++ [binding] } := by
  have hadded : forall other : Binding, other ∈ [binding] -> a.OwnWrites other := by
    intro other hmem
    rw [List.mem_singleton.mp hmem]
    exact h.ownWrites hown
  have hcount := writeBindings_append bridge' hadded
  constructor
  case ref => exact h.ref
  case device => exact h.device
  case declared => exact h.declared
  case bindings =>
    rw [hcount, h.bindings, List.length_singleton]
    omega

theorem Settled.declare (h : Settled a bridge strays a' bridge') {store : Store}
    {added : List Binding}
    (hlength : added.length = if info.mode.writable && !a'.props.anyWritable then 1 else 0)
    (hown : forall binding : Binding, binding ∈ added -> a'.OwnWrites binding) :
    Settled a bridge strays
      { a' with
        props :=
          { a'.props with
            store := store
            declared := a'.props.declared ++
              [{ info with id := UInt32.ofNat a'.props.declared.length }] } }
      { bridge' with bindings := bridge'.bindings ++ added } := by
  constructor
  case ref => exact h.ref
  case device => exact h.device
  case declared =>
    rcases h.declared with ⟨earlier, hdeclared, hids⟩
    refine ⟨earlier ++ [{ info with id := UInt32.ofNat a'.props.declared.length }], ?_, ?_⟩
    · rw [hdeclared, List.append_assoc]
    · rw [List.map_append, hids, List.length_append, List.length_singleton,
        List.range'_1_concat, List.map_append, hdeclared, List.length_append]
      rfl
  case bindings =>
    have hcount := writeBindings_append bridge' fun binding hmem =>
      h.ownWrites (hown binding hmem)
    have hany : Props.anyWritable
        { a'.props with
          store := store
          declared := a'.props.declared ++
            [{ info with id := UInt32.ofNat a'.props.declared.length }] } =
        (a'.props.anyWritable || info.mode.writable) := by
      simp [Props.anyWritable]
    have hkept := anyWritable_of_settled h
    rw [hcount, h.bindings, hlength, hany]
    cases hbefore : a.props.anyWritable with
    | true =>
        rw [hkept hbefore]
        simp
    | false =>
        cases a'.props.anyWritable <;> cases info.mode.writable <;> simp

theorem Declaring.settled (h : Declaring a bridge strays a' bridge') :
    Settled a bridge strays a' bridge' := by
  induction h with
  | start => exact settled_start a bridge
  | meanwhile store _ hbindings ih => exact ih.meanwhile store hbindings
  | @declare _ a' bridge' info initial _ hkept ih =>
      have hsettles := a'.settles bridge' info initial
      generalize a'.declare bridge' info initial = outcome at hsettles
      cases hsettles with
      | kept => exact ih
      | strayed hstrays => exact absurd hstrays hkept
      | declared _ hlength hown => exact ih.declare hlength hown
  | stray info initial _ hstrays ih =>
      rcases hstrays.declare with ⟨fault, binding, hown, hdeclare⟩
      rw [hdeclare]
      exact ih.stray hown

/-- A refused declaration changes the actor in nothing, and the bridge only if it strays.  A
fresh value makes it stray only if the program has turned the values into something that
holds no names.  However many declarations are made, their ids count them, and the actor
has been bound once, if at all, and once more for each that strayed. -/
theorem declarations_settled (a : Actor α) (bridge : Bridge) :
    (forall (info : PropertyInfo) (initial : Handle),
      Settles a bridge info initial (a.declare bridge info initial)) ∧
      (forall (info : PropertyInfo) (t : Tree), a.props.Valid -> t.UniqueKeys ->
        (a.props.store.node a.props.root = Node.null ∨
          exists entries : Entries Handle, a.props.store.node a.props.root = Node.map entries) ->
          ¬ Strays { a with props := { a.props with store := (a.props.store.thaw t).2 } } bridge
            info (a.props.store.thaw t).1) ∧
        forall (strays : Nat) (a' : Actor α) (bridge' : Bridge),
          Declaring a bridge strays a' bridge' -> Settled a bridge strays a' bridge' := by
  refine ⟨a.settles bridge, ?_, fun strays a' bridge' h => h.settled⟩
  intro info t hvalid ht hmap hstrays
  exact hvalid.not_refuses_thawed ht hmap hstrays.refused

/-- A lamp measures its volts and amps, which nobody else may write.  In between, its values
are a number for a while, and the declaration of a level strays.  The lamp is left bound to
writes, though it has no writable property. -/
theorem declarations_settled_number :
    let lamp : ActorRef :=
      { id := ActorId.ofNat 1, name := "lamp", enqueueTimeout := Duration.ofMillis 100 }
    let a : Actor Unit :=
      { Actor.create lamp "house" [] 8 with
        state := ActorState.starting, hook := some Hook.start, agenda := [] }
    let b := Bridge.create Transport.null Format.cbor
    let volts := PropertyInfo.create "volts" PropType.uint PropMode.read ""
    let amps := PropertyInfo.create "amps" PropType.uint PropMode.read ""
    exists (a' : Actor Unit) (b' : Bridge),
      Declaring a b 1 a' b' ∧ Settled a b 1 a' b' ∧
        a'.props.declared = [volts, { amps with id := 1 }] ∧ a.writeBindings b' = 1 := by
  intro lamp a b volts amps
  let level := PropertyInfo.create "level" PropType.uint PropMode.readWrite ""
  let map : Store := { nodes := #[Node.map [], Node.integer 1] }
  let number : Store := { nodes := #[Node.integer 5, Node.integer 1] }
  let turned : Actor Unit :=
    { a with props := { store := number, root := a.props.root, declared := [volts] } }
  have hstart : Declaring a b 0 a b := Declaring.start
  have hvolts := (hstart.meanwhile map rfl).declare volts 1 (fun hstrays => nomatch hstrays.first)
  have hturned : Declaring a b 0 turned b := hvolts.meanwhile number rfl
  have hbound : exists b' : Bridge, b.bind "house/lamp/set" lamp Reading.setProps = .ok b' := by
    have hparse : TopicPattern.parse "house/lamp/set" = .ok _ := rfl
    unfold Bridge.bind
    rw [hparse]
    exact ⟨_, rfl⟩
  have hstrays : turned.Strays b level 1 := ⟨rfl, rfl, hbound, Or.inr ⟨nofun, nofun⟩⟩
  have hstrayed := hturned.stray level 1 hstrays
  rcases hstrays.declare with ⟨fault, binding, hown, hdeclare⟩
  rw [hdeclare] at hstrayed
  have hamps := (hstrayed.meanwhile map rfl).declare amps 1 (fun hstrays => nomatch hstrays.first)
  have hsettled := (declarations_settled a b).right.right _ _ _ hamps
  exact ⟨_, _, hamps, hsettled, rfl, hsettled.bindings⟩

/-- A lamp offers all its values as one of its properties.  They cannot hold themselves, but
the binding stays, and there is another one as soon as a property has been declared. -/
theorem declare_leaves_binding :
    let lamp : ActorRef :=
      { id := ActorId.ofNat 1, name := "lamp", enqueueTimeout := Duration.ofMillis 100 }
    let a : Actor Unit :=
      { Actor.create lamp "house" [] 8 with
        state := ActorState.starting, hook := some Hook.start, agenda := [] }
    let b := Bridge.create Transport.null Format.cbor
    let all := PropertyInfo.create "all" PropType.object PropMode.readWrite ""
    let level := PropertyInfo.create "level" PropType.uint PropMode.readWrite ""
    let first := a.declare b all a.props.root
    let store := (first.2.1.props.store.alloc (Node.integer 1)).2
    let next := { first.2.1 with props := { first.2.1.props with store := store } }
    let second := next.declare first.2.2 level 1
    a.isStarting = true ∧ first.1.isOk = false ∧ b.bindings.length = 0 ∧
      first.2.2.bindings.length = 1 ∧ second.1.isOk = true ∧ a.writeBindings second.2.2 = 2 := by
  decide +kernel

end Actor
end Troupe
