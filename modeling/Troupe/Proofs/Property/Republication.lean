import Troupe.Proofs.Property.Parts
import Troupe.Proofs.Property.Writes
import Troupe.Proofs.System.Delivery
import Troupe.Proofs.Topic.Addressing

/-!
# What is published can be written back

An actor publishes all of its values.  Whoever receives them may keep those that can be
written and send them back as a write: the actor takes it, its program is told of these
names, and no value has changed.
-/

namespace Troupe

open Store

namespace Props

def fitting (p : Props) (entry : String × Tree) : Bool :=
  p.declared.any fun info =>
    info.name == entry.1 && info.mode.writable && info.type.admits entry.2

theorem fitting_iff {p : Props} {entry : String × Tree} :
    p.fitting entry = true <-> p.Fits entry := by
  simp only [fitting, Fits, List.any_eq_true, Bool.and_eq_true, beq_iff_eq, and_assoc]

/-- The values that can be written as they are. -/
def writable (p : Props) (values : Entries Tree) : Entries Tree :=
  values.filter p.fitting

theorem writable_sublist (p : Props) (values : Entries Tree) :
    (p.writable values).Sublist values :=
  List.filter_sublist

theorem accepts_writable (p : Props) (values : Entries Tree) :
    p.Accepts (Tree.map (p.writable values)) := by
  rw [accepts_map_iff]
  intro entry hmem
  exact fitting_iff.mp (List.mem_filter.mp hmem).right

end Props

/-!
## Payloads
-/

namespace Bridge

theorem decode_encode {b : Bridge} (hformat : b.format = Format.cbor) {t : Tree}
    (hunique : t.UniqueKeys) (hmeasured : Cbor.Measured t) (hdepth : t.depth ≤ 64) :
    b.decode (Cbor.encode t) = .ok t := by
  have hdecode : Codec.standard.decode Format.cbor (Cbor.encode t) = .ok t := by
    rw [Codec.decode_standard_cbor, Codec.decode_cbor_eq_ok_iff]
    exact Cbor.decode_eq_ok_iff.mpr ⟨Cbor.encodes_encode hunique hmeasured, hdepth⟩
  rw [decode, hformat, hdecode]
  rfl

theorem publishTree_cbor {b : Bridge} (hformat : b.format = Format.cbor) (topic : String)
    (t : Tree) :
    b.publishTree topic t =
      match b.transport.refusal? with
      | some error => .error (ActorError.transport error)
      | none =>
          .ok { b with
            transport := b.transport.handed { topic := topic, payload := Cbor.encode t } } := by
  simp only [publishTree, hformat, Codec.encode_standard_cbor, Transport.send_eq]
  cases b.transport.refusal? <;> rfl

/-- A payload on a topic is sent to an actor as a message, in the turn of one of the
bindings on the topic. -/
def Offers (b : Bridge) (topic : String) (payload : List UInt8) (target : ActorRef)
    (message : Message) : Prop :=
  exists (t : Tree) (before after : List Binding) (binding : Binding),
    b.bound topic = before ++ binding :: after ∧ binding.target = target ∧
      forall {σ : Type} (send : ActorRef -> Envelope -> σ -> Except ActorError Unit × σ) (s : σ),
        let reached := (deliverAll send topic t before s).2
        let sent := send target { message := message, sender := none } reached
        b.deliver send topic payload s =
          (.ok ((deliverAll send topic t before s).1 ++
              { actor := target.name, message := message.type.name, outcome := sent.1 } ::
                (deliverAll send topic t after sent.2).1),
            (deliverAll send topic t after sent.2).2)

theorem offers_setProps {b : Bridge} {topic : String} {payload : List UInt8} {t : Tree}
    (hdecode : b.decode payload = .ok t) {binding : Binding} (hmem : binding ∈ b.bindings)
    (hcovers : binding.pattern.covers topic = true)
    (hreading : binding.reading = Reading.setProps) :
    b.Offers topic payload binding.target (Message.setProps topic t) := by
  have hbound : binding ∈ b.bound topic := List.mem_filter.mpr ⟨hmem, hcovers⟩
  rcases List.append_of_mem hbound with ⟨before, after, hsplit⟩
  refine ⟨t, before, after, binding, hsplit, rfl, fun send s => ?_⟩
  simp only [deliver, hdecode, deliverTree, hsplit, deliverAll_append, deliverAll, deliverTo,
    hreading, Reading.message]
  rfl

end Bridge

namespace Actor

variable {α : Type} {a b : Actor α} {bridge bridge' : Bridge}

/-!
## Actors and their bindings
-/

/-- An actor whose properties have come about with a bridge: they are declared through
it, and apart from that the values are worked on and written and the bridge goes on. -/
inductive Outfitted : Actor α -> Bridge -> Prop where
  | created {a : Actor α} {bridge : Bridge} : a.props = Props.empty -> Outfitted a bridge
  | declared {a : Actor α} {bridge : Bridge} {initial : Handle} (info : PropertyInfo) :
      Outfitted a bridge -> initial < a.props.store.size ->
        Outfitted (a.declare bridge info initial).2.1 (a.declare bridge info initial).2.2
  | went {a b : Actor α} {bridge bridge' : Bridge} :
      Outfitted a bridge -> b.ref = a.ref -> b.device = a.device -> b.props.Made ->
        b.props.declared = a.props.declared -> bridge.bindings ⊆ bridge'.bindings ->
          Outfitted b bridge'

theorem BoundToWrites.mono (h : a.BoundToWrites bridge) (href : b.ref = a.ref)
    (hdevice : b.device = a.device) (hbindings : bridge.bindings ⊆ bridge'.bindings) :
    b.BoundToWrites bridge' := by
  rcases h with ⟨binding, hmem, hown⟩
  refine ⟨binding, hbindings hmem, ?_, hown.target.trans href.symm, hown.reading⟩
  rw [topic, href, hdevice]
  exact hown.pattern

theorem Outfitted.made (h : a.Outfitted bridge) : a.props.Made := by
  induction h with
  | created hprops =>
      rw [hprops]
      exact Props.Made.empty
  | declared info _ hinitial ih => exact Props.Made.declare _ info ih hinitial
  | went _ _ _ hmade _ _ _ => exact hmade

theorem Outfitted.bound (h : a.Outfitted bridge) (hwritable : a.props.anyWritable = true) :
    a.BoundToWrites bridge := by
  induction h with
  | created hprops =>
      rw [hprops] at hwritable
      cases hwritable
  | @declared a bridge initial info _ _ ih =>
      rcases declare_eq a bridge info initial with ⟨props, hdeclared⟩
      have hbindings := (grows_declare a bridge info initial).bindings.subset
      have hbound : a.BoundToWrites (a.declare bridge info initial).2.2 := by
        cases hbefore : a.props.anyWritable with
        | true => exact (ih hbefore).mono rfl rfl hbindings
        | false => exact (declares a bridge info initial).boundToWrites hbefore hwritable
      refine hbound.mono ?_ ?_ (List.Subset.refl _)
      · rw [hdeclared]
      · rw [hdeclared]
  | went _ href hdevice _ hdeclared hbindings ih =>
      rw [Props.anyWritable, hdeclared] at hwritable
      exact (ih hwritable).mono href hdevice hbindings

def declareTree (a : Actor α) (bridge : Bridge) (info : PropertyInfo) (initial : Tree) :
    Actor α × Bridge :=
  let live := a.props.store.thaw initial
  ({ a with props := { a.props with store := live.2 } }.declare bridge info live.1).2

theorem Outfitted.declareTree (h : a.Outfitted bridge) (info : PropertyInfo) {initial : Tree}
    (hunique : initial.UniqueKeys) :
    Outfitted (a.declareTree bridge info initial).1 (a.declareTree bridge info initial).2 := by
  let live := a.props.store.thaw initial
  let fresh := { a with props := { a.props with store := live.2 } }
  have hyields := yields_thaw h.made.valid.left.sound hunique
  have hworked : a.props.Worked fresh.props :=
    ⟨Relation.ReflTransGen.single (Store.Step.thaw hunique), rfl, rfl⟩
  have hfresh : fresh.Outfitted bridge :=
    Outfitted.went h rfl rfl (Props.Made.work h.made hworked) rfl (List.Subset.refl _)
  exact Outfitted.declared info hfresh hyields.valid

/-!
## Writing back
-/

theorem openWrite_part (hmade : a.props.Made) {values part : Entries Tree}
    (htree : a.props.tree = Tree.map values) (hpart : part.Sublist values)
    (haccepts : a.props.Accepts (Tree.map part)) :
    exists p : Props,
      a.openWrite (Tree.map part) =
          { a with
            props := p
            stats := { a.stats with delivered := a.stats.delivered + 1 }
            hook := some (Hook.props part) } ∧
        p.Valid ∧ p.tree = a.props.tree := by
  rcases hmade.valid with ⟨hvalid, hnames⟩
  have hunique : (Tree.map values).UniqueKeys := htree ▸ hvalid.uniqueKeys
  have hpresent : forall name : String, name ∈ Entries.keys part -> name ∈ Entries.keys values :=
    fun name hmem => (hpart.map Prod.fst).subset hmem
  rcases openWrite_present hvalid hnames htree hpresent (Tree.uniqueKeys_part hunique hpart)
    haccepts with ⟨p, hopened, hwritten, hshows⟩
  rw [Entries.displaced_part Tree.null hunique.left hpart] at hopened
  rw [Entries.overlay_part hunique.left hpart] at hshows
  exact ⟨p, hopened, hwritten, hshows.trans htree.symm⟩

theorem conclude_part {values part : Entries Tree} (hvalid : b.props.Valid)
    (htree : b.props.tree = Tree.map values) (hpart : part.Sublist values)
    (hhook : b.hook = some (Hook.props part)) (bridge : Bridge) (result : Except ActorError Unit) :
    (b.conclude bridge result).1.props.tree = Tree.map values := by
  have hunique : (Tree.map values).UniqueKeys := htree ▸ hvalid.uniqueKeys
  rcases props_conclude b bridge result with hkept | ⟨previous, hhook', hrestored⟩
  · rw [hkept]
    exact htree
  · rw [hhook] at hhook'
    cases hhook'
    have hpresent : forall name : String, name ∈ Entries.keys part ->
        name ∈ Entries.keys values := fun name hmem => (hpart.map Prod.fst).subset hmem
    rw [hrestored, hvalid.restore_map htree hpresent (Entries.unique_part hunique.left hpart)
      (Tree.uniqueKeys_part hunique hpart).right, Entries.overlay_part hunique.left hpart]

/-- The values that an actor publishes are read back as they are, and those among them
that can be written are taken as a write that changes none of them. -/
theorem published_writes_back (houtfitted : a.Outfitted bridge)
    (hformat : bridge.format = Format.cbor) {values : Entries Tree}
    (htree : a.props.tree = Tree.map values) (hmeasured : Cbor.Measured (Tree.map values))
    (hdepth : (Tree.map values).depth ≤ 64) :
    let part := a.props.writable values
    let topic := a.topic "set"
    (exists payload : List UInt8,
      bridge.decode payload = .ok (Tree.map values) ∧
        a.publishProps bridge =
          match bridge.transport.refusal? with
          | some error => .error (ActorError.transport error)
          | none =>
              .ok { bridge with
                transport := bridge.transport.handed
                  { topic := a.topic "props", payload := payload } }) ∧
    (exists payload : List UInt8,
      Codec.standard.encode bridge.format (Tree.map part) = .ok payload ∧
        bridge.decode payload = .ok (Tree.map part) ∧
          (a.props.anyWritable = true ->
            bridge.Offers topic payload a.ref (Message.setProps topic (Tree.map part)))) ∧
    forall env : Envelope, env.message = Message.setProps topic (Tree.map part) ->
      exists p : Props,
        a.openEnvelope env =
            { a with
              props := p
              stats := { a.stats with delivered := a.stats.delivered + 1 }
              hook := some (Hook.props part) } ∧
          p.tree = a.props.tree ∧
            forall (b : Actor α) (bridge' : Bridge) (result : Except ActorError Unit),
              p.Worked b.props -> b.props.tree = p.tree -> b.hook = some (Hook.props part) ->
                (b.conclude bridge' result).1.props.tree = a.props.tree := by
  intro part topic
  have hmade := houtfitted.made
  have hunique : (Tree.map values).UniqueKeys := htree ▸ hmade.valid.left.uniqueKeys
  have hpart : part.Sublist values := a.props.writable_sublist values
  have hdecode : bridge.decode (Cbor.encode (Tree.map part)) = .ok (Tree.map part) :=
    Bridge.decode_encode hformat (Tree.uniqueKeys_part hunique hpart)
      (Cbor.measured_part hpart hmeasured) ((Tree.depth_part hpart).trans hdepth)
  refine ⟨⟨Cbor.encode (Tree.map values), ?_, ?_⟩,
    ⟨Cbor.encode (Tree.map part), ?_, hdecode, fun hwritable => ?_⟩, fun env hmessage => ?_⟩
  · exact Bridge.decode_encode hformat hunique hmeasured hdepth
  · rw [publishProps, htree, Bridge.publishTree_cbor hformat]
  · rw [hformat]
    exact Codec.encode_standard_cbor (Tree.map part)
  · rcases houtfitted.bound hwritable with ⟨binding, hmem, hown⟩
    rw [<- hown.target]
    exact Bridge.offers_setProps hdecode hmem (TopicPattern.covers_of_parse hown.pattern)
      hown.reading
  · rcases openWrite_part hmade htree hpart (a.props.accepts_writable values) with
      ⟨p, hopened, hwritten, hshows⟩
    rw [openEnvelope_write hmessage]
    refine ⟨p, hopened, hshows, fun b bridge' result hworked hkept hhook => ?_⟩
    rw [htree] at hshows ⊢
    exact conclude_part (hworked.valid hwritten) (hkept.trans hshows) hpart hhook bridge' result

/-- A dimmer that has declared a level, which may be written, and then its serial
number.  The level is no number. -/
def dimmer : Actor Unit × Bridge :=
  let ref : ActorRef :=
    { id := ActorId.ofNat 1, name := "dimmer", enqueueTimeout := Duration.zero }
  let blank := (create ref "node" [] 1).beginHook Hook.start
  let leveled := blank.declareTree (Bridge.create (Transport.ofCapacity 1) Format.cbor)
    (PropertyInfo.create "level" PropType.float PropMode.readWrite "")
    (Tree.float { bits := 0x7ff4000000000001 })
  leveled.1.declareTree leveled.2 (PropertyInfo.create "serial" PropType.str PropMode.read "")
    (Tree.string "x")

/-- The level is written back to the bit, and the serial number is left out. -/
theorem published_writes_back_dimmer :
    let a := dimmer.1
    let bridge := dimmer.2
    let level := ("level", Tree.float { bits := 0x7ff4000000000001 })
    let message := Message.setProps "node/dimmer/set" (Tree.map [level])
    (exists payload : List UInt8,
      bridge.decode payload = .ok (Tree.map [level, ("serial", Tree.string "x")]) ∧
        a.publishProps bridge =
          .ok { bridge with
            transport := Transport.channel 1
              [{ topic := "node/dimmer/props", payload := payload }] false }) ∧
    (exists payload : List UInt8, bridge.Offers "node/dimmer/set" payload a.ref message) ∧
    (a.openEnvelope (Envelope.ofMessage message)).props.tree =
      Tree.map [level, ("serial", Tree.string "x")] := by
  intro a bridge level message
  have houtfitted : a.Outfitted bridge := by
    refine Outfitted.declareTree (Outfitted.declareTree (Outfitted.created ?_) _ ?_) _ ?_
    · rfl
    · trivial
    · trivial
  have htree : a.props.tree = Tree.map [level, ("serial", Tree.string "x")] := by decide
  have hmeasured : Cbor.Measured (Tree.map [level, ("serial", Tree.string "x")]) :=
    ⟨by decide, by decide, trivial, by decide, show 1 < 2 ^ 64 by decide, trivial⟩
  have hpart : a.props.writable [level, ("serial", Tree.string "x")] = [level] := rfl
  rcases published_writes_back houtfitted rfl htree hmeasured (by decide) with
    ⟨⟨payload, hdecode, hpublished⟩, ⟨payload', -, -, hoffers⟩, hwritten⟩
  rw [hpart] at hoffers hwritten
  refine ⟨⟨payload, hdecode, hpublished⟩, ⟨payload', hoffers (by decide)⟩, ?_⟩
  rcases hwritten (Envelope.ofMessage message) rfl with ⟨p, hopened, hshows, -⟩
  rw [hopened]
  exact hshows.trans htree

end Actor
end Troupe
