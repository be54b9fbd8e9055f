import Troupe.Proofs.System.Lives
import Troupe.Proofs.Wire.Documents
import Troupe.Rehearsal.Cast

/-!
# From a publisher to mailboxes

A message that is published leaves its system as one payload.  Every system with the same
wire format reads the message back from the payload and offers it to the bindings on the
topic, one after another.  Each binding for the message's type takes its turn in the
system as it is by then, and an open mailbox with room gets exactly one envelope.

What else happens in the receiving system until a binding has its turn is left open.
-/

namespace Troupe

/-!
## Handing over
-/

namespace Transport

def refusal? : Transport -> Option TransportError
  | null => none
  | channel capacity queue closed =>
      if closed then some TransportError.closed
      else if capacity ≤ queue.length then some TransportError.backlogged
      else none

def handed (out : Outbound) : Transport -> Transport
  | null => null
  | channel capacity queue closed => channel capacity (queue ++ [out]) closed

theorem send_eq (topic : String) (payload : List UInt8) (t : Transport) :
    t.send topic payload =
      match t.refusal? with
      | some error => .error error
      | none => .ok (t.handed { topic := topic, payload := payload }) := by
  cases t with
  | null => rfl
  | channel capacity queue closed =>
      rw [send, refusal?]
      split
      · rfl
      · split
        · rfl
        · rfl

end Transport

def Binding.delivered (binding : Binding) : Delivery :=
  { actor := binding.target.name, message := binding.reading.type.name, outcome := .ok () }

namespace Bridge

/-- Why a bridge publishes nothing: there is no codec for its format, or its transport
takes no payload. -/
def refusal? (b : Bridge) : Option ActorError :=
  if b.format = Format.cbor ∨ b.format = Format.json then
    b.transport.refusal?.map ActorError.transport
  else some (ActorError.codec (CodecError.unsupportedFormat b.format))

theorem publish_cases (b : Bridge) (topic : String) (body : Json) :
    (exists error : ActorError, b.refusal? = some error ∧ b.publish topic body = .error error) ∨
      b.refusal? = none ∧ exists payload : List UInt8,
        Codec.standard.encode b.format body.toTree = .ok payload ∧
          b.publish topic body =
            .ok { b with
              transport := b.transport.handed { topic := topic, payload := payload } } := by
  by_cases hformat : b.format = Format.cbor ∨ b.format = Format.json
  · have hencode : exists payload : List UInt8,
        Codec.standard.encode b.format body.toTree = .ok payload := by
      rcases hformat with hcbor | hjson
      · rw [hcbor]
        exact ⟨_, Codec.encode_standard_cbor body.toTree⟩
      · rw [hjson]
        exact ⟨_, Codec.encode_standard_json body.toTree⟩
    rcases hencode with ⟨payload, hencode⟩
    rw [refusal?, if_pos hformat]
    cases hrefusal : b.transport.refusal? with
    | none =>
        refine Or.inr ⟨rfl, payload, hencode, ?_⟩
        simp only [publish, publishTree, hencode, Transport.send_eq, hrefusal]
    | some error =>
        refine Or.inl ⟨_, rfl, ?_⟩
        simp only [publish, publishTree, hencode, Transport.send_eq, hrefusal]
  · have hencode := Codec.encode_standard_other (fun h => hformat (Or.inl h))
      (fun h => hformat (Or.inr h)) body.toTree
    refine Or.inl ⟨_, if_neg hformat, ?_⟩
    simp only [publish, publishTree, hencode]

/-!
## Turns of bindings
-/

variable {σ : Type} {send : ActorRef -> Envelope -> σ -> Except ActorError Unit × σ}

theorem deliverAll_append (topic : String) (t : Tree) (first second : List Binding) (s : σ) :
    deliverAll send topic t (first ++ second) s =
      ((deliverAll send topic t first s).1 ++
          (deliverAll send topic t second (deliverAll send topic t first s).2).1,
        (deliverAll send topic t second (deliverAll send topic t first s).2).2) := by
  induction first generalizing s with
  | nil => rfl
  | cons binding rest ih =>
      simp only [List.cons_append, deliverAll, ih]

end Bridge

/-!
## Messages that come back
-/

/-- The message whose form is a document reads back from it.  Documents have proper
numbers and repeat no key. -/
structure Schema.RoundTrips (schema : Schema) (body : Json) : Prop where
  valid : body.Valid
  read : schema.ofTree body.toTree = .ok (Message.defined schema.label schema.name body)

namespace System

variable {σ α : Type} {s s' : System σ α} {target : ActorRef}

/-!
## Mailboxes
-/

def HasRoom (s : System σ α) (target : ActorRef) : Prop :=
  exists a : Actor α,
    s.actor? target = some a ∧ a.mailbox.closed = false ∧ a.mailbox.isFull = false

/-- One envelope has come last into a mailbox, and nothing else has changed. -/
def Gets (target : ActorRef) (env : Envelope) (s s' : System σ α) : Prop :=
  exists i : Nat, s.position? target = some i ∧
    s' = s.modifyActor i fun a =>
      { a with mailbox := { a.mailbox with queue := a.mailbox.queue ++ [env] } }

theorem modify_congr {i : Nat} {f g : Performer σ α -> Performer σ α}
    (h : forall p : Performer σ α, s.performers[i]? = some p -> f p = g p) :
    s.modify i f = s.modify i g := by
  have hperformers : s.performers.modify i f = s.performers.modify i g := by
    apply List.ext_getElem?
    intro j
    rw [List.getElem?_modify, List.getElem?_modify]
    cases hp : s.performers[j]? with
    | none => rfl
    | some p =>
        by_cases hij : i = j
        · obtain rfl := hij
          simp [h p hp]
        · simp [hij]
  rw [modify, modify, hperformers]

theorem send_of_hasRoom (h : s.HasRoom target) (env : Envelope) :
    exists s' : System σ α, send target env s = (.ok (), s') ∧ Gets target env s s' := by
  rcases h with ⟨a, hactor, hopen, hroom⟩
  rcases position?_of_actor? hactor with ⟨i, p, hposition, hp, rfl, -⟩
  let received : Actor α :=
    { p.actor with mailbox := { p.actor.mailbox with queue := p.actor.mailbox.queue ++ [env] } }
  have haccept : p.actor.accept env = .ok received := by
    simp [Actor.accept, Mailbox.tryEnqueue, hopen, hroom, received]
  have hnowait : s.wouldWait target = false := by
    simp [wouldWait, hactor, hopen, hroom]
  have hpost : s.post target env = (.ok (), s.modifyActor i fun _ => received) := by
    simp only [post, hactor, haccept, hposition]
  refine ⟨s.modifyActor i fun _ => received, ?_, i, hposition, ?_⟩
  · simp only [send, hnowait, Bool.false_eq_true, if_false, hpost]
  · refine modify_congr fun q hq => ?_
    obtain rfl : p = q := Option.some.inj (hp.symm.trans hq)
    rfl

/-!
## Taking in
-/

/-- Sends after the system has done something else. -/
def sendAmid (meanwhile : System σ α -> System σ α) (target : ActorRef) (env : Envelope)
    (s : System σ α) : Except ActorError Unit × System σ α :=
  send target env (meanwhile s)

theorem deliver_eq (s : System σ α) (topic : String) (payload : List UInt8) :
    s.deliver topic payload = s.bridge.deliver (sendAmid id) topic payload s :=
  rfl

/-- A payload is read as the form of a message, and whatever else happens meanwhile, each
binding for the message's type puts the message into the mailbox of its actor if that is
open and has room when the binding's turn has come.  The bindings take their turns in
order. -/
structure TakesIn (s : System σ α) (topic : String) (payload : List UInt8) (schema : Schema)
    (body : Json) : Prop where
  decoded : s.bridge.decode payload = .ok body.toTree
  turn :
    forall (meanwhile : System σ α -> System σ α) (before after : List Binding)
        (binding : Binding) (earlier : List Delivery) (reached : System σ α),
      s.bridge.bound topic = before ++ binding :: after ->
      binding.reading = Reading.typed schema ->
      Bridge.deliverAll (sendAmid meanwhile) topic body.toTree before s = (earlier, reached) ->
      (meanwhile reached).HasRoom binding.target ->
        exists (next final : System σ α) (later : List Delivery),
          Gets binding.target
              { message := Message.defined schema.label schema.name body, sender := none }
              (meanwhile reached) next ∧
            Bridge.deliverAll (sendAmid meanwhile) topic body.toTree after next =
              (later, final) ∧
            s.bridge.deliver (sendAmid meanwhile) topic payload s =
              (.ok (earlier ++ binding.delivered :: later), final)

theorem takesIn_of_decode {topic : String} {payload : List UInt8} {schema : Schema}
    {body : Json} (hreturns : schema.RoundTrips body)
    (hdecode : s.bridge.decode payload = .ok body.toTree) :
    s.TakesIn topic payload schema body := by
  refine ⟨hdecode, ?_⟩
  intro meanwhile before after binding earlier reached hbound hreading hearlier hroom
  let message := Message.defined schema.label schema.name body
  rcases send_of_hasRoom hroom (Envelope.ofMessage message) with ⟨next, hsend, hgets⟩
  have hmessage : binding.reading.message topic body.toTree = .ok message := by
    rw [hreading, Reading.message, hreturns.read]
    rfl
  have hturn : Bridge.deliverTo (sendAmid meanwhile) topic body.toTree binding reached =
      (binding.delivered, next) := by
    simp only [Bridge.deliverTo, hmessage, sendAmid, hsend, Binding.delivered]
  rcases hlater : Bridge.deliverAll (sendAmid meanwhile) topic body.toTree after next with
    ⟨later, final⟩
  refine ⟨next, final, later, hgets, hlater, ?_⟩
  simp only [Bridge.deliver, hdecode, Bridge.deliverTree, hbound, Bridge.deliverAll_append,
    hearlier, Bridge.deliverAll, hturn, hlater]

/-!
## Publishing
-/

def handed (s : System σ α) (out : Outbound) : System σ α :=
  { s with bridge := { s.bridge with transport := s.bridge.transport.handed out } }

/-- What publishing on a topic comes to.  A message that comes back from its form is handed
over as one payload, and every system with the same format takes it in; whatever is
refused leaves the system as it was. -/
structure Publishes (s : System σ α) (topic : String) : Prop where
  arrives :
    forall {schema : Schema} {body : Json} {s' : System σ α}, schema.RoundTrips body ->
      s.bridge.format.Carries body.toTree ->
      s.withBridge (s.bridge.publish topic body) = (.ok (), s') ->
        exists payload : List UInt8,
          s' = s.handed { topic := topic, payload := payload } ∧
            forall {ρ β : Type} (receiver : System ρ β),
              receiver.bridge.format = s.bridge.format ->
                receiver.TakesIn topic payload schema body
  refused :
    forall (body : Json) (error : ActorError) (s' : System σ α),
      s.withBridge (s.bridge.publish topic body) = (.error error, s') <->
        s.bridge.refusal? = some error ∧ s' = s

end System

/-!
## Messages of the cast
-/

namespace Rehearsal

theorem roundTrips_ping : ping.RoundTrips Json.null :=
  ⟨trivial, rfl⟩

theorem roundTrips_note (text : String) : note.RoundTrips (Json.string text) :=
  ⟨trivial, rfl⟩

theorem toNat_interval (interval : UInt32) :
    (UInt64.ofNat interval.toNat).toNat = interval.toNat := by
  have hlt := interval.toNat_lt
  apply UInt64.toNat_ofNat_of_lt'
  rw [show UInt64.size = 2 ^ 64 from rfl]
  omega

theorem toNat_interval_lt (interval : UInt32) :
    (UInt64.ofNat interval.toNat).toNat < 0x8000000000000000 := by
  have hlt := interval.toNat_lt
  rw [toNat_interval]
  omega

theorem read_write_interval (interval : UInt32) :
    (JsonForm.read (JsonForm.write interval) : Except ShapeError UInt32) = .ok interval := by
  have hlt := interval.toNat_lt
  have hinteger : JsonForm.integer? (JsonForm.write interval) = some (interval.toNat : Int) := by
    simp only [JsonForm.write, Json.ofNat, JsonForm.integer?, toNat_interval]
  simp only [JsonForm.read, JsonForm.readInteger, hinteger]
  rw [if_pos (by omega)]
  simp [Except.map]

theorem read_blinkBody (interval : UInt32) :
    blink.read (blinkBody interval) = .ok (blinkBody interval) := by
  simp [blink, blinkBody, JsonForm.readRequired, JsonForm.putMembers, JsonForm.Field.of,
    read_write_interval, Except.map, JsonForm.required]

theorem toTree_blinkBody (interval : UInt32) :
    (blinkBody interval).toTree =
      Tree.map [("interval_ms", Tree.integer (UInt64.ofNat interval.toNat).toInt64)] := by
  simp only [blinkBody, JsonForm.write, Json.ofNat, Json.toTree, Json.toTreeMembers,
    JsonNumber.toTree, if_pos (toNat_interval_lt interval)]

theorem toJson_toTree_blinkBody (interval : UInt32) :
    (blinkBody interval).toTree.toJson = blinkBody interval := by
  rw [toTree_blinkBody, Tree.toJson, Tree.toJsonEntries, Tree.toJson, Tree.toJsonEntries,
    Json.ofInt64_toInt64 (toNat_interval_lt interval)]
  rfl

theorem roundTrips_blink (interval : UInt32) : blink.RoundTrips (blinkBody interval) := by
  constructor
  case valid => exact ⟨List.nodup_cons.mpr ⟨List.not_mem_nil, List.nodup_nil⟩, trivial, trivial⟩
  case read =>
    rw [Schema.ofTree, toJson_toTree_blinkBody, read_blinkBody]
    rfl

theorem carries_blinkBody (interval : UInt32) :
    Format.cbor.Carries (blinkBody interval).toTree ∧
      Format.json.Carries (blinkBody interval).toTree := by
  rw [toTree_blinkBody]
  constructor
  · refine Format.Carries.cbor ⟨?_, by decide, trivial, trivial⟩ ?_
    · exact show 1 < 2 ^ 64 by decide
    · exact show 1 ≤ 64 by decide
  · exact Format.Carries.json (show 1 ≤ 127 by decide)

end Rehearsal

namespace System

variable {σ α : Type}

/-- A message that is published arrives. -/
theorem published_arrives (s : System σ α) (topic : String) :
    s.Publishes topic ∧ Rehearsal.ping.RoundTrips Json.null ∧
      (forall text : String, Rehearsal.note.RoundTrips (Json.string text)) ∧
      forall interval : UInt32, Rehearsal.blink.RoundTrips (Rehearsal.blinkBody interval) := by
  refine ⟨⟨?_, ?_⟩, Rehearsal.roundTrips_ping, Rehearsal.roundTrips_note,
    Rehearsal.roundTrips_blink⟩
  · intro schema body s' hreturns hcarries hpublished
    rcases s.bridge.publish_cases topic body with
      ⟨error, -, hrefused⟩ | ⟨-, payload, hencode, haccepted⟩
    · rw [hrefused] at hpublished
      cases hpublished
    · rw [haccepted] at hpublished
      cases hpublished
      refine ⟨payload, rfl, fun receiver hformat => takesIn_of_decode hreturns ?_⟩
      rw [Bridge.decode, hformat, hcarries.round_trip hreturns.valid hencode]
      rfl
  · intro body error s'
    rcases s.bridge.publish_cases topic body with
      ⟨error', hrefusal, hrefused⟩ | ⟨hrefusal, payload, -, haccepted⟩
    · rw [hrefused, hrefusal, withBridge, Prod.mk.injEq, Except.error.injEq, Option.some.injEq,
        eq_comm (a := s)]
    · rw [haccepted, hrefusal]
      constructor
      · intro hpublished
        cases hpublished
      · rintro ⟨hnone, -⟩
        cases hnone

/-- A blink that is published into a channel comes back to the lamp that is bound to all
topics of the room. -/
theorem published_arrives_blink :
    let part : Part Unit Unit :=
      { handlers := [], mind := (), play := fun _ _ => Program.done (.ok (), ()) }
    let lamp : ActorRef :=
      { id := ActorId.ofNat 1, name := "lamp", enqueueTimeout := Duration.ofMillis 100 }
    let publisher : System Unit Unit :=
      create SystemConfig.defaults (Transport.ofCapacity 1) false
    let spawned := ((create SystemConfig.defaults Transport.null false).spawn
      { ActorConfig.defaults with name := "lamp" } part).2
    let receiver := (spawned.withBridge (spawned.bridge.bind "room/*" lamp
      (Reading.typed Rehearsal.blink))).2
    let body := Rehearsal.blinkBody 500
    exists (payload : List UInt8) (final : System Unit Unit),
      publisher.withBridge (publisher.bridge.publish "room/door" body) =
          (.ok (), publisher.handed { topic := "room/door", payload := payload }) ∧
        receiver.deliver "room/door" payload =
          (.ok [{ actor := "lamp", message := "Blink", outcome := .ok () }], final) ∧
        Gets lamp { message := Message.defined "Blink" "Blink" body, sender := none } receiver
          final := by
  intro part lamp publisher spawned receiver body
  have hpublished :
      publisher.withBridge (publisher.bridge.publish "room/door" body) = (.ok (), _) := rfl
  rcases (published_arrives publisher "room/door").left.arrives (Rehearsal.roundTrips_blink 500)
    (Rehearsal.carries_blinkBody 500).left hpublished with ⟨payload, hhanded, htaken⟩
  have hbound : receiver.bridge.bound "room/door" = [] ++ _ :: [] := rfl
  rcases (htaken receiver rfl).turn id [] [] _ [] receiver hbound rfl rfl ⟨_, rfl, rfl, rfl⟩ with
    ⟨next, final, later, hgets, hlater, hdelivered⟩
  cases hlater
  rw [hhanded] at hpublished
  exact ⟨payload, next, hpublished,
    (deliver_eq receiver "room/door" payload).trans hdelivered, hgets⟩

end System
end Troupe
