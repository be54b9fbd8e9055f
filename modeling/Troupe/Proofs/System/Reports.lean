import Mathlib.Logic.Function.Basic
import Troupe.Proofs.System.Delivery

/-!
# What deliveries report

While nobody receives, mailboxes change by deliveries alone.  Each binding for the topic of
a payload gets one line in the report.  The line says that all is well exactly when the
payload could be read for the binding and the mailbox of its actor was open and had a free
slot left by the earlier deliveries of the same report.

What is in the mailboxes afterwards is what was in them before and, in order, one envelope
for each line that says so.
-/

namespace Troupe

inductive Reading.Converts (topic : String) (payload : Tree) : Reading -> Message -> Prop where
  | typed {schema : Schema} {body : Json} :
      schema.read payload.toJson = .ok body ->
        Converts topic payload (Reading.typed schema)
          (Message.defined schema.label schema.name body)
  | raw : Converts topic payload Reading.raw (Message.raw topic payload)
  | setProps : Converts topic payload Reading.setProps (Message.setProps topic payload)

theorem Reading.message_eq_ok_iff {topic : String} {payload : Tree} {reading : Reading}
    {message : Message} :
    reading.message topic payload = .ok message <-> reading.Converts topic payload message := by
  constructor
  · intro h
    cases reading with
    | typed schema =>
        rw [Reading.message, Schema.ofTree] at h
        cases hread : schema.read payload.toJson with
        | error error =>
            rw [hread] at h
            cases h
        | ok body =>
            rw [hread] at h
            cases h
            exact Converts.typed hread
    | raw =>
        cases h
        exact Converts.raw
    | setProps =>
        cases h
        exact Converts.setProps
  · intro h
    cases h with
    | typed hread =>
        rw [Reading.message, Schema.ofTree, hread]
        rfl
    | raw => rfl
    | setProps => rfl

/-!
## Mailboxes
-/

def Mailbox.gaining (m : Mailbox) (envs : List Envelope) : Mailbox :=
  { m with queue := m.queue ++ envs }

@[simp] theorem Mailbox.gaining_nil (m : Mailbox) : m.gaining [] = m := by
  simp [gaining]

theorem Mailbox.gaining_append (m : Mailbox) (first second : List Envelope) :
    m.gaining (first ++ second) = (m.gaining first).gaining second := by
  simp [gaining]

abbrev Mailboxes := ActorId -> Mailbox

namespace Mailboxes

def send (target : ActorRef) (env : Envelope) (boxes : Mailboxes) :
    Except ActorError Unit × Mailboxes :=
  let (outcome, _, m) := (boxes target.id).enqueue env target.enqueueTimeout
  (outcome.mapError target.refusal, Function.update boxes target.id m)

/-- What a sender is told: the mailbox is closed, or full, or all is well. -/
def answer (target : ActorRef) (env : Envelope) (m : Mailbox) : Except ActorError Unit :=
  if m.closed then .error (ActorError.actorStopped target.name)
  else if m.isFull then .error (ActorError.mailboxFull target.name env)
  else .ok ()

variable {boxes : Mailboxes} {target : ActorRef} {env : Envelope}

theorem answer_eq_ok_iff {m : Mailbox} :
    answer target env m = .ok () <-> m.closed = false ∧ m.queue.length < m.capacity := by
  unfold answer Mailbox.isFull
  cases hclosed : m.closed with
  | true => simp
  | false =>
      by_cases hfull : m.capacity ≤ m.queue.length
      · simp [hfull]
      · simp [hfull, Nat.lt_of_not_le hfull]

theorem send_eq (target : ActorRef) (env : Envelope) (boxes : Mailboxes) :
    send target env boxes =
      (answer target env (boxes target.id),
        if (answer target env (boxes target.id)).isOk then
          Function.update boxes target.id ((boxes target.id).gaining [env])
        else boxes) := by
  unfold send answer Mailbox.enqueue Mailbox.tryEnqueue
  cases hclosed : (boxes target.id).closed with
  | true => exact Prod.ext rfl (Function.update_eq_self target.id boxes)
  | false =>
      cases hfull : (boxes target.id).isFull with
      | true => exact Prod.ext rfl (Function.update_eq_self target.id boxes)
      | false => simp [Mailbox.gaining, hclosed, Except.mapError, Except.isOk, Except.toBool]

end Mailboxes

/-!
## Lines of a report
-/

def Binding.line (binding : Binding) (outcome : Except ActorError Unit) : Delivery :=
  { actor := binding.target.name, message := binding.reading.type.name, outcome := outcome }

namespace Bridge

/-- What a line says of a binding whose actor has the mailbox when its turn comes. -/
structure Tells (topic : String) (payload : Tree) (m : Mailbox) (binding : Binding)
    (line : Delivery) : Prop where
  actor : line.actor = binding.target.name
  message : line.message = binding.reading.type.name
  ok_iff :
    line.outcome = .ok () <->
      (exists message : Message, binding.reading.Converts topic payload message) ∧
        m.closed = false ∧ m.queue.length < m.capacity
  unread :
    forall error : CodecError, binding.reading.message topic payload = .error error ->
      line.outcome = .error (ActorError.codec error)
  stopped :
    forall message : Message, binding.reading.Converts topic payload message ->
      m.closed = true -> line.outcome = .error (ActorError.actorStopped binding.target.name)
  /-- A full mailbox hands the envelope back. -/
  full :
    forall message : Message, binding.reading.Converts topic payload message ->
      m.closed = false -> m.capacity ≤ m.queue.length ->
        line.outcome =
          .error (ActorError.mailboxFull binding.target.name
            { message := message, sender := none })

/-- What an actor was given by the lines that say that all is well. -/
def given (topic : String) (payload : Tree) (id : ActorId) (lines : List (Binding × Delivery)) :
    List Envelope :=
  lines.filterMap fun line =>
    if line.1.target.id = id ∧ line.2.outcome.isOk = true then
      (line.1.reading.message topic payload).toOption.map fun message =>
        { message := message, sender := none }
    else none

variable {topic : String} {payload : Tree} {binding : Binding} {line : Delivery}
variable {boxes : Mailboxes}

theorem given_cons (id : ActorId) (line : Binding × Delivery) (lines : List (Binding × Delivery)) :
    given topic payload id (line :: lines) =
      given topic payload id [line] ++ given topic payload id lines := by
  rw [given, given, given, <- List.filterMap_append, List.singleton_append]

theorem given_of_ok {message : Message} (hok : line.outcome = .ok ())
    (hreads : binding.reading.Converts topic payload message) (id : ActorId) :
    given topic payload id [(binding, line)] =
      if binding.target.id = id then [{ message := message, sender := none }] else [] := by
  rw [<- Reading.message_eq_ok_iff] at hreads
  by_cases hid : binding.target.id = id
  · simp [given, hid, hok, hreads, Except.isOk, Except.toBool, Except.toOption]
  · simp [given, hid]

theorem given_of_error {error : ActorError} (herror : line.outcome = .error error)
    (id : ActorId) : given topic payload id [(binding, line)] = [] := by
  simp [given, herror, Except.isOk, Except.toBool]

theorem tells_unread {error : CodecError} {m : Mailbox}
    (hunread : binding.reading.message topic payload = .error error) :
    Tells topic payload m binding (binding.line (.error (ActorError.codec error))) := by
  have hnone : forall message : Message, ¬ binding.reading.Converts topic payload message := by
    intro message hreads
    rw [Reading.message_eq_ok_iff.mpr hreads] at hunread
    cases hunread
  constructor
  case actor => rfl
  case message => rfl
  case ok_iff =>
    constructor
    · intro hok
      cases hok
    · intro hok
      rcases hok.left with ⟨message, hreads⟩
      exact absurd hreads (hnone message)
  case unread =>
    intro other hother
    rw [hunread] at hother
    cases hother
    rfl
  case stopped => exact fun message hreads => absurd hreads (hnone message)
  case full => exact fun message hreads => absurd hreads (hnone message)

theorem tells_read {message : Message} {m : Mailbox}
    (hreads : binding.reading.Converts topic payload message) :
    Tells topic payload m binding
      (binding.line (Mailboxes.answer binding.target (Envelope.ofMessage message) m)) := by
  have hmessage := Reading.message_eq_ok_iff.mpr hreads
  constructor
  case actor => rfl
  case message => rfl
  case ok_iff =>
    constructor
    · intro hok
      exact ⟨⟨message, hreads⟩, Mailboxes.answer_eq_ok_iff.mp hok⟩
    · intro h
      exact Mailboxes.answer_eq_ok_iff.mpr h.right
  case unread =>
    intro error hunread
    rw [hmessage] at hunread
    cases hunread
  case stopped =>
    intro _ _ hclosed
    exact if_pos hclosed
  case full =>
    intro other hother hopen hfull
    rw [Reading.message_eq_ok_iff.mpr hother] at hmessage
    cases hmessage
    have hfull : m.isFull = true := decide_eq_true hfull
    simp [Binding.line, Mailboxes.answer, hopen, hfull, Envelope.ofMessage]

theorem deliverTo_tells (topic : String) (payload : Tree) (binding : Binding)
    (boxes : Mailboxes) :
    exists (line : Delivery) (boxes' : Mailboxes),
      deliverTo Mailboxes.send topic payload binding boxes = (line, boxes') ∧
        Tells topic payload (boxes binding.target.id) binding line ∧
          forall id : ActorId,
            boxes' id = (boxes id).gaining (given topic payload id [(binding, line)]) := by
  unfold deliverTo
  cases hmessage : binding.reading.message topic payload with
  | error error =>
      refine ⟨_, boxes, rfl, tells_unread hmessage, fun id => ?_⟩
      rw [given_of_error rfl, Mailbox.gaining_nil]
  | ok message =>
      have hreads := Reading.message_eq_ok_iff.mp hmessage
      simp only [Mailboxes.send_eq]
      refine ⟨_, _, rfl, tells_read hreads, fun id => ?_⟩
      cases hanswer : Mailboxes.answer binding.target (Envelope.ofMessage message)
          (boxes binding.target.id) with
      | error error =>
          rw [given_of_error rfl, Mailbox.gaining_nil]
          rfl
      | ok =>
          rw [given_of_ok rfl hreads, Except.isOk, Except.toBool, if_pos rfl]
          by_cases hid : binding.target.id = id
          · rw [hid, Function.update_self, if_pos rfl, Envelope.ofMessage]
          · rw [Function.update_of_ne (Ne.symm hid), if_neg hid, Mailbox.gaining_nil]

/-!
## Whole reports
-/

/-- What a report on some bindings says, one line for each in order. -/
structure Accounts (topic : String) (payload : Tree) (bindings : List Binding)
    (boxes : Mailboxes) (report : List Delivery) (boxes' : Mailboxes) : Prop where
  length : report.length = bindings.length
  /-- The turn of a binding is told by the mailbox as the earlier lines have left it. -/
  turn :
    forall (before after : List (Binding × Delivery)) (binding : Binding) (line : Delivery),
      bindings.zip report = before ++ (binding, line) :: after ->
        Tells topic payload
          ((boxes binding.target.id).gaining (given topic payload binding.target.id before))
          binding line
  mailboxes :
    forall id : ActorId,
      boxes' id = (boxes id).gaining (given topic payload id (bindings.zip report))

theorem accounts_nil (topic : String) (payload : Tree) (boxes : Mailboxes) :
    Accounts topic payload [] boxes [] boxes := by
  constructor
  case length => rfl
  case turn =>
    intro before after binding line hzip
    simp at hzip
  case mailboxes => exact fun id => (Mailbox.gaining_nil (boxes id)).symm

theorem Accounts.cons {bindings : List Binding} {report : List Delivery}
    {boxes' boxes'' : Mailboxes}
    (hfirst : Tells topic payload (boxes binding.target.id) binding line)
    (hgiven : forall id : ActorId,
      boxes' id = (boxes id).gaining (given topic payload id [(binding, line)]))
    (hrest : Accounts topic payload bindings boxes' report boxes'') :
    Accounts topic payload (binding :: bindings) boxes (line :: report) boxes'' := by
  constructor
  case length => rw [List.length_cons, List.length_cons, hrest.length]
  case turn =>
    intro before after other line' hzip
    rw [List.zip_cons_cons] at hzip
    cases before with
    | nil =>
        rcases List.cons.inj hzip with ⟨hsame, -⟩
        cases hsame
        rw [given, List.filterMap_nil, Mailbox.gaining_nil]
        exact hfirst
    | cons earlier before =>
        rcases List.cons.inj hzip with ⟨hsame, hlater⟩
        rw [<- hsame, given_cons, Mailbox.gaining_append, <- hgiven]
        exact hrest.turn before after other line' hlater
  case mailboxes =>
    intro id
    rw [List.zip_cons_cons, given_cons, Mailbox.gaining_append, <- hgiven]
    exact hrest.mailboxes id

theorem accounts_deliverAll (topic : String) (payload : Tree) (bindings : List Binding)
    (boxes : Mailboxes) :
    Accounts topic payload bindings boxes
      (deliverAll Mailboxes.send topic payload bindings boxes).1
      (deliverAll Mailboxes.send topic payload bindings boxes).2 := by
  induction bindings generalizing boxes with
  | nil => exact accounts_nil topic payload boxes
  | cons binding rest ih =>
      rcases deliverTo_tells topic payload binding boxes with
        ⟨line, boxes', hturn, htells, hgiven⟩
      unfold deliverAll
      rw [hturn]
      exact Accounts.cons htells hgiven (ih boxes')

theorem delivered_add_failures (report : List Delivery) :
    delivered report + (failures report).length = report.length := by
  rw [delivered, failures, List.countP_eq_length_filter]
  exact (List.length_eq_length_filter_add _).symm

end Bridge

namespace System

variable {σ α : Type} {s : System σ α} {target : ActorRef}

/-!
## Systems whose actors do nothing
-/

/-- The mailboxes of the actors of a system.  Who is not among them takes nothing. -/
def mailboxes (s : System σ α) : Mailboxes := fun id =>
  match s.performers.find? fun p => p.actor.ref.id == id with
  | some p => p.actor.mailbox
  | none => { capacity := 0, queue := [], closed := true }

/-- A performer that goes on for no envelope: it holds, or it has stopped or is gone, and it
has no timers that could fire. -/
structure Idle (p : Performer σ α) : Prop where
  waits :
    (exists next : Program (Except ActorError Unit × σ), p.activity = Activity.holding next) ∨
      p.activity = Activity.free ∧ p.actor.hook = none ∧ p.actor.agenda = [] ∧
        p.actor.state ≠ ActorState.running ∨
      p.activity = Activity.gone
  timers : p.actor.timersRun = false ∨ p.actor.timers.armed = []

/-- Nobody receives anything, however long the system runs. -/
def Unattended (s : System σ α) : Prop :=
  forall p : Performer σ α, p ∈ s.performers -> Idle p

theorem Idle.timersDue {p : Performer σ α} (h : Idle p) (now : Instant) :
    p.actor.timersDue now = false := by
  unfold Actor.timersDue
  rcases h.timers with hrun | harmed
  · rw [hrun]
    rfl
  · simp [Timers.due, harmed]

theorem Idle.awaited? {p : Performer σ α} (h : Idle p) (s : System σ α) :
    s.awaited? p = none := by
  have hfire : p.actor.nextFire? = none := by
    unfold Actor.nextFire?
    rcases h.timers with hrun | harmed
    · rw [hrun]
      rfl
    · simp [Timers.nextDeadline?, harmed]
  unfold System.awaited?
  rw [hfire]
  rcases h.waits with ⟨next, hholding⟩ | ⟨hfree, -⟩ | hgone
  · simp [hholding]
  · simp [hfree]
  · simp [hgone]

theorem Unattended.takeTurn? (h : s.Unattended) (i : Nat) : s.takeTurn? i = none := by
  unfold System.takeTurn?
  split
  · rfl
  · next p hp =>
      have hidle := h p (List.mem_of_getElem? hp)
      rcases hidle.waits with ⟨next, hholding⟩ | ⟨hfree, hhook, hagenda, hstate⟩ | hgone
      · rw [hholding]
      · have hadvance : p.actor.advance = none := by
          unfold Actor.advance
          rw [hhook, hagenda]
          exact if_neg hstate
        rw [hfree]
        simp only [hadvance, Option.map_none]
      · rw [hgone]

theorem Unattended.settle (h : s.Unattended) : s.settle = s := by
  have hfirst : s.takeFirstTurn? = none := by
    unfold System.takeFirstTurn?
    simp [h.takeTurn?]
  have hfire : s.fireTimers? = none := by
    unfold System.fireTimers?
    rw [if_neg]
    simp only [List.any_eq_true, not_exists, not_and, Bool.not_eq_true]
    intro p hp
    rw [(h p hp).timersDue, Bool.and_false]
  have hpass : s.passTime? = none := by
    have hnone : (s.performers.filterMap fun p =>
        (s.awaited? p).map fun moment => (moment, p.clock)) = [] := by
      rw [List.filterMap_eq_nil_iff]
      intro p hp
      rw [(h p hp).awaited? s]
      rfl
    unfold System.passTime?
    rw [hnone]
  have hany : forall turns : Nat, settleWith turns 0 s = s := by
    intro turns
    cases turns with
    | zero => rfl
    | succ turns =>
        unfold settleWith
        rw [h.takeTurn? 0, hfirst, hfire, hpass]
  exact hany turnLimit

/-!
## Posts
-/

theorem find?_modify {performers : List (Performer σ α)} {i : Nat} {id : ActorId}
    {f : Performer σ α -> Performer σ α}
    (hposition : (performers.findIdx? fun p => p.actor.ref.id == id) = some i)
    (hid : forall p : Performer σ α, (f p).actor.ref.id = id) (other : ActorId) :
    ((performers.modify i f).find? fun p => p.actor.ref.id == other) =
      if other = id then (performers.find? fun p => p.actor.ref.id == id).map f
      else performers.find? fun p => p.actor.ref.id == other := by
  induction performers generalizing i with
  | nil => cases hposition
  | cons first rest ih =>
      rw [List.findIdx?_cons] at hposition
      by_cases hfirst : first.actor.ref.id = id
      · rw [beq_iff_eq.mpr hfirst, if_pos rfl] at hposition
        cases hposition
        by_cases hother : other = id
        · simp [hother, hfirst, hid]
        · simp [hother, hfirst, hid, Ne.symm hother]
      · rw [beq_eq_false_iff_ne.mpr hfirst, if_neg Bool.false_ne_true] at hposition
        rcases Option.map_eq_some_iff.mp hposition with ⟨j, hj, hsucc⟩
        cases hsucc
        rw [List.modify_succ_cons, List.find?_cons, ih hj]
        by_cases hother : other = id
        · simp [hother, beq_eq_false_iff_ne.mpr hfirst]
        · simp [hother, List.find?_cons]

theorem mailboxes_of_actor? {a : Actor α} (h : s.actor? target = some a) :
    s.mailboxes target.id = a.mailbox := by
  rcases Option.map_eq_some_iff.mp h with ⟨p, hp, rfl⟩
  unfold performer? at hp
  unfold mailboxes
  rw [hp]

theorem mailboxes_modifyActor {a a' : Actor α} {i : Nat} (hactor : s.actor? target = some a)
    (hposition : s.position? target = some i) (hid : a'.ref.id = target.id) :
    (s.modifyActor i fun _ => a').mailboxes =
      Function.update s.mailboxes target.id a'.mailbox := by
  rcases Option.map_eq_some_iff.mp hactor with ⟨p, hp, -⟩
  unfold performer? at hp
  funext other
  have hfound := find?_modify hposition (f := fun p => { p with actor := a' }) (fun _ => hid) other
  unfold mailboxes modifyActor modify
  simp only [hfound]
  by_cases hother : other = target.id
  · rw [hother, if_pos rfl, Function.update_self, hp]
    rfl
  · rw [Function.update_of_ne hother, if_neg hother]

theorem post_eq {a : Actor α} {i : Nat} (hactor : s.actor? target = some a)
    (hposition : s.position? target = some i) (env : Envelope) :
    s.post target env =
      (Mailboxes.answer target env a.mailbox,
        if (Mailboxes.answer target env a.mailbox).isOk then
          s.modifyActor i fun _ => { a with mailbox := a.mailbox.gaining [env] }
        else s) := by
  unfold post Actor.accept Mailbox.tryEnqueue Mailboxes.answer
  simp only [hactor, hposition]
  cases hclosed : a.mailbox.closed with
  | true => rfl
  | false =>
      cases hfull : a.mailbox.isFull with
      | true => rfl
      | false => simp [Mailbox.gaining, hclosed, Except.isOk, Except.toBool]

theorem post_mailboxes (s : System σ α) (target : ActorRef) (env : Envelope) :
    (s.post target env).1 = (Mailboxes.send target env s.mailboxes).1 ∧
      (s.post target env).2.mailboxes = (Mailboxes.send target env s.mailboxes).2 := by
  rw [Mailboxes.send_eq]
  cases hactor : s.actor? target with
  | none =>
      have hbox : s.mailboxes target.id = { capacity := 0, queue := [], closed := true } := by
        have hnone : s.performer? target = none := Option.map_eq_none_iff.mp hactor
        unfold performer? at hnone
        unfold mailboxes
        rw [hnone]
      unfold post
      rw [hactor, hbox]
      exact ⟨rfl, rfl⟩
  | some a =>
      rcases position?_of_actor? hactor with ⟨i, -, hposition, -, -, hid⟩
      rw [post_eq hactor hposition, mailboxes_of_actor? hactor]
      refine ⟨rfl, ?_⟩
      cases Mailboxes.answer target env a.mailbox with
      | error error => rfl
      | ok => exact mailboxes_modifyActor hactor hposition hid

theorem Idle.gaining {p : Performer σ α} (h : Idle p) (envs : List Envelope) :
    Idle { p with actor := { p.actor with mailbox := p.actor.mailbox.gaining envs } } :=
  ⟨h.waits, h.timers⟩

theorem Unattended.post (h : s.Unattended) (target : ActorRef) (env : Envelope) :
    (s.post target env).2.Unattended := by
  cases hactor : s.actor? target with
  | none =>
      unfold System.post
      rw [hactor]
      exact h
  | some a =>
      rcases position?_of_actor? hactor with ⟨i, p, hposition, hp, rfl, -⟩
      rw [post_eq hactor hposition]
      cases Mailboxes.answer target env p.actor.mailbox with
      | error error => exact h
      | ok =>
          intro q hq
          rcases List.mem_iff_getElem?.mp hq with ⟨j, hj⟩
          rcases modify_cases hj with ⟨rfl, p', hp', rfl⟩ | ⟨-, hj⟩
          · cases hp.symm.trans hp'
            exact (h p (List.mem_of_getElem? hp)).gaining [env]
          · exact h q (List.mem_of_getElem? hj)

/-- A system whose actors do nothing sends as its mailboxes do. -/
theorem Unattended.send (h : s.Unattended) (target : ActorRef) (env : Envelope) :
    (System.send target env s).1 = (Mailboxes.send target env s.mailboxes).1 ∧
      (System.send target env s).2.mailboxes = (Mailboxes.send target env s.mailboxes).2 ∧
        (System.send target env s).2.Unattended := by
  have hpost : System.send target env s = s.post target env := by
    unfold System.send
    rw [h.settle, ite_self]
  rw [hpost]
  exact ⟨(post_mailboxes s target env).left, (post_mailboxes s target env).right,
    h.post target env⟩

theorem Unattended.deliverAll (h : s.Unattended) (topic : String) (payload : Tree)
    (bindings : List Binding) :
    (Bridge.deliverAll System.send topic payload bindings s).1 =
        (Bridge.deliverAll Mailboxes.send topic payload bindings s.mailboxes).1 ∧
      (Bridge.deliverAll System.send topic payload bindings s).2.mailboxes =
        (Bridge.deliverAll Mailboxes.send topic payload bindings s.mailboxes).2 := by
  induction bindings generalizing s with
  | nil => exact ⟨rfl, rfl⟩
  | cons binding rest ih =>
      unfold Bridge.deliverAll Bridge.deliverTo
      cases binding.reading.message topic payload with
      | error error =>
          rcases ih h with ⟨hreport, hboxes⟩
          exact ⟨congrArg _ hreport, hboxes⟩
      | ok message =>
          rcases h.send binding.target (Envelope.ofMessage message) with ⟨hanswer, hsent, hnext⟩
          rcases ih hnext with ⟨hreport, hboxes⟩
          simp only [hanswer, <- hsent]
          exact ⟨congrArg _ hreport, hboxes⟩

end System

namespace Bridge

/-- What comes of a decoded payload on a topic while nobody receives. -/
structure Reports (b : Bridge) (topic : String) (payload : Tree) (boxes : Mailboxes)
    (report : List Delivery) (boxes' : Mailboxes) : Prop where
  accounts :
    Accounts topic payload (b.bindings.filter fun binding => binding.pattern.covers topic) boxes
      report boxes'
  /-- By a line that says that all is well, its actor is given one envelope. -/
  once :
    forall (binding : Binding) (line : Delivery),
      (binding, line) ∈ (b.bound topic).zip report -> line.outcome = .ok () ->
        exists message : Message, binding.reading.Converts topic payload message ∧
          forall id : ActorId,
            given topic payload id [(binding, line)] =
              if binding.target.id = id then [{ message := message, sender := none }] else []
  refused :
    forall (binding : Binding) (line : Delivery) (error : ActorError),
      line.outcome = .error error ->
        forall id : ActorId, given topic payload id [(binding, line)] = []
  counted : delivered report + (failures report).length = report.length
  decoded :
    forall bytes : List UInt8, b.decode bytes = .ok payload ->
      b.deliver Mailboxes.send topic bytes boxes = (.ok report, boxes')

theorem reports_deliverTree (b : Bridge) (topic : String) (payload : Tree) (boxes : Mailboxes) :
    b.Reports topic payload boxes (b.deliverTree Mailboxes.send topic payload boxes).1
      (b.deliverTree Mailboxes.send topic payload boxes).2 := by
  have haccounts := accounts_deliverAll topic payload (b.bound topic) boxes
  constructor
  case accounts => exact haccounts
  case once =>
    intro binding line hline hok
    rcases List.append_of_mem hline with ⟨before, after, hzip⟩
    have htells := haccounts.turn before after binding line hzip
    rcases (htells.ok_iff.mp hok).left with ⟨message, hreads⟩
    exact ⟨message, hreads, given_of_ok hok hreads⟩
  case refused => exact fun binding line error herror => given_of_error herror
  case counted => exact delivered_add_failures _
  case decoded =>
    intro bytes hbytes
    unfold deliver
    rw [hbytes]

/-- For every table of bindings, every topic and all mailboxes, the report tells what has come
into the mailboxes.  Every system whose actors do nothing meanwhile reports the same, and its
mailboxes end up the same.  A payload that does not decode goes nowhere. -/
theorem deliveries_reported (b : Bridge) (topic : String) (boxes : Mailboxes) :
    (forall payload : Tree,
      exists (report : List Delivery) (boxes' : Mailboxes),
        b.deliverTree Mailboxes.send topic payload boxes = (report, boxes') ∧
          b.Reports topic payload boxes report boxes' ∧
            forall {σ α : Type} (s : System σ α), s.Unattended -> s.bridge = b ->
              s.mailboxes = boxes ->
                exists s' : System σ α,
                  s.deliverTree topic payload = (report, s') ∧ s'.mailboxes = boxes') ∧
      forall (bytes : List UInt8) (error : ActorError), b.decode bytes = .error error ->
        b.deliver Mailboxes.send topic bytes boxes = (.error error, boxes) ∧
          forall {σ α : Type} (s : System σ α), s.bridge = b ->
            s.deliver topic bytes = (.error error, s) := by
  constructor
  · intro payload
    refine ⟨_, _, rfl, b.reports_deliverTree topic payload boxes, ?_⟩
    intro σ α s hunattended hbridge hboxes
    rw [<- hbridge, <- hboxes]
    rcases hunattended.deliverAll topic payload (s.bridge.bound topic) with ⟨hreport, hboxes'⟩
    exact ⟨_, Prod.ext hreport rfl, hboxes'⟩
  · intro bytes error herror
    constructor
    · unfold deliver
      rw [herror]
    · intro σ α s hbridge
      unfold System.deliver deliver
      rw [hbridge, herror]

/-- A lamp that holds, with room for one envelope, and a door.  The lamp makes no note of the
payload, takes it as it is, and is full when it should write it to its properties.  The door
still gets it. -/
theorem deliveries_reported_full :
    let lamp : ActorRef :=
      { id := ActorId.ofNat 1, name := "lamp", enqueueTimeout := Duration.ofMillis 100 }
    let door : ActorRef :=
      { id := ActorId.ofNat 2, name := "door", enqueueTimeout := Duration.ofMillis 100 }
    let pattern : TopicPattern := { text := "room", segments := [.literal "room".toList] }
    let b : Bridge :=
      { Bridge.create Transport.null Format.cbor with
        bindings :=
          [{ pattern := pattern, target := lamp, reading := Reading.typed Rehearsal.note },
            { pattern := pattern, target := lamp, reading := Reading.raw },
            { pattern := pattern, target := lamp, reading := Reading.setProps },
            { pattern := pattern, target := door, reading := Reading.raw }] }
    let holding : ActorRef -> Nat -> Performer Unit Unit := fun ref capacity =>
      { actor := Actor.create ref "house" [] capacity, mind := ()
        play := fun _ _ => Program.done (.ok (), ())
        activity := Activity.holding (Program.done (.ok (), ())), thread := ref.name, clock := 0 }
    let empty : System Unit Unit := System.create SystemConfig.defaults Transport.null false
    let s := { empty with performers := [holding lamp 1, holding door 8], bridge := b }
    let payload := Tree.bool true
    let report : List Delivery :=
      [{ actor := "lamp", message := "Note"
         outcome := .error (ActorError.codec (CodecError.decode Format.json
           (DecodeFault.shape
            (ShapeError.invalidType payload.toJson.found "a string")))) },
        { actor := "lamp", message := "RawMessage", outcome := .ok () },
        { actor := "lamp", message := "SetProps"
          outcome := .error (ActorError.mailboxFull "lamp"
            { message := Message.setProps "room" payload, sender := none }) },
        { actor := "door", message := "RawMessage", outcome := .ok () }]
    s.Unattended ∧
      b.deliver Mailboxes.send "room" [0xF5] s.mailboxes =
        (.ok report, (b.deliverTree Mailboxes.send "room" payload s.mailboxes).2) ∧
      (exists s' : System Unit Unit,
        s.deliverTree "room" payload = (report, s') ∧
          (s'.mailboxes lamp.id).queue =
            [{ message := Message.raw "room" payload, sender := none }] ∧
          (s'.mailboxes door.id).queue =
            [{ message := Message.raw "room" payload, sender := none }]) ∧
      exists error : ActorError, s.deliver "room" [] = (.error error, s) := by
  intro lamp door pattern b holding empty s payload report
  have hunattended : s.Unattended := by
    intro p hp
    have hholding : p = holding lamp 1 ∨ p = holding door 8 := by simpa [s] using hp
    rcases hholding with hlamp | hdoor
    · rw [hlamp]
      exact ⟨Or.inl ⟨_, rfl⟩, Or.inr rfl⟩
    · rw [hdoor]
      exact ⟨Or.inl ⟨_, rfl⟩, Or.inr rfl⟩
  rcases deliveries_reported b "room" s.mailboxes with ⟨hdecoded, hundecoded⟩
  rcases hdecoded payload with ⟨found, boxes, htree, hreports, hsystem⟩
  have hfound : report = found := congrArg Prod.fst htree
  have hboxes : (b.deliverTree Mailboxes.send "room" payload s.mailboxes).2 = boxes :=
    congrArg Prod.snd htree
  rw [<- hfound, <- hboxes] at hreports
  rcases hsystem s hunattended rfl rfl with ⟨s', hdelivered, hboxes'⟩
  rw [<- hfound] at hdelivered
  refine ⟨hunattended, hreports.decoded [0xF5] rfl, ⟨s', hdelivered, ?_, ?_⟩, ?_⟩
  · rw [hboxes', <- hboxes]
    rfl
  · rw [hboxes', <- hboxes]
    rfl
  · exact ⟨_, (hundecoded [] _ rfl).right s rfl⟩

end Bridge
end Troupe
