import Mathlib.Data.List.Basic
import Troupe.Mailbox

/-!
# Requests to a mailbox

Senders and the receiver of a mailbox only see what it answers.  The answers so far determine
the next one: the mailbox is open until it is drained, and what waits in it is what it has
accepted less what has been taken from it.  A request that is refused, or for which there is
nothing, leaves the mailbox as it was.

A receiver that has to wait asks again; nothing happens to the mailbox in between that is not
a request itself.
-/

namespace Troupe
namespace Mailbox

inductive Request where
  | send (env : Envelope)
  | receive (stop : Bool)
  /-- Takes what is there without waiting, whether a stop was requested or not. -/
  | poll
  | drain

inductive Answer where
  | sent (result : Except EnqueueError Unit)
  | received (receipt : Receipt)
  | polled (env? : Option Envelope)
  | drained (count : Nat)

structure Exchange where
  request : Request
  answer : Answer

def serve (m : Mailbox) : Request -> Answer × Mailbox
  | Request.send env =>
      match m.tryEnqueue env with
      | .ok m' => (Answer.sent (.ok ()), m')
      | .error error => (Answer.sent (.error error), m)
  | Request.receive stop => (Answer.received (m.dequeue stop).1, (m.dequeue stop).2)
  | Request.poll => (Answer.polled m.tryDequeue.1, m.tryDequeue.2)
  | Request.drain => (Answer.drained m.drain.1, m.drain.2)

/-- A mailbox together with what it was asked for and answered since it was made. -/
structure Course where
  log : List Exchange
  mailbox : Mailbox

def Course.next (c : Course) (request : Request) : Course :=
  { log := c.log ++ [{ request := request, answer := (c.mailbox.serve request).1 }]
    mailbox := (c.mailbox.serve request).2 }

def course (capacity : Nat) (requests : List Request) : Course :=
  requests.foldl Course.next { log := [], mailbox := create capacity }

/-!
## What a log tells
-/

def Exchange.accepted? : Exchange -> Option Envelope
  | ⟨Request.send env, Answer.sent (.ok _)⟩ => some env
  | _ => none

def Exchange.taken? : Exchange -> Option Envelope
  | ⟨_, Answer.received (Receipt.envelope env)⟩ => some env
  | ⟨_, Answer.polled env?⟩ => env?
  | _ => none

def Exchange.discarded : Exchange -> Nat
  | ⟨_, Answer.drained count⟩ => count
  | _ => 0

def accepted (log : List Exchange) : List Envelope :=
  log.filterMap Exchange.accepted?

def taken (log : List Exchange) : List Envelope :=
  log.filterMap Exchange.taken?

def discarded : List Exchange -> Nat
  | [] => 0
  | exchange :: rest => exchange.discarded + discarded rest

def Open (log : List Exchange) : Prop :=
  forall exchange : Exchange, exchange ∈ log -> exchange.request ≠ Request.drain

/-- What has been accepted and not yet taken. -/
def waiting (log : List Exchange) : List Envelope :=
  (accepted log).drop (taken log).length

variable {log : List Exchange} {exchange : Exchange}

theorem accepted_append : accepted (log ++ [exchange]) =
    accepted log ++ exchange.accepted?.toList := by
  rw [accepted, List.filterMap_append]
  cases h : exchange.accepted? <;> simp [accepted, h]

theorem taken_append : taken (log ++ [exchange]) = taken log ++ exchange.taken?.toList := by
  rw [taken, List.filterMap_append]
  cases h : exchange.taken? <;> simp [taken, h]

theorem discarded_append : discarded (log ++ [exchange]) =
    discarded log + exchange.discarded := by
  induction log with
  | nil => exact Nat.add_comm _ _
  | cons first rest ih => rw [List.cons_append, discarded, discarded, ih, Nat.add_assoc]

theorem open_append_iff :
    Open (log ++ [exchange]) <-> Open log ∧ exchange.request ≠ Request.drain := by
  simp [Open, or_imp, forall_and]

/-!
## Accounts
-/

/-- The mailbox never holds more than it has room for.  What was accepted has left it in the
order of arrival, has been discarded and counted, or is still queued. -/
structure Accounted (slots : Nat) (c : Course) : Prop where
  capacity : c.mailbox.capacity = max slots 1
  bounded : c.mailbox.queue.length ≤ max slots 1
  closed_iff : c.mailbox.closed = true <-> ¬ Open c.log
  emptied : ¬ Open c.log -> c.mailbox.queue = []
  accounts : exists dropped : List Envelope,
    accepted c.log = taken c.log ++ dropped ++ c.mailbox.queue ∧
      dropped.length = discarded c.log ∧ (Open c.log -> dropped = [])

/-- How a mailbox answers a request, by what it has answered so far. -/
inductive Serves (slots : Nat) (c : Course) : Request -> Answer -> Mailbox -> Prop where
  | accepted {env : Envelope} {m : Mailbox} : Open c.log ->
      (waiting c.log).length < max slots 1 ->
        m = { c.mailbox with queue := c.mailbox.queue ++ [env] } ->
          m.available + 1 = c.mailbox.available ->
            Serves slots c (Request.send env) (Answer.sent (.ok ())) m
  | full {env : Envelope} : Open c.log -> (waiting c.log).length = max slots 1 ->
      Serves slots c (Request.send env) (Answer.sent (.error (EnqueueError.full env)))
        c.mailbox
  | closed {env : Envelope} : ¬ Open c.log ->
      Serves slots c (Request.send env) (Answer.sent (.error (EnqueueError.closed env)))
        c.mailbox
  | stopped : Serves slots c (Request.receive true) (Answer.received Receipt.ended) c.mailbox
  | took {env : Envelope} {rest : List Envelope} {m : Mailbox} : Open c.log ->
      waiting c.log = env :: rest -> m = { c.mailbox with queue := rest } ->
        m.available = c.mailbox.available + 1 ->
          Serves slots c (Request.receive false) (Answer.received (Receipt.envelope env)) m
  | pending : Open c.log -> waiting c.log = [] ->
      Serves slots c (Request.receive false) (Answer.received Receipt.pending) c.mailbox
  | ended : ¬ Open c.log ->
      Serves slots c (Request.receive false) (Answer.received Receipt.ended) c.mailbox
  | polled {env : Envelope} {rest : List Envelope} {m : Mailbox} : Open c.log ->
      waiting c.log = env :: rest -> m = { c.mailbox with queue := rest } ->
        m.available = c.mailbox.available + 1 ->
          Serves slots c Request.poll (Answer.polled (some env)) m
  | nothing : (Open c.log -> waiting c.log = []) ->
      Serves slots c Request.poll (Answer.polled none) c.mailbox
  | drained {m : Mailbox} : Open c.log ->
      m = { c.mailbox with queue := [], closed := true } ->
        Serves slots c Request.drain (Answer.drained (waiting c.log).length) m
  | drainedAgain : ¬ Open c.log ->
      Serves slots c Request.drain (Answer.drained 0) c.mailbox

variable {n : Nat} {c : Course} {request : Request}

theorem Serves.accepted_iff {env : Envelope} {answer : Answer} {m : Mailbox}
    (h : Serves n c (Request.send env) answer m) :
    answer = Answer.sent (.ok ()) <-> Open c.log ∧ (waiting c.log).length < max n 1 := by
  cases h with
  | accepted hopen hroom => exact iff_of_true rfl ⟨hopen, hroom⟩
  | full _ hfull => exact iff_of_false nofun fun h => Nat.ne_of_lt h.right hfull
  | closed hclosed => exact iff_of_false nofun fun h => hclosed h.left

theorem accounted_create (n : Nat) : Accounted n { log := [], mailbox := create n } := by
  have hopen : Open [] := List.forall_mem_nil _
  constructor
  case capacity => rfl
  case bounded => exact Nat.zero_le _
  case closed_iff => exact iff_of_false Bool.false_ne_true (not_not_intro hopen)
  case emptied => exact fun _ => rfl
  case accounts => exact ⟨[], rfl, rfl, fun _ => rfl⟩

namespace Accounted

theorem closed_eq (h : Accounted n c) (hopen : Open c.log) : c.mailbox.closed = false :=
  Bool.eq_false_iff.mpr fun hclosed => h.closed_iff.mp hclosed hopen

theorem accepted_eq (h : Accounted n c) (hopen : Open c.log) :
    accepted c.log = taken c.log ++ c.mailbox.queue := by
  rcases h.accounts with ⟨dropped, haccepted, -, hnone⟩
  rw [haccepted, hnone hopen, List.append_nil]

theorem waiting_eq (h : Accounted n c) (hopen : Open c.log) :
    waiting c.log = c.mailbox.queue := by
  rw [waiting, h.accepted_eq hopen, List.drop_left]

theorem available_tail (h : Accounted n c) {env : Envelope} {rest : List Envelope}
    (hqueue : c.mailbox.queue = env :: rest) :
    ({ c.mailbox with queue := rest } : Mailbox).available = c.mailbox.available + 1 := by
  have hbounded := h.bounded
  rw [hqueue, List.length_cons, <- h.capacity] at hbounded
  simp only [available, hqueue, List.length_cons]
  omega

theorem serves_send (h : Accounted n c) (env : Envelope) :
    Serves n c (Request.send env) (c.mailbox.serve (Request.send env)).1
      (c.mailbox.serve (Request.send env)).2 := by
  by_cases hopen : Open c.log
  · have hwaiting := h.waiting_eq hopen
    have hcapacity := h.capacity
    cases hfull : c.mailbox.isFull with
    | true =>
        have hlength : c.mailbox.capacity ≤ c.mailbox.queue.length := by
          simpa [isFull] using hfull
        have hbounded := h.bounded
        simp only [serve, tryEnqueue, h.closed_eq hopen, hfull, Bool.false_eq_true, if_false,
          if_true]
        exact Serves.full hopen (by rw [hwaiting]; omega)
    | false =>
        have hlength : c.mailbox.queue.length < c.mailbox.capacity := by
          simpa [isFull] using hfull
        have hclosed : ¬ c.mailbox.closed = true := Bool.eq_false_iff.mp (h.closed_eq hopen)
        simp only [serve, tryEnqueue, if_neg hclosed, hfull, Bool.false_eq_true, if_false]
        refine Serves.accepted hopen (by rw [hwaiting]; omega) rfl ?_
        simp only [available, List.length_append, List.length_singleton]
        omega
  · have hclosed := h.closed_iff.mpr hopen
    simp only [serve, tryEnqueue, if_pos hclosed]
    exact Serves.closed hopen

theorem serves_receive (h : Accounted n c) (stop : Bool) :
    Serves n c (Request.receive stop) (c.mailbox.serve (Request.receive stop)).1
      (c.mailbox.serve (Request.receive stop)).2 := by
  cases stop with
  | true => exact Serves.stopped
  | false =>
      by_cases hopen : Open c.log
      · have hwaiting := h.waiting_eq hopen
        cases hqueue : c.mailbox.queue with
        | nil =>
            simp only [serve, dequeue, receive, hqueue, h.closed_eq hopen, Bool.false_eq_true, if_false]
            exact Serves.pending hopen (hwaiting.trans hqueue)
        | cons env rest =>
            simp only [serve, dequeue, receive, hqueue, Bool.false_eq_true, if_false]
            exact Serves.took hopen (hwaiting.trans hqueue) rfl (h.available_tail hqueue)
      · have hclosed := h.closed_iff.mpr hopen
        simp only [serve, dequeue, receive, h.emptied hopen, if_pos hclosed, Bool.false_eq_true,
          if_false]
        exact Serves.ended hopen

theorem serves_poll (h : Accounted n c) :
    Serves n c Request.poll (c.mailbox.serve Request.poll).1
      (c.mailbox.serve Request.poll).2 := by
  cases hqueue : c.mailbox.queue with
  | nil =>
      simp only [serve, tryDequeue, hqueue]
      exact Serves.nothing fun hopen => (h.waiting_eq hopen).trans hqueue
  | cons env rest =>
      have hopen : Open c.log := by
        by_contra hclosed
        cases hqueue.symm.trans (h.emptied hclosed)
      simp only [serve, tryDequeue, hqueue]
      exact Serves.polled hopen ((h.waiting_eq hopen).trans hqueue) rfl
        (h.available_tail hqueue)

theorem serves_drain (h : Accounted n c) :
    Serves n c Request.drain (c.mailbox.serve Request.drain).1
      (c.mailbox.serve Request.drain).2 := by
  by_cases hopen : Open c.log
  · simp only [serve, Mailbox.drain]
    rw [<- h.waiting_eq hopen]
    exact Serves.drained hopen rfl
  · have hsame : c.mailbox.serve Request.drain = (Answer.drained 0, c.mailbox) := by
      have hqueue := h.emptied hopen
      have hclosed := h.closed_iff.mpr hopen
      rcases hm : c.mailbox with ⟨capacity, queue, closed⟩
      rw [hm] at hqueue hclosed
      subst hqueue hclosed
      rfl
    rw [hsame]
    exact Serves.drainedAgain hopen

theorem serves (h : Accounted n c) (request : Request) :
    Serves n c request (c.mailbox.serve request).1 (c.mailbox.serve request).2 := by
  cases request with
  | send env => exact h.serves_send env
  | receive stop => exact h.serves_receive stop
  | poll => exact h.serves_poll
  | drain => exact h.serves_drain

theorem keep (h : Accounted n c) (hrequest : request ≠ Request.drain ∨ ¬ Open c.log)
    {answer : Answer} (haccepted : (Exchange.mk request answer).accepted? = none)
    (htaken : (Exchange.mk request answer).taken? = none)
    (hdiscarded : (Exchange.mk request answer).discarded = 0) :
    Accounted n { log := c.log ++ [⟨request, answer⟩], mailbox := c.mailbox } := by
  have hopen : Open (c.log ++ [⟨request, answer⟩]) <-> Open c.log := by
    rw [open_append_iff]
    tauto
  rcases h.accounts with ⟨dropped, hall, hcount, hnone⟩
  constructor
  case capacity => exact h.capacity
  case bounded => exact h.bounded
  case closed_iff => rw [hopen, h.closed_iff]
  case emptied => exact fun hclosed => h.emptied fun hlog => hclosed (hopen.mpr hlog)
  case accounts =>
    refine ⟨dropped, ?_, ?_, fun hlog => hnone (hopen.mp hlog)⟩
    · simp [accepted_append, taken_append, haccepted, htaken, hall]
    · rw [discarded_append, hdiscarded, hcount, Nat.add_zero]

theorem push (h : Accounted n c) (hopen : Open c.log) (env : Envelope)
    (hroom : (waiting c.log).length < max n 1) :
    Accounted n { log := c.log ++ [⟨Request.send env, Answer.sent (.ok ())⟩]
                  mailbox := { c.mailbox with queue := c.mailbox.queue ++ [env] } } := by
  have hlater : Open (c.log ++ [⟨Request.send env, Answer.sent (.ok ())⟩]) :=
    open_append_iff.mpr ⟨hopen, nofun⟩
  rw [h.waiting_eq hopen] at hroom
  constructor
  case capacity => exact h.capacity
  case bounded =>
    rw [List.length_append, List.length_singleton]
    exact hroom
  case closed_iff =>
    exact iff_of_false (Bool.eq_false_iff.mp (h.closed_eq hopen)) (not_not_intro hlater)
  case emptied => exact fun hclosed => absurd hlater hclosed
  case accounts =>
    rcases h.accounts with ⟨dropped, hall, hcount, hnone⟩
    refine ⟨dropped, ?_, ?_, fun _ => hnone hopen⟩
    · simp [accepted_append, taken_append, Exchange.accepted?, Exchange.taken?, hall]
    · rw [discarded_append, hcount]
      rfl

theorem pop (h : Accounted n c) (hopen : Open c.log) {env : Envelope} {rest : List Envelope}
    (hwaiting : waiting c.log = env :: rest) {answer : Answer}
    (hrequest : request ≠ Request.drain)
    (haccepted : (Exchange.mk request answer).accepted? = none)
    (htaken : (Exchange.mk request answer).taken? = some env)
    (hdiscarded : (Exchange.mk request answer).discarded = 0) :
    Accounted n { log := c.log ++ [⟨request, answer⟩]
                  mailbox := { c.mailbox with queue := rest } } := by
  have hlater : Open (c.log ++ [⟨request, answer⟩]) := open_append_iff.mpr ⟨hopen, hrequest⟩
  have hqueue : c.mailbox.queue = env :: rest := (h.waiting_eq hopen).symm.trans hwaiting
  constructor
  case capacity => exact h.capacity
  case bounded =>
    have hbounded := h.bounded
    rw [hqueue, List.length_cons] at hbounded
    exact Nat.le_of_succ_le hbounded
  case closed_iff =>
    exact iff_of_false (Bool.eq_false_iff.mp (h.closed_eq hopen)) (not_not_intro hlater)
  case emptied => exact fun hclosed => absurd hlater hclosed
  case accounts =>
    rcases h.accounts with ⟨dropped, hall, hcount, hnone⟩
    obtain rfl : dropped = [] := hnone hopen
    refine ⟨[], ?_, ?_, fun _ => rfl⟩
    · simp [accepted_append, taken_append, haccepted, htaken, hall, hqueue]
    · rw [discarded_append, hdiscarded, <- hcount]
      rfl

theorem close (h : Accounted n c) (hopen : Open c.log) :
    Accounted n { log := c.log ++ [⟨Request.drain, Answer.drained (waiting c.log).length⟩]
                  mailbox := { c.mailbox with queue := [], closed := true } } := by
  have hlater : ¬ Open (c.log ++ [⟨Request.drain, Answer.drained (waiting c.log).length⟩]) :=
    fun hlog => (open_append_iff.mp hlog).right rfl
  constructor
  case capacity => exact h.capacity
  case bounded => exact Nat.zero_le _
  case closed_iff => exact iff_of_true rfl hlater
  case emptied => exact fun _ => rfl
  case accounts =>
    rcases h.accounts with ⟨dropped, hall, hcount, hnone⟩
    obtain rfl : dropped = [] := hnone hopen
    refine ⟨c.mailbox.queue, ?_, ?_, fun hlog => absurd hlog hlater⟩
    · simp [accepted_append, taken_append, Exchange.accepted?, Exchange.taken?, hall]
    · rw [discarded_append, <- hcount, h.waiting_eq hopen]
      simp [Exchange.discarded]

theorem next (h : Accounted n c) (request : Request) : Accounted n (c.next request) := by
  have hserves := h.serves request
  unfold Course.next
  generalize (c.mailbox.serve request).1 = answer at hserves ⊢
  generalize (c.mailbox.serve request).2 = m at hserves ⊢
  cases hserves with
  | accepted hopen hroom hm _ =>
      subst hm
      exact h.push hopen _ hroom
  | full => exact h.keep (Or.inl (by nofun)) rfl rfl rfl
  | closed => exact h.keep (Or.inl (by nofun)) rfl rfl rfl
  | stopped => exact h.keep (Or.inl (by nofun)) rfl rfl rfl
  | took hopen hwaiting hm _ =>
      subst hm
      exact h.pop hopen hwaiting (by nofun) rfl rfl rfl
  | pending => exact h.keep (Or.inl (by nofun)) rfl rfl rfl
  | ended => exact h.keep (Or.inl (by nofun)) rfl rfl rfl
  | polled hopen hwaiting hm _ =>
      subst hm
      exact h.pop hopen hwaiting (by nofun) rfl rfl rfl
  | nothing => exact h.keep (Or.inl (by nofun)) rfl rfl rfl
  | drained hopen hm =>
      subst hm
      exact h.close hopen
  | drainedAgain hclosed => exact h.keep (Or.inr hclosed) rfl rfl rfl

end Accounted

theorem accounted_course (n : Nat) (requests : List Request) : Accounted n (course n requests) := by
  apply List.foldlRecOn requests Course.next (accounted_create n)
  intro c h request _
  exact h.next request

/-- After any requests, the books of a mailbox balance and the next answer follows from the
earlier ones; in particular, an envelope is accepted exactly if the mailbox is open and has
a free slot. -/
theorem requests_served (n : Nat) (requests : List Request) (request : Request) :
    let c := course n requests
    Accounted n c ∧
      Serves n c request (c.mailbox.serve request).1 (c.mailbox.serve request).2 ∧
        forall env : Envelope, (c.mailbox.serve (Request.send env)).1 = Answer.sent (.ok ()) <->
          Open c.log ∧ (waiting c.log).length < max n 1 := by
  intro c
  have haccounted : Accounted n c := accounted_course n requests
  refine ⟨haccounted, haccounted.serves request, fun env => ?_⟩
  exact (haccounted.serves (Request.send env)).accepted_iff

example (a b : Envelope) :
    (course 0 [Request.send a, Request.send b, Request.receive true, Request.poll,
        Request.drain, Request.send b]).log.map Exchange.answer =
      [Answer.sent (.ok ()), Answer.sent (.error (EnqueueError.full b)),
        Answer.received Receipt.ended, Answer.polled (some a), Answer.drained 0,
        Answer.sent (.error (EnqueueError.closed b))] :=
  rfl

end Mailbox
end Troupe
