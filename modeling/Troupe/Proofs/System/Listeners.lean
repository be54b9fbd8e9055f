import Mathlib.Data.List.Basic
import Troupe.Rehearsal.Listening

/-!
# Listeners

An event goes to the listeners for its source and its own type, in the order in which they
were registered.  Each of them runs once, whatever came of those before it, and the first
failure is what the event comes to.  Listeners that are registered meanwhile are put behind
all others and hear of the next event.

Listeners whose type merely has the id of the event's type do not run.  They are filed with
those that do, though, and counted with them.
-/

namespace Troupe
namespace Events

variable {α σ : Type} {run : α -> σ -> Except ActorError Unit × σ} {table : σ -> Events α}
variable {source : ActorId} {type : MessageType}

def addressed (e : Events α) (source : ActorId) (type : MessageType) : List (Listener α) :=
  e.listeners.filter fun l => l.source == source && l.type == type

/-- The listeners for a source that are filed under the id of a type, but are for another. -/
def strangers (e : Events α) (source : ActorId) (type : MessageType) : List (Listener α) :=
  e.listeners.filter fun l => l.source == source && l.type.id == type.id && l.type != type

theorem addressed_append {e e' : Events α} {added : List (Listener α)}
    (h : e'.listeners = e.listeners ++ added) (source : ActorId) (type : MessageType) :
    e'.addressed source type =
      e.addressed source type ++ { listeners := added : Events α }.addressed source type := by
  unfold addressed
  rw [h, List.filter_append]

theorem filter_filed (e : Events α) (source : ActorId) (type : MessageType) :
    (e.filed source type.id).filter (fun l => l.type == type) = e.addressed source type := by
  unfold filed addressed
  rw [List.filter_filter]
  apply List.filter_congr
  intro l _
  by_cases htype : l.type = type
  · simp [htype]
  · simp [beq_false_of_ne htype]

theorem filter_filed_strange (e : Events α) (source : ActorId) (type : MessageType) :
    (e.filed source type.id).filter (fun l => !(l.type == type)) = e.strangers source type := by
  unfold filed strangers
  rw [List.filter_filter]
  apply List.filter_congr
  intro l _
  rw [Bool.and_comm]
  rfl

theorem length_filed (e : Events α) (source : ActorId) (type : MessageType) :
    (e.filed source type.id).length =
      (e.addressed source type).length + (e.strangers source type).length := by
  rw [<- filter_filed, <- filter_filed_strange]
  exact List.length_eq_length_filter_add _

theorem strangers_eq_nil_iff {e : Events α} :
    e.strangers source type = [] <->
      forall l : Listener α, l ∈ e.listeners -> l.source = source -> l.type.id = type.id ->
        l.type = type := by
  simp [strangers]

/-!
## One after another
-/

/-- Actions run one after another, each once.  Their results are kept in order, and so are
the listeners that they add to the table. -/
inductive Plays (run : α -> σ -> Except ActorError Unit × σ) (table : σ -> Events α) :
    List α -> σ -> List (Except ActorError Unit) -> List (Listener α) -> σ -> Prop where
  | ended {s : σ} : Plays run table [] s [] [] s
  | next {action : α} {rest : List α} {s t u : σ} {result : Except ActorError Unit}
      {results : List (Except ActorError Unit)} {added more : List (Listener α)} :
      run action s = (result, t) -> (table t).listeners = (table s).listeners ++ added ->
        Plays run table rest t results more u ->
          Plays run table (action :: rest) s (result :: results) (added ++ more) u

def FirstFailure (results : List (Except ActorError Unit)) (error : ActorError) : Prop :=
  exists before after : List (Except ActorError Unit), results = before ++ .error error :: after ∧
    forall result : Except ActorError Unit, result ∈ before -> result = .ok ()

theorem not_firstFailure_nil {error : ActorError} : ¬ FirstFailure [] error := by
  rintro ⟨before, after, hsplit, -⟩
  cases before <;> cases hsplit

theorem firstFailure_error {error other : ActorError} {rest : List (Except ActorError Unit)} :
    FirstFailure (.error error :: rest) other <-> error = other := by
  constructor
  · rintro ⟨before, after, hsplit, hbefore⟩
    cases before with
    | nil =>
        cases hsplit
        rfl
    | cons result before =>
        cases hsplit
        cases hbefore _ List.mem_cons_self
  · rintro rfl
    exact ⟨[], rest, rfl, nofun⟩

theorem firstFailure_ok {error : ActorError} {rest : List (Except ActorError Unit)} :
    FirstFailure (.ok () :: rest) error <-> FirstFailure rest error := by
  constructor
  · rintro ⟨before, after, hsplit, hbefore⟩
    cases before with
    | nil => cases hsplit
    | cons result before =>
        cases hsplit
        exact ⟨before, after, rfl, fun r hmem => hbefore r (List.mem_cons_of_mem _ hmem)⟩
  · rintro ⟨before, after, rfl, hbefore⟩
    refine ⟨.ok () :: before, after, rfl, fun r hmem => ?_⟩
    rcases List.mem_cons.mp hmem with hr | hr
    · exact hr
    · exact hbefore r hr

theorem exists_plays
    (hadds : forall (action : α) (s : σ), exists added : List (Listener α),
      (table (run action s).2).listeners = (table s).listeners ++ added)
    (actions : List α) (s : σ) :
    exists (results : List (Except ActorError Unit)) (added : List (Listener α)) (t : σ),
      Plays run table actions s results added t := by
  induction actions generalizing s with
  | nil => exact ⟨[], [], s, Plays.ended⟩
  | cons action rest ih =>
      rcases hadds action s with ⟨added, hadded⟩
      rcases ih (run action s).2 with ⟨results, more, t, hrest⟩
      exact ⟨_, _, t, Plays.next rfl hadded hrest⟩

theorem Plays.listeners {actions : List α} {s t : σ} {results : List (Except ActorError Unit)}
    {added : List (Listener α)} (h : Plays run table actions s results added t) :
    (table t).listeners = (table s).listeners ++ added := by
  induction h with
  | ended => rw [List.append_nil]
  | next _ hadded _ ih => rw [ih, hadded, List.append_assoc]

/-!
## Raising an event
-/

/-- Of the listeners under an id, those for the type itself run, and the first failure
among their results is kept. -/
theorem Plays.runAll {filed : List (Listener α)} {s t : σ}
    {results : List (Except ActorError Unit)} {added : List (Listener α)}
    (h : Plays run table ((filed.filter fun l => l.type == type).map Listener.action) s results
      added t) :
    (runAll run type filed s).2 = t ∧
      (forall error : ActorError,
        (runAll run type filed s).1 = some error <-> FirstFailure results error) ∧
      ((runAll run type filed s).1 = none <->
        forall result : Except ActorError Unit, result ∈ results -> result = .ok ()) := by
  induction filed generalizing s results added with
  | nil =>
      cases h
      refine ⟨rfl, fun error => ?_, fun _ => nofun, fun _ => rfl⟩
      exact ⟨nofun, fun hfailure => absurd hfailure not_firstFailure_nil⟩
  | cons l rest ih =>
      by_cases htype : l.type = type
      · rw [List.filter_cons_of_pos (by simpa using htype), List.map_cons] at h
        cases h with
        | @next _ _ _ next _ result results _ _ hrun _ hrest =>
            rcases ih hrest with ⟨hstate, hfailures, hnone⟩
            cases result with
            | ok _ =>
                have hskip : Events.runAll run type (l :: rest) s =
                    Events.runAll run type rest next := by
                  simp only [Events.runAll, htype, hrun, if_true]
                rw [hskip]
                refine ⟨hstate, fun error => ?_, ?_⟩
                · rw [hfailures, firstFailure_ok]
                · rw [hnone, List.forall_mem_cons]
                  exact (and_iff_right rfl).symm
            | error first =>
                have hkept : Events.runAll run type (l :: rest) s =
                    (some first, (Events.runAll run type rest next).2) := by
                  simp only [Events.runAll, htype, hrun, if_true]
                rw [hkept]
                refine ⟨hstate, fun error => ?_, nofun, fun hall => ?_⟩
                · rw [firstFailure_error, Option.some.injEq]
                · cases hall _ List.mem_cons_self
      · rw [List.filter_cons_of_neg (by simpa using htype)] at h
        rw [Events.runAll, if_neg htype]
        exact ih h

theorem raise_eq_ok_iff {e : Events α} {s : σ} {n : Nat} :
    (e.raise run source type s).1 = .ok n <->
      (runAll run type (e.filed source type.id) s).1 = none ∧
        n = (e.filed source type.id).length := by
  unfold raise
  rcases hran : runAll run type (e.filed source type.id) s with ⟨_ | error, t⟩
  · simp [hran, eq_comm]
  · simp [hran]

theorem raise_eq_error_iff {e : Events α} {s : σ} {error : ActorError} :
    (e.raise run source type s).1 = .error error <->
      (runAll run type (e.filed source type.id) s).1 = some error := by
  unfold raise
  rcases hran : runAll run type (e.filed source type.id) s with ⟨_ | first, t⟩
  · simp [hran]
  · simp [hran]

theorem raise_state (e : Events α) (run : α -> σ -> Except ActorError Unit × σ)
    (source : ActorId) (type : MessageType) (s : σ) :
    (e.raise run source type s).2 = (runAll run type (e.filed source type.id) s).2 := by
  unfold raise
  rcases hran : runAll run type (e.filed source type.id) s with ⟨_ | error, t⟩
  · simp [hran]
  · simp [hran]

/-- The listeners that were registered for the source and the type of an event run in their
order, each once, whatever the others do.  The event comes to the first failure among their
results, and goes well if there is none.  What they have registered meanwhile is put behind
what there was, and stays for the next event. -/
theorem listeners_run_in_order (table : σ -> Events α)
    (run : α -> σ -> Except ActorError Unit × σ)
    (hadds : forall (action : α) (s : σ), exists added : List (Listener α),
      (table (run action s).2).listeners = (table s).listeners ++ added)
    (source : ActorId) (type : MessageType) (s : σ) :
    let raised := (table s).raise run source type s
    exists (results : List (Except ActorError Unit)) (added : List (Listener α)),
      Plays run table (((table s).addressed source type).map Listener.action) s results added
          raised.2 ∧
        (forall error : ActorError, raised.1 = .error error <-> FirstFailure results error) ∧
        ((exists n : Nat, raised.1 = .ok n) <->
          forall result : Except ActorError Unit, result ∈ results -> result = .ok ()) ∧
        (table raised.2).listeners = (table s).listeners ++ added ∧
        forall (source' : ActorId) (type' : MessageType),
          (table raised.2).addressed source' type' =
            (table s).addressed source' type' ++
              { listeners := added : Events α }.addressed source' type' := by
  intro raised
  rcases exists_plays hadds (((table s).addressed source type).map Listener.action) s with
    ⟨results, added, t, hplays⟩
  have hcourse := hplays
  rw [<- filter_filed] at hcourse
  rcases hcourse.runAll with ⟨hstate, hfailures, hnone⟩
  have hraised : raised.2 = t := (raise_state _ _ _ _ _).trans hstate
  refine ⟨results, added, ?_, fun error => ?_, ?_, ?_, ?_⟩
  · rw [hraised]
    exact hplays
  · exact raise_eq_error_iff.trans (hfailures error)
  · rw [<- hnone]
    constructor
    · rintro ⟨n, hn⟩
      exact (raise_eq_ok_iff.mp hn).left
    · intro hran
      exact ⟨_, raise_eq_ok_iff.mpr ⟨hran, rfl⟩⟩
  · rw [hraised]
    exact hplays.listeners
  · rw [hraised]
    exact addressed_append hplays.listeners

theorem adds_note_takers (source : ActorId) (event : Message) (taker : Rehearsal.NoteTaker)
    (hall : Rehearsal.Hall) :
    exists added : List (Listener Rehearsal.NoteTaker),
      (Rehearsal.Hall.run source event taker hall).2.events.listeners =
        hall.events.listeners ++ added := by
  cases taker with
  | note label failure more =>
      cases more with
      | false => cases failure <;> exact ⟨[], (List.append_nil _).symm⟩
      | true => cases failure <;> exact ⟨[_], rfl⟩
  | echo label => exact ⟨[], (List.append_nil _).symm⟩

/-- Two notes are taken of a blink.  The first taker fails and registers an echo; a taker for
another type of the same name and one for another source are passed over. -/
theorem listeners_run_in_order_same_name :
    let led := ActorId.ofNat 1
    let lamp := ActorId.ofNat 2
    let blink := MessageType.defined "Blink" "Blink"
    let impostor := MessageType.defined "Impostor" "Blink"
    let first := Rehearsal.NoteTaker.note "first" (some "no") true
    let second := Rehearsal.NoteTaker.note "second" none false
    let other := Rehearsal.NoteTaker.note "other" none true
    let hall := (((Rehearsal.Hall.empty.listen led impostor other).listen led blink first).listen
      lamp blink other).listen led blink second
    let raised := hall.raise led (Message.defined "Blink" "Blink" Json.null)
    raised.1 = .error (ActorError.handler "no") ∧
      (raised.2.notes.map fun note => note.label) = ["first", "second"] ∧
        (raised.2.events.addressed led blink).map Listener.action =
          [first, second, Rehearsal.NoteTaker.echo "first"] := by
  intro led lamp blink impostor first second other hall raised
  let event := Message.defined "Blink" "Blink" Json.null
  rcases listeners_run_in_order Rehearsal.Hall.events (Rehearsal.Hall.run led event)
    (adds_note_takers led event) led blink hall with
    ⟨results, added, hplays, hfailures, -⟩
  change Events.Plays _ _ _ hall results added raised.2 at hplays
  change forall error : ActorError, raised.1 = .error error <-> _ at hfailures
  clear_value raised
  rcases raised with ⟨outcome, after⟩
  have htwo : (hall.events.addressed led blink).map Listener.action = [first, second] := rfl
  rw [htwo] at hplays
  cases hplays with
  | next hfirst _ hrest =>
      cases hrest with
      | next hsecond _ hover =>
          cases hfirst
          cases hsecond
          cases hover
          exact ⟨(hfailures _).mpr ⟨[], _, rfl, nofun⟩, rfl, rfl⟩

/-!
## Counting
-/

def tallied (run : α -> σ -> Except ActorError Unit × σ) (action : α) (s : σ × Nat) :
    Except ActorError Unit × (σ × Nat) :=
  ((run action s.1).1, (run action s.1).2, s.2 + 1)

theorem runAll_tallied (filed : List (Listener α)) (s : σ) (n : Nat) :
    runAll (tallied run) type filed (s, n) =
      ((runAll run type filed s).1, (runAll run type filed s).2,
        n + (filed.filter fun l => l.type == type).length) := by
  induction filed generalizing s n with
  | nil => rfl
  | cons l rest ih =>
      by_cases htype : l.type = type
      · rw [List.filter_cons_of_pos (by simpa using htype), List.length_cons]
        rcases hrun : run l.action s with ⟨_ | error, t⟩
        · simp only [runAll, htype, if_true, tallied, hrun, ih, Nat.add_assoc, Nat.add_comm 1]
        · simp only [runAll, htype, if_true, tallied, hrun, ih, Nat.add_assoc, Nat.add_comm 1]
      · rw [List.filter_cons_of_neg (by simpa using htype)]
        simp only [runAll, htype, if_false, ih]

theorem raise_tallied (e : Events α) (run : α -> σ -> Except ActorError Unit × σ)
    (source : ActorId) (type : MessageType) (s : σ) :
    e.raise (tallied run) source type (s, 0) =
      ((e.raise run source type s).1, (e.raise run source type s).2,
        (e.addressed source type).length) := by
  unfold raise
  simp only [runAll_tallied, filter_filed, Nat.zero_add]
  rcases runAll run type (e.filed source type.id) s with ⟨_ | error, t⟩ <;> rfl

/-- An event that goes well comes to the number of the listeners that ran, and of those for
other types that are filed with them.  The same is counted beforehand.  There are none of
the latter exactly when no other type with the id of the event's has listeners at the source. -/
theorem raise_counts_strangers (e : Events α) (run : α -> σ -> Except ActorError Unit × σ)
    (source : ActorId) (type : MessageType) (s : σ) :
    let counted := e.raise (tallied run) source type (s, 0)
    let ran := counted.2.2
    let strange := (e.strangers source type).length
    (counted.1, counted.2.1) = e.raise run source type s ∧
      (forall n : Nat, (e.raise run source type s).1 = .ok n -> n = ran + strange) ∧
      e.count source type = ran + strange ∧
      (strange = 0 <->
        forall l : Listener α, l ∈ e.listeners -> l.source = source -> l.type.id = type.id ->
          l.type = type) := by
  intro counted ran strange
  have hcounted : counted = _ := raise_tallied e run source type s
  have hran : ran = (e.addressed source type).length := congrArg (fun c => c.2.2) hcounted
  refine ⟨?_, fun n hn => ?_, ?_, ?_⟩
  · rw [hcounted]
  · rw [hran, (raise_eq_ok_iff.mp hn).right, length_filed]
  · rw [hran, count, length_filed]
  · rw [<- strangers_eq_nil_iff, <- List.length_eq_zero_iff]

/-- A blink and a note have one listener each, and the count of blinks is one. -/
theorem raise_counts_strangers_none :
    let led := ActorId.ofNat 1
    let blink := MessageType.defined "Blink" "Blink"
    let taker := Rehearsal.NoteTaker.note "taken" none false
    let hall := (Rehearsal.Hall.empty.listen led blink taker).listen led
      (MessageType.defined "Note" "Note") taker
    let raised := hall.raise led (Message.defined "Blink" "Blink" Json.null)
    (forall n : Nat, raised.1 = .ok n -> n = 1) ∧ hall.events.count led blink = 1 := by
  intro led blink taker hall raised
  let event := Message.defined "Blink" "Blink" Json.null
  rcases raise_counts_strangers hall.events (Rehearsal.Hall.run led event) led blink hall with
    ⟨-, hreturned, hcount, -⟩
  have hstrange : (hall.events.strangers led blink).length = 0 := by decide +kernel
  have hran : (hall.events.raise (tallied (Rehearsal.Hall.run led event)) led blink
      (hall, 0)).2.2 = 1 := by
    rw [raise_tallied]
    rfl
  rw [hstrange, hran] at hreturned hcount
  exact ⟨hreturned, hcount⟩

/-- A blink has one listener, yet two are counted with one for another type of its name. -/
theorem raise_counts_impostor :
    let led := ActorId.ofNat 1
    let blink := MessageType.defined "Blink" "Blink"
    let impostor := MessageType.defined "Impostor" "Blink"
    let taker := Rehearsal.NoteTaker.note "taken" none false
    let hall := (Rehearsal.Hall.empty.listen led blink taker).listen led impostor taker
    let raised := hall.raise led (Message.defined "Blink" "Blink" Json.null)
    raised.1 = .ok 2 ∧ raised.2.notes.length = 1 ∧ hall.events.count led blink = 2 := by
  intro led blink impostor taker hall raised
  let event := Message.defined "Blink" "Blink" Json.null
  have hfiled : hall.events.filed led blink.id = hall.events.listeners := by
    have hsame : impostor.id = blink.id := rfl
    simp [filed, hall, Rehearsal.Hall.listen, Rehearsal.Hall.empty, listen, empty, hsame]
  have hstate := raise_state hall.events (Rehearsal.Hall.run led event) led blink hall
  rw [hfiled] at hstate
  refine ⟨raise_eq_ok_iff.mpr ?_, (congrArg (fun h => h.notes.length) hstate).trans rfl, ?_⟩
  · change (runAll _ _ (hall.events.filed led blink.id) _).1 = none ∧
      2 = (hall.events.filed led blink.id).length
    rw [hfiled]
    exact ⟨rfl, rfl⟩
  · rw [count, hfiled]
    rfl

end Events
end Troupe
