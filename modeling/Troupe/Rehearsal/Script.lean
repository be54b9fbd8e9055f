import Troupe.Actor.Basic
import Troupe.Program
import Troupe.Rehearsal.Cast

/-!
# Scripted actors

A scripted actor does for each hook what its script lists, in order, and keeps a
journal of what came of it.  An action that is refused is merely noted, unless it
was to be tried: then the hook fails with it.
-/

namespace Troupe
namespace Rehearsal

inductive Action where
  | fail (text : String)
  /-- Fails the hook with the action's refusal. -/
  | attempt (action : Action)
  /-- Fails if a property has the given value. -/
  | failIf (path : String) (value : Tree)
  | declare (info : PropertyInfo) (initial : Tree)
  | publishInfo
  | publishProps
  | publishTree (topic : String) (t : Tree)
  | publish (topic : String) (body : Json)
  | announce (message : String) (body : Json)
  | subscribe (pattern : String) (reading : Reading)
  | declarations
  | declaration (name : String)
  | values
  | valueAt (path : String)
  | setValue (path : String) (t : Tree)
  | insertValue (name : String) (t : Tree)
  | emit (target : String) (message : Message)
  | tellSelf (message : Message)
  | raise (event : Message)
  | startTimer (period : Duration) (repeating : Bool)
  | cancelTimer (timer : TimerHandle)
  | cancelAllTimers
  | timerActive (timer : TimerHandle)
  | timerLeft (timer : TimerHandle)
  | timerCount
  | sleep (span : Duration)
  | stop
  | whoAmI
deriving Inhabited

inductive Yield where
  | nothing
  | count (n : Nat)
  | flag (b : Bool)
  | span (d : Option Duration)
  | timer (timer : TimerHandle)
  | tree (t : Tree)
  | old (t : Option Tree)
  | texts (all : List String)
  | text (s : Option String)
  | identity (self : Identity)

structure Script where
  /-- Actions by the name of the hook. -/
  hooks : List (String × List Action)
  /-- Lists of actions by the number of the timer; each fire takes the next list,
  and the last one is taken again and again. -/
  timers : List (Nat × List (List Action))

structure Entry where
  hook : Hook String
  began : Instant
  acts : List (Except ActorError Yield)
  result : Except ActorError Unit

structure Mind where
  script : Script
  fires : List (TimerHandle × Nat)
  journal : List Entry

/-!
## Actions
-/

abbrev Result := Except ActorError Yield

/-- Asks for something that yields nothing or is refused. -/
def request (r : Request) (answer : r.Answer -> Result) : Program Result :=
  Program.ask r fun reply => Program.done (answer reply)

def nothing (outcome : Except ActorError Unit) : Result :=
  outcome.map fun _ => Yield.nothing

def yield (y : Yield) : Result :=
  .ok y

/-- What a hook does on: the action's result to be noted, or the end of the hook. -/
inductive Course where
  | noted (result : Result)
  | unnoted
  | ended (error : ActorError)

def perform : Action -> Program Result
  | Action.declare info initial => request (Request.declare info initial) nothing
  | Action.publishInfo => request Request.publishInfo nothing
  | Action.publishProps => request Request.publishProps nothing
  | Action.publishTree topic t => request (Request.publishTree topic t) nothing
  | Action.publish topic body => request (Request.publish topic body) nothing
  | Action.announce message body => request (Request.announce message body) nothing
  | Action.subscribe pattern reading => request (Request.subscribe pattern reading) nothing
  | Action.declarations =>
      request Request.declarations fun all : List PropertyInfo =>
        yield (Yield.texts (all.map PropertyInfo.text))
  | Action.declaration name =>
      request Request.declarations fun all : List PropertyInfo =>
        yield (Yield.text ((all.find? fun info => info.name == name).map PropertyInfo.text))
  | Action.values => request Request.values fun t : Tree => yield (Yield.tree t)
  | Action.valueAt path =>
      request (Request.valueAt path) fun found : Except ActorError Tree => found.map Yield.tree
  | Action.setValue path t => request (Request.setValue path t) nothing
  | Action.insertValue name t =>
      request (Request.insertValue name t) fun old : Except ActorError (Option Tree) =>
        old.map Yield.old
  | Action.emit target message => do
      let outcome <- Program.emit target message
      return nothing outcome
  | Action.tellSelf message => do
      let outcome <- Program.tellSelf message
      return nothing outcome
  | Action.raise event =>
      request (Request.raise event) fun n : Except ActorError Nat => n.map Yield.count
  | Action.startTimer period repeating =>
      request (Request.startTimer period repeating) fun timer : TimerHandle =>
        yield (Yield.timer timer)
  | Action.cancelTimer timer =>
      request (Request.cancelTimer timer) fun b : Bool => yield (Yield.flag b)
  | Action.cancelAllTimers =>
      request Request.cancelAllTimers fun n : Nat => yield (Yield.count n)
  | Action.timerActive timer =>
      request (Request.timerActive timer) fun b : Bool => yield (Yield.flag b)
  | Action.timerLeft timer =>
      request (Request.timerLeft timer) fun d : Option Duration => yield (Yield.span d)
  | Action.timerCount => request Request.timerCount fun n : Nat => yield (Yield.count n)
  | Action.sleep span => Program.sleep span (Program.done (yield Yield.nothing))
  | Action.stop => request Request.stop fun _ => yield Yield.nothing
  | Action.whoAmI =>
      request Request.myself fun self : Identity => yield (Yield.identity self)
  | Action.fail text => Program.done (.error (ActorError.handler text))
  | Action.attempt action => perform action
  | Action.failIf path value =>
      request (Request.valueAt path) fun found : Except ActorError Tree =>
        match found with
        | .ok t =>
            if t.equal value then .error (ActorError.handler "refused value")
            else yield Yield.nothing
        | .error error => .error error

def Action.course (action : Action) (result : Result) : Course :=
  match action, result with
  | Action.fail _, .error error => Course.ended error
  | Action.attempt _, .error error => Course.ended error
  | Action.failIf _ _, .error error => Course.ended error
  | Action.failIf _ _, .ok _ => Course.unnoted
  | _, result => Course.noted result

/-- Carries out actions until one ends the hook; `acts` are the results so far. -/
def performAll (acts : List Result) :
    List Action -> Program (List Result × Except ActorError Unit)
  | [] => Program.done (acts, .ok ())
  | action :: rest => do
      let result <- perform action
      match action.course result with
      | Course.noted result => performAll (acts ++ [result]) rest
      | Course.unnoted => performAll acts rest
      | Course.ended error => Program.done (acts, .error error)

/-!
## Hooks
-/

def Mind.fired (mind : Mind) (timer : TimerHandle) : Nat :=
  (mind.fires.lookup timer).getD 0

def Mind.countFire (mind : Mind) (timer : TimerHandle) : Mind :=
  { mind with
    fires := (timer, mind.fired timer + 1) :: mind.fires.filter fun e => e.1 != timer }

/-- The list that a timer's fire takes, given how many came before. -/
def turnOf (lists : List (List Action)) (before : Nat) : List Action :=
  match lists[before]? with
  | some actions => actions
  | none => lists.getLast?.getD []

def Mind.actions (mind : Mind) : Hook String -> List Action
  | Hook.start => (mind.script.hooks.lookup "start").getD []
  | Hook.stop => (mind.script.hooks.lookup "stop").getD []
  | Hook.props _ => (mind.script.hooks.lookup "props").getD []
  | Hook.message handler _ => (mind.script.hooks.lookup handler).getD []
  | Hook.timer timer =>
      turnOf ((mind.script.timers.lookup timer.number).getD []) (mind.fired timer)

def Mind.noteHook (mind : Mind) (hook : Hook String) : Mind :=
  match hook with
  | Hook.timer timer => mind.countFire timer
  | _ => mind

def holdHandler : String := "Hold"

/-- Waits, in the handler that is there for waiting. -/
def holdFirst {β : Type} (hook : Hook String) (program : Program β) : Program β :=
  match hook with
  | Hook.message handler _ => if handler = holdHandler then Program.hold program else program
  | _ => program

def play (hook : Hook String) (mind : Mind) : Program (Except ActorError Unit × Mind) :=
  Program.ask Request.now fun began : Instant =>
    holdFirst hook do
      let (acts, result) <- performAll [] (mind.actions hook)
      let entry : Entry := { hook := hook, began := began, acts := acts, result := result }
      let mind := mind.noteHook hook
      return (result, { mind with journal := mind.journal ++ [entry] })

/-!
## Kinds of actors
-/

def fullHandlers : Handlers String :=
  [(ping.type, "Ping"), (note.type, "Note"), (blink.type, "Blink"),
    (MessageType.raw, "RawMessage"), (holdSignal.type, holdHandler)]

/-- Handlers for types that share a name, one of them bound twice. -/
def collidingHandlers : Handlers String :=
  [(impostor.type, "Impostor"), (blink.type, "Blink"), (blink.type, "SecondBlink"),
    (note.type, "Note"), (holdSignal.type, holdHandler)]

def bareHandlers : Handlers String :=
  [(holdSignal.type, holdHandler)]

end Rehearsal
end Troupe
