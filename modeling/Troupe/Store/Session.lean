import Troupe.Json.Text
import Troupe.Store.Extract
import Troupe.Tree.Diagnostic

/-!
# Sessions

A session works on a store through named registers.  A register holds a handle,
so two registers may share a node, or a tree that was frozen and no longer
changes.  Each step acts on the value of one register, and what it yields may be
kept in another one.
-/

namespace Troupe

inductive Register where
  | live (h : Handle)
  | frozen (t : Tree)

inductive Argument where
  | fresh (t : Tree)
  | shared (register : String)
  /-- The register gives its value away, even if the step is then refused. -/
  | moved (register : String)

inductive Operation where
  | get (key : Key)
  | place (key : Key)
  | getPath (path : String)
  | placePath (path : String)
  | setPath (path : String) (v : Argument)
  | set (v : Argument)
  | push (v : Argument)
  | insert (name : String) (v : Argument)
  | remove (key : Key)
  | deepClone
  | share
  | freeze
  | thaw
  | drop
  | length
  | isEmpty
  | kind
  | keys
  | entries
  | items
  | canonical
  | pretty
  | diagnostic
  | sameNode (other : String)
  | equal (other : String)
  | read (type : ReadType)

/-- `keep` names the register that keeps what the step yields. -/
inductive Step where
  | introduce (v : Argument) (keep : Option String)
  | operate (register : String) (operation : Operation) (keep : Option String)

inductive Yielded where
  | nothing
  | tree (t : Tree)
  | old (t : Option Tree)
  | found (t : Option Tree)
  | count (n : Nat)
  | flag (b : Bool)
  | text (s : String)
  | texts (all : List String)
  | entries (all : List (String × Tree))
  | items (all : List Tree)
  | kind (kind : Kind)
  | value (type : ReadType) (a : type.Carrier)

structure Session where
  store : Store
  registers : Entries Register

namespace Session

def empty : Session :=
  { store := Store.empty, registers := [] }

abbrev Outcome := Except ValueError Yielded × Session

def register? (s : Session) (name : String) : Option Register :=
  Entries.get? s.registers name

def keepIn (s : Session) (name : Option String) (r : Register) : Session :=
  match name with
  | some name => { s with registers := Entries.insert s.registers name r }
  | none => s

def drop (s : Session) (name : String) : Session :=
  { s with registers := Entries.erase s.registers name }

def thaw (s : Session) (t : Tree) : Handle × Session :=
  let (h, store) := s.store.thaw t
  (h, { s with store := store })

def show? (s : Session) (name : String) : Option Tree :=
  (s.register? name).map fun
    | Register.live h => s.store.freeze h
    | Register.frozen t => t

/-- A handle to a register's value; a frozen tree is thawed for it. -/
def handle (s : Session) (name : String) : Handle × Session :=
  match s.register? name with
  | some (Register.live h) => (h, s)
  | some (Register.frozen t) => s.thaw t
  | none => s.thaw Tree.null

def argument (s : Session) : Argument -> Handle × Session
  | Argument.fresh t => s.thaw t
  | Argument.shared name => s.handle name
  | Argument.moved name =>
      let (h, s) := s.handle name
      (h, s.drop name)

/-!
## Outcomes
-/

def answer (s : Session) (y : Yielded) : Outcome :=
  (.ok y, s)

def yieldHandle (s : Session) (keep : Option String) (outcome : Store.Outcome Handle) :
    Outcome :=
  let s := { s with store := outcome.2 }
  match outcome.1 with
  | .ok h => (.ok (Yielded.tree (s.store.freeze h)), s.keepIn keep (Register.live h))
  | .error error => (.error error, s)

/-- Yields what was there before, and keeps the handle to it. -/
def yieldOld (s : Session) (keep : Option String) (outcome : Store.Outcome (Option Handle)) :
    Outcome :=
  let s := { s with store := outcome.2 }
  match outcome.1 with
  | .ok none => (.ok (Yielded.old none), s)
  | .ok (some h) =>
      (.ok (Yielded.old (some (s.store.freeze h))), s.keepIn keep (Register.live h))
  | .error error => (.error error, s)

def yieldDone (s : Session) (outcome : Store.Outcome Unit) : Outcome :=
  (outcome.1.map fun _ => Yielded.nothing, { s with store := outcome.2 })

def yieldFound (s : Session) (keep : Option String) : Option Tree -> Outcome
  | some t => (.ok (Yielded.found (some t)), s.keepIn keep (Register.frozen t))
  | none => (.ok (Yielded.found none), s)

/-- A path that does not parse is refused before anything else happens. -/
def withPath (s : Session) (text : String) (run : Path -> Outcome) : Outcome :=
  match Path.parse text with
  | .ok path => run path
  | .error error => (.error (ValueError.path error), s)

def withArgument (s : Session) (v : Argument) (run : Handle -> Session -> Outcome) : Outcome :=
  let (h, s) := s.argument v
  run h s

/-!
## Steps
-/

def operateLive (s : Session) (register : String) (keep : Option String) (h : Handle) :
    Operation -> Outcome
  | Operation.get key => s.yieldHandle keep (s.store.get h key)
  | Operation.place key => s.yieldHandle keep (s.store.place h key)
  | Operation.getPath path =>
      s.withPath path fun path => s.yieldHandle keep (s.store.getPath h path)
  | Operation.placePath path =>
      s.withPath path fun path => s.yieldHandle keep (s.store.placePath h path)
  | Operation.setPath path v =>
      s.withPath path fun path =>
        s.withArgument v fun v s => s.yieldDone (s.store.setPath h path v)
  | Operation.set v => s.withArgument v fun v s => s.yieldDone (s.store.set h v)
  | Operation.push v => s.withArgument v fun v s => s.yieldDone (s.store.push h v)
  | Operation.insert name v =>
      s.withArgument v fun v s => s.yieldOld keep (s.store.insert h name v)
  | Operation.remove key => s.yieldOld keep (s.store.remove h key)
  | Operation.deepClone =>
      let (clone, store) := s.store.deepClone h
      s.yieldHandle keep (.ok clone, store)
  | Operation.share => s.yieldHandle keep (.ok h, s.store)
  | Operation.freeze =>
      let t := s.store.freeze h
      (s.keepIn keep (Register.frozen t)).answer (Yielded.tree t)
  | Operation.thaw => s.yieldHandle keep (.ok h, s.store)
  | Operation.drop => (s.drop register).answer Yielded.nothing
  | Operation.length => s.answer (Yielded.count (s.store.node h).length)
  | Operation.isEmpty => s.answer (Yielded.flag ((s.store.node h).length == 0))
  | Operation.kind => s.answer (Yielded.kind (s.store.node h).kind)
  | Operation.keys => s.answer (Yielded.texts (s.store.keys h))
  | Operation.entries =>
      s.answer (Yielded.entries
        ((s.store.entries h).map fun entry => (entry.1, s.store.freeze entry.2)))
  | Operation.items => s.answer (Yielded.items ((s.store.items h).map s.store.freeze))
  | Operation.canonical => s.answer (Yielded.text (s.store.freeze h).canonical)
  | Operation.pretty => s.answer (Yielded.text (s.store.freeze h).pretty)
  | Operation.diagnostic => s.answer (Yielded.text (s.store.freeze h).diagnostic)
  | Operation.sameNode other => s.answer (Yielded.flag (h == (s.handle other).1))
  | Operation.equal other =>
      let (other, s) := s.handle other
      s.answer (Yielded.flag (s.store.equal h other))
  | Operation.read type =>
      ((s.store.read h type).map fun a => Yielded.value type a, s)

/-- A frozen tree can be looked into; other operations yield nothing. -/
def operateFrozen (s : Session) (register : String) (keep : Option String) (t : Tree) :
    Operation -> Outcome
  | Operation.get key => s.yieldFound keep (t.get? key)
  | Operation.getPath path =>
      s.withPath path fun path => s.yieldFound keep (t.getPath? path)
  | Operation.thaw =>
      let (h, store) := s.store.thaw t
      s.yieldHandle keep (.ok h, store)
  | Operation.share => (s.keepIn keep (Register.frozen t)).answer (Yielded.tree t)
  | Operation.drop => (s.drop register).answer Yielded.nothing
  | Operation.kind => s.answer (Yielded.text t.kind.text)
  | Operation.canonical => s.answer (Yielded.text t.canonical)
  | Operation.pretty => s.answer (Yielded.text t.pretty)
  | Operation.diagnostic => s.answer (Yielded.text t.diagnostic)
  | Operation.equal other =>
      s.answer (Yielded.flag ((s.show? other).any t.equal))
  | _ => s.answer Yielded.nothing

def perform (s : Session) : Step -> Outcome
  | Step.introduce v keep =>
      s.withArgument v fun h s => s.yieldHandle keep (.ok h, s.store)
  | Step.operate register operation keep =>
      match s.register? register with
      | some (Register.live h) => s.operateLive register keep h operation
      | some (Register.frozen t) => s.operateFrozen register keep t operation
      | none => s.answer Yielded.nothing

end Session
end Troupe
