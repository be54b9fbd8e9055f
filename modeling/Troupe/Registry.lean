import Troupe.ActorError
import Troupe.Bridge
import Troupe.Config

/-!
# The registry of actors

Actors are registered under their names, in the order of the names.  Registering
an actor checks its configuration; registering a group of actors takes all of
them or none.
-/

namespace Troupe

structure Registry where
  refs : List ActorRef
deriving DecidableEq, Repr

structure Enlisted where
  ref : ActorRef
  capacity : Nat
deriving DecidableEq, Repr

namespace Registry

def empty : Registry :=
  { refs := [] }

def find? (r : Registry) (name : String) : Option ActorRef :=
  r.refs.find? fun ref => ref.name == name

def names (r : Registry) : List String :=
  r.refs.map fun ref => ref.name

def length (r : Registry) : Nat :=
  r.refs.length

/-- Places an actor before the first one with a later name. -/
def place (ref : ActorRef) : List ActorRef -> List ActorRef
  | [] => [ref]
  | other :: rest => if ref.name < other.name then ref :: other :: rest else other :: place ref rest

def insert (r : Registry) (ref : ActorRef) (limit : Nat) : Except ActorError Registry :=
  if (r.find? ref.name).isSome then .error (ActorError.duplicateActor ref.name)
  else if limit ≤ r.length then
    .error (ActorError.resourceExhausted (Exhaustion.actorLimit limit))
  else .ok { refs := place ref r.refs }

/-- A name is a single topic segment without wildcards. -/
def validName (name : String) : Bool :=
  !name.isEmpty && name.toList.all fun c => c != '/' && c != '*'

/-- Registers an actor under an id.  The capacity of its mailbox is taken to be at most
`2 ^ 61 - 1`, as `Mailbox.create` has it. -/
def enlist (r : Registry) (config : SystemConfig) (id : ActorId) (actor : ActorConfig) :
    Except ActorError (Enlisted × Registry) :=
  let capacity := (actor.mailboxCapacity.getD config.mailboxCapacity).toNat
  if capacity = 0 then .error (ActorError.invalidConfig (ConfigFault.zeroCapacity actor.name))
  else if !validName actor.name then
    .error (ActorError.invalidConfig (ConfigFault.badName actor.name))
  else
    let ref : ActorRef :=
      { id := id, name := actor.name, enqueueTimeout := actor.enqueueTimeout }
    match r.insert ref config.maxActors.toNat with
    | .error error => .error error
    | .ok r => .ok ({ ref := ref, capacity := capacity }, r)

def remove (r : Registry) (name : String) : Registry :=
  { refs := r.refs.filter fun ref => ref.name != name }

def removeAll (r : Registry) (all : List Enlisted) : Registry :=
  all.foldl (fun r enlisted => r.remove enlisted.ref.name) r

/-- Registers actors in turn, counting ids up from a first one.  If one is refused,
those registered before it are taken out again. -/
def enlistAll (config : SystemConfig) :
    Registry -> Nat -> List Enlisted -> List ActorConfig ->
      Except ActorError (List Enlisted) × Registry
  | r, _, before, [] => (.ok before, r)
  | r, first, before, actor :: rest =>
      match r.enlist config (ActorId.ofNat first) actor with
      | .error error => (.error error, r.removeAll before)
      | .ok (enlisted, r) => enlistAll config r (first + 1) (before ++ [enlisted]) rest

def enlistGroup (r : Registry) (config : SystemConfig) (first : Nat) (thread : ThreadConfig)
    (actors : List ActorConfig) : Except ActorError (List Enlisted) × Registry :=
  if actors.isEmpty then
    (.error (ActorError.invalidConfig (ConfigFault.emptyGroup thread.name)), r)
  else enlistAll config r first [] actors

end Registry
end Troupe
