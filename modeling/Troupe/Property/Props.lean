import Troupe.ActorError

/-!
# The properties of an actor

The values under an actor's declared names live in a map of their own, next to the
table of declarations.  The actor works on the map as on any live value; the
outside writes it through `Props.apply`, which checks a whole write before it
changes anything.
-/

namespace Troupe

structure Props where
  store : Store
  root : Handle
  declared : List PropertyInfo

namespace Props

def empty : Props :=
  let (root, store) := Store.empty.alloc (Node.map [])
  { store := store, root := root, declared := [] }

def tree (p : Props) : Tree :=
  p.store.freeze p.root

def info? (p : Props) (name : String) : Option PropertyInfo :=
  p.declared.find? fun info => info.name == name

def anyWritable (p : Props) : Bool :=
  p.declared.any fun info => info.mode.writable

def update {β : Type} (p : Props) (outcome : Store.Outcome β) :
    Except ActorError β × Props :=
  (outcome.1.mapError ActorError.value, { p with store := outcome.2 })

def insert (p : Props) (name : String) (value : Handle) :
    Except ActorError (Option Handle) × Props :=
  p.update (p.store.insert p.root name value)

/-- Places a fresh copy of a tree under a name. -/
def insertTree (p : Props) (name : String) (t : Tree) :
    Except ActorError (Option Handle) × Props :=
  let (h, store) := p.store.thaw t
  { p with store := store }.insert name h

/-!
## Writes from outside
-/

def check (p : Props) (entry : String × Tree) : Except ActorError Unit :=
  match p.info? entry.1 with
  | none => .error (ActorError.property entry.1 PropertyFault.notDeclared)
  | some info =>
      if !info.mode.writable then
        .error (ActorError.property entry.1 PropertyFault.readOnly)
      else if !info.type.admits entry.2 then
        .error (ActorError.property entry.1 (PropertyFault.badValue entry.2.kind info.type))
      else .ok ()

def checkAll (p : Props) : List (String × Tree) -> Except ActorError Unit
  | [] => .ok ()
  | entry :: rest =>
      match p.check entry with
      | .error error => .error error
      | .ok () => checkAll p rest

/-- The tree under a name; null if there is none. -/
def valueOf (p : Props) (name : String) : Except ActorError Tree × Props :=
  match p.update (p.store.get p.root (Key.field name)) with
  | (.ok h, p) => (.ok (p.store.freeze h), p)
  | (.error error, p) => (.error error, p)

/-- Writes checked entries, and returns what was there before. -/
def writeAll (p : Props) :
    List (String × Tree) -> Except ActorError (List (String × Tree)) × Props
  | [] => (.ok [], p)
  | (name, value) :: rest =>
      match p.valueOf name with
      | (.error error, p) => (.error error, p)
      | (.ok old, p) =>
          match p.insertTree name value with
          | (.error error, p) => (.error error, p)
          | (.ok _, p) =>
              match writeAll p rest with
              | (.error error, p) => (.error error, p)
              | (.ok previous, p) => (.ok ((name, old) :: previous), p)

/-- Applies a write to the actor of the given name.  On success the outcome is the
list of names written with their earlier values. -/
def apply (p : Props) (actor : String) (write : Tree) :
    Except ActorError (List (String × Tree)) × Props :=
  match write with
  | Tree.map entries =>
      match p.checkAll entries with
      | .error error => (.error error, p)
      | .ok () => p.writeAll entries
  | other => (.error (ActorError.property actor (PropertyFault.notMap other.kind)), p)

/-- Puts earlier values back; stops at the first that cannot be placed. -/
def restore (p : Props) : List (String × Tree) -> Props
  | [] => p
  | (name, old) :: rest =>
      match p.insertTree name old with
      | (.ok _, p) => restore p rest
      | (.error _, p) => p

end Props
end Troupe
