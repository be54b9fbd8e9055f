import Troupe.Store.Basic

/-!
# Reading and writing through handles

The operations on live values.  Each one acts on the node behind a single handle
and returns its outcome together with the store after it; a path operation takes
one such step per key.

## Missing places

Reading a missing entry gives a new null that is not part of any tree.  Writing
makes the place: a null turns into a map or an array as the key demands, a map
gets a new entry, and an array is filled up with nulls, though by no more than
`maxArrayGap` of them.

## Cycles

A write that would place a node below itself is refused, so no sequence of
operations makes a store cyclic.
-/

namespace Troupe

/-- How many nulls a write may leave before the place it makes in an array. -/
def maxArrayGap : Nat := 1024

inductive AccessFault where
  | fieldOfArray (name : String)
  | noContainer (kind : Kind) (key : Key)
  | gap (position length : Nat)
  | assignsOwnTarget
  | placedBeneathItself
  | insertIntoLeaf (name : String) (kind : Kind)
  | pushOntoLeaf (kind : Kind)
  | removeFieldOfArray (name : String)
  | removeFromLeaf (key : Key) (kind : Kind)
  | stated (text : String)
deriving DecidableEq, Repr

def AccessFault.message : AccessFault -> String
  | fieldOfArray name => "cannot index array with field '" ++ name ++ "'"
  | noContainer kind key =>
      "cannot index into " ++ kind.text ++ " with '" ++ key.fieldName ++ "'"
  | gap position length =>
      "index " ++ toString position ++ " is more than " ++ toString maxArrayGap ++
        " past the end of an array of " ++ toString length
  | assignsOwnTarget => "cannot assign a value that contains its own target"
  | placedBeneathItself => "cannot place a value beneath itself"
  | insertIntoLeaf name kind => "cannot insert field '" ++ name ++ "' into " ++ kind.text
  | pushOntoLeaf kind => "cannot push onto " ++ kind.text
  | removeFieldOfArray name => "cannot remove field '" ++ name ++ "' from array"
  | removeFromLeaf key kind =>
      "cannot remove '" ++ key.fieldName ++ "' from " ++ kind.text
  | stated text => text

/-- What was found in place of a value of the expected type. -/
inductive Found where
  | kind (kind : Kind)
  | outOfRange (i : Int)
  | stated (text : String)
deriving DecidableEq, Repr

def Found.text : Found -> String
  | kind k => k.text
  | outOfRange i => "integer " ++ toString i ++ " out of range"
  | stated text => text

inductive ValueError where
  | typeMismatch (expected : String) (found : Found)
  | invalidAccess (fault : AccessFault)
  | path (error : PathError)
deriving DecidableEq, Repr

def ValueError.message : ValueError -> String
  | typeMismatch expected found =>
      "type mismatch: expected " ++ expected ++ ", found " ++ found.text
  | invalidAccess fault => "invalid access: " ++ fault.message
  | path error => "path error: " ++ error.message

namespace Store

abbrev Outcome (α : Type) := Except ValueError α × Store

def refuse {α : Type} (s : Store) (fault : AccessFault) : Outcome α :=
  (.error (ValueError.invalidAccess fault), s)

/-- A new null that no container holds. -/
def detachedNull (s : Store) : Outcome Handle :=
  let (h, s) := s.alloc Node.null
  (.ok h, s)

/-!
## Reading
-/

/-- The child under a key; a missing one reads as a detached null. -/
def get (s : Store) (h : Handle) (key : Key) : Outcome Handle :=
  match s.node h with
  | Node.null => s.detachedNull
  | Node.map entries =>
      match Entries.get? entries key.fieldName with
      | some child => (.ok child, s)
      | none => s.detachedNull
  | Node.array items =>
      match key with
      | Key.index position =>
          match items[position]? with
          | some child => (.ok child, s)
          | none => s.detachedNull
      | Key.field name => s.refuse (AccessFault.fieldOfArray name)
  | leaf => s.refuse (AccessFault.noContainer leaf.kind key)

def getKeys (s : Store) (h : Handle) : List Key -> Outcome Handle
  | [] => (.ok h, s)
  | key :: rest =>
      match s.get h key with
      | (.ok child, s) => getKeys s child rest
      | (.error error, s) => (.error error, s)

def getPath (s : Store) (h : Handle) (path : Path) : Outcome Handle :=
  s.getKeys h path.keys

def entries (s : Store) (h : Handle) : Entries Handle :=
  match s.node h with
  | Node.map entries => entries
  | _ => []

def keys (s : Store) (h : Handle) : List String :=
  (s.entries h).map Prod.fst

def items (s : Store) (h : Handle) : List Handle :=
  match s.node h with
  | Node.array items => items
  | _ => []

/-!
## Making places
-/

/-- Whether a write at a position of an array of some length stays within the
gap allowed. -/
def withinGap (length position : Nat) : Bool :=
  position + 1 < 0x10000000000000000 && position - length ≤ maxArrayGap

/-- The child of an array node at a position, made if it is missing. -/
def placePosition (s : Store) (h : Handle) (items : List Handle) (position : Nat) :
    Outcome Handle :=
  match items[position]? with
  | some child => (.ok child, s)
  | none =>
      if withinGap items.length position then
        let (padding, s) := s.allocNulls (position - items.length)
        let (child, s) := s.alloc Node.null
        (.ok child, s.write h (Node.array (items ++ padding ++ [child])))
      else s.refuse (AccessFault.gap position items.length)

def placeField (s : Store) (h : Handle) (entries : Entries Handle) (name : String) :
    Outcome Handle :=
  match Entries.get? entries name with
  | some child => (.ok child, s)
  | none =>
      let (child, s) := s.alloc Node.null
      (.ok child, s.write h (Node.map (Entries.insert entries name child)))

/-- A writable child under a key.  A null node counts as an empty container of
the kind that the key demands. -/
def place (s : Store) (h : Handle) (key : Key) : Outcome Handle :=
  match s.node h, key with
  | Node.null, Key.field name => s.placeField h [] name
  | Node.null, Key.index position => s.placePosition h [] position
  | Node.map entries, key => s.placeField h entries key.fieldName
  | Node.array items, Key.index position => s.placePosition h items position
  | Node.array _, Key.field name => s.refuse (AccessFault.fieldOfArray name)
  | leaf, key => s.refuse (AccessFault.noContainer leaf.kind key)

def placeKeys (s : Store) (h : Handle) : List Key -> Outcome Handle
  | [] => (.ok h, s)
  | key :: rest =>
      match s.place h key with
      | (.ok child, s) => placeKeys s child rest
      | (.error error, s) => (.error error, s)

def placePath (s : Store) (h : Handle) (path : Path) : Outcome Handle :=
  s.placeKeys h path.keys

/-!
## Writing
-/

/-- Overwrites a node with the contents of another; children come to be shared. -/
def set (s : Store) (h value : Handle) : Outcome Unit :=
  if value = h then (.ok (), s)
  else if s.reaches value h then s.refuse AccessFault.assignsOwnTarget
  else (.ok (), s.write h (s.node value))

def setPath (s : Store) (h : Handle) (path : Path) (value : Handle) : Outcome Unit :=
  match s.placePath h path with
  | (.ok target, s) => s.set target value
  | (.error error, s) => (.error error, s)

/-- Places a node under a name and returns the one that was there. -/
def insert (s : Store) (h : Handle) (name : String) (value : Handle) :
    Outcome (Option Handle) :=
  if s.reaches value h then s.refuse AccessFault.placedBeneathItself
  else
    match s.node h with
    | Node.null => (.ok none, s.write h (Node.map [(name, value)]))
    | Node.map entries =>
        (.ok (Entries.get? entries name),
          s.write h (Node.map (Entries.insert entries name value)))
    | leaf => s.refuse (AccessFault.insertIntoLeaf name leaf.kind)

def push (s : Store) (h value : Handle) : Outcome Unit :=
  if s.reaches value h then s.refuse AccessFault.placedBeneathItself
  else
    match s.node h with
    | Node.null => (.ok (), s.write h (Node.array [value]))
    | Node.array items => (.ok (), s.write h (Node.array (items ++ [value])))
    | leaf => s.refuse (AccessFault.pushOntoLeaf leaf.kind)

/-- Removes a child and returns it; later items of an array move down. -/
def remove (s : Store) (h : Handle) (key : Key) : Outcome (Option Handle) :=
  match s.node h with
  | Node.null => (.ok none, s)
  | Node.map entries =>
      (.ok (Entries.get? entries key.fieldName),
        s.write h (Node.map (Entries.erase entries key.fieldName)))
  | Node.array items =>
      match key with
      | Key.index position =>
          (.ok items[position]?, s.write h (Node.array (items.eraseIdx position)))
      | Key.field name => s.refuse (AccessFault.removeFieldOfArray name)
  | leaf => s.refuse (AccessFault.removeFromLeaf key leaf.kind)

end Store
end Troupe
