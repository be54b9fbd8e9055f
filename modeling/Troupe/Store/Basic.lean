import Troupe.Tree.Basic

/-!
# Stores of shared nodes

Live values are mutable and shared: a handle names a node, a container node holds
the handles of its children, and two containers may hold the same child.  A store
is the table of all nodes that were ever made; a handle is an index into it, and
writing through one handle is seen through every other handle to that node.

## Views

`Store.freeze` is the tree that a handle shows.  It follows children at most as
often as there are nodes, which is as deep as a store without cycles can be;
`Store.children` and `Store.reaches` are the child relation and its reflexive
closure.  A handle that names no node shows the null.
-/

namespace Troupe

open Number

abbrev Handle := Nat

/-- The contents of a node; containers hold the handles of their children. -/
inductive Node where
  | null
  | bool (b : Bool)
  | integer (i : Int64)
  | float (x : Binary64)
  | string (s : String)
  | bytes (b : List UInt8)
  | map (entries : Entries Handle)
  | array (items : List Handle)
deriving DecidableEq

namespace Node

def kind : Node -> Kind
  | null => Kind.null
  | bool _ => Kind.bool
  | integer _ => Kind.integer
  | float _ => Kind.float
  | string _ => Kind.string
  | bytes _ => Kind.bytes
  | map _ => Kind.map
  | array _ => Kind.array

def children : Node -> List Handle
  | map entries => entries.map Prod.snd
  | array items => items
  | _ => []

/-- The number of entries, items or bytes; zero for all other nodes. -/
def length : Node -> Nat
  | map entries => entries.length
  | array items => items.length
  | string s => s.utf8ByteSize
  | bytes b => b.length
  | _ => 0

end Node

structure Store where
  nodes : Array Node

namespace Store

def empty : Store :=
  { nodes := #[] }

def size (s : Store) : Nat :=
  s.nodes.size

def node (s : Store) (h : Handle) : Node :=
  s.nodes.getD h Node.null

def children (s : Store) (h : Handle) : List Handle :=
  (s.node h).children

def write (s : Store) (h : Handle) (n : Node) : Store :=
  { nodes := s.nodes.setIfInBounds h n }

def alloc (s : Store) (n : Node) : Handle × Store :=
  (s.size, { nodes := s.nodes.push n })

def allocNulls : Nat -> Store -> List Handle × Store
  | 0, s => ([], s)
  | count + 1, s =>
      let (h, s) := s.alloc Node.null
      let (hs, s) := allocNulls count s
      (h :: hs, s)

/-!
## Containers of given children

The children come to be shared with whatever else holds them.
-/

def ofItems (s : Store) (items : List Handle) : Handle × Store :=
  s.alloc (Node.array items)

def ofPairs (s : Store) (pairs : List (String × Handle)) : Handle × Store :=
  s.alloc (Node.map (Entries.ofList pairs))

/-!
## Freezing and thawing
-/

def freezeWith (s : Store) : Nat -> Handle -> Tree
  | 0, _ => Tree.null
  | fuel + 1, h =>
      match s.node h with
      | Node.null => Tree.null
      | Node.bool b => Tree.bool b
      | Node.integer i => Tree.integer i
      | Node.float x => Tree.float x
      | Node.string t => Tree.string t
      | Node.bytes b => Tree.bytes b
      | Node.map entries =>
          Tree.map (entries.map fun entry => (entry.1, freezeWith s fuel entry.2))
      | Node.array items => Tree.array (items.map (freezeWith s fuel))

/-- The tree that a handle shows. -/
def freeze (s : Store) (h : Handle) : Tree :=
  freezeWith s s.size h

mutual

/-- New nodes, none of them shared, that show a tree. -/
def thaw (s : Store) : Tree -> Handle × Store
  | Tree.null => s.alloc Node.null
  | Tree.bool b => s.alloc (Node.bool b)
  | Tree.integer i => s.alloc (Node.integer i)
  | Tree.float x => s.alloc (Node.float x)
  | Tree.string t => s.alloc (Node.string t)
  | Tree.bytes b => s.alloc (Node.bytes b)
  | Tree.map entries =>
      let (entries, s) := thawEntries s entries
      s.alloc (Node.map entries)
  | Tree.array items =>
      let (items, s) := thawItems s items
      s.alloc (Node.array items)

def thawEntries (s : Store) : List (String × Tree) -> Entries Handle × Store
  | [] => ([], s)
  | (k, t) :: rest =>
      let (h, s) := thaw s t
      let (entries, s) := thawEntries s rest
      ((k, h) :: entries, s)

def thawItems (s : Store) : List Tree -> List Handle × Store
  | [] => ([], s)
  | t :: rest =>
      let (h, s) := thaw s t
      let (items, s) := thawItems s rest
      (h :: items, s)

end

def copyAll (copy : Store -> Handle -> Handle × Store) (s : Store) :
    List Handle -> List Handle × Store
  | [] => ([], s)
  | h :: rest =>
      let (c, s) := copy s h
      let (cs, s) := copyAll copy s rest
      (c :: cs, s)

def deepCloneWith : Nat -> Store -> Handle -> Handle × Store
  | 0, s, _ => s.alloc Node.null
  | fuel + 1, s, h =>
      match s.node h with
      | Node.map entries =>
          let (cs, s) := copyAll (deepCloneWith fuel) s (entries.map Prod.snd)
          s.alloc (Node.map ((entries.map Prod.fst).zip cs))
      | Node.array items =>
          let (cs, s) := copyAll (deepCloneWith fuel) s items
          s.alloc (Node.array cs)
      | leaf => s.alloc leaf

/-- An independent copy of everything below a handle. -/
def deepClone (s : Store) (h : Handle) : Handle × Store :=
  deepCloneWith s.size s h

/-!
## Containment and comparison
-/

def reachesWith (s : Store) : Nat -> Handle -> Handle -> Bool
  | 0, _, _ => false
  | fuel + 1, h, target =>
      h == target || (s.children h).any fun child => reachesWith s fuel child target

/-- Whether a node is another one or lies below it. -/
def reaches (s : Store) (h target : Handle) : Bool :=
  reachesWith s s.size h target

def equalItems (eq : Handle -> Handle -> Bool) : List Handle -> List Handle -> Bool
  | [], [] => true
  | a :: as, b :: bs => eq a b && equalItems eq as bs
  | _, _ => false

/-- Whether every entry has an equal one under its key among the others. -/
def equalEntries (eq : Handle -> Handle -> Bool) (entries others : Entries Handle) : Bool :=
  entries.all fun entry => (Entries.get? others entry.1).any (eq entry.2)

def equalWith (s : Store) : Nat -> Handle -> Handle -> Bool
  | 0, a, b => a == b
  | fuel + 1, a, b =>
      a == b ||
        match s.node a, s.node b with
        | Node.null, Node.null => true
        | Node.bool x, Node.bool y => x == y
        | Node.integer x, Node.integer y => x == y
        | Node.float x, Node.float y => x.equal y
        | Node.string x, Node.string y => x == y
        | Node.bytes x, Node.bytes y => x == y
        | Node.array xs, Node.array ys => equalItems (equalWith s fuel) xs ys
        | Node.map es, Node.map fs =>
            es.length == fs.length && equalEntries (equalWith s fuel) es fs
        | _, _ => false

/-- Comparison of live values.  Handles to one node are equal whatever it holds;
otherwise contents compare as in `Tree.equal`. -/
def equal (s : Store) (a b : Handle) : Bool :=
  equalWith s s.size a b

end Store
end Troupe
