import Troupe.Entries
import Troupe.Number.Binary64
import Troupe.Path

/-!
# Value trees

A tree is the immutable form of a dynamic value: what is sent, stored, encoded
and compared.  Floats are bit patterns, so equality of trees (`=`) is identity of
every leaf, while `Tree.equal` is the numeric comparison under which a
not-a-number equals nothing and entry order does not count.

## Shape

Seven kinds of leaf and inner node besides the null.  Maps keep insertion order;
`Tree.UniqueKeys` says that no map anywhere in the tree repeats a key.
-/

namespace Troupe

open Number

inductive Kind where
  | null
  | bool
  | integer
  | float
  | string
  | bytes
  | map
  | array
deriving DecidableEq, Repr

def Kind.text : Kind -> String
  | null => "null"
  | bool => "bool"
  | integer => "integer"
  | float => "float"
  | string => "string"
  | bytes => "bytes"
  | map => "map"
  | array => "array"

inductive Tree where
  | null
  | bool (b : Bool)
  | integer (i : Int64)
  | float (x : Binary64)
  | string (s : String)
  | bytes (b : List UInt8)
  | map (entries : List (String × Tree))
  | array (items : List Tree)
deriving Inhabited

namespace Tree

def kind : Tree -> Kind
  | null => Kind.null
  | bool _ => Kind.bool
  | integer _ => Kind.integer
  | float _ => Kind.float
  | string _ => Kind.string
  | bytes _ => Kind.bytes
  | map _ => Kind.map
  | array _ => Kind.array

/-!
## Identity
-/

mutual

/-- Whether two trees agree in every leaf, key, and position. -/
def same : Tree -> Tree -> Bool
  | null, null => true
  | bool a, bool b => a == b
  | integer a, integer b => a == b
  | float a, float b => a == b
  | string a, string b => a == b
  | bytes a, bytes b => a == b
  | map a, map b => sameEntries a b
  | array a, array b => sameItems a b
  | _, _ => false

def sameEntries : List (String × Tree) -> List (String × Tree) -> Bool
  | [], [] => true
  | (k, t) :: rest, (k', t') :: rest' => k == k' && (same t t' && sameEntries rest rest')
  | _, _ => false

def sameItems : List Tree -> List Tree -> Bool
  | [], [] => true
  | t :: rest, t' :: rest' => same t t' && sameItems rest rest'
  | _, _ => false

end

mutual

theorem eq_of_same : forall {a b : Tree}, same a b = true -> a = b
  | null, b, h => by cases b <;> simp_all [same]
  | bool _, b, h => by cases b <;> simp_all [same]
  | integer _, b, h => by cases b <;> simp_all [same]
  | float _, b, h => by cases b <;> simp_all [same]
  | string _, b, h => by cases b <;> simp_all [same]
  | bytes _, b, h => by cases b <;> simp_all [same]
  | map es, b, h => by
      cases b with
      | map fs => exact congrArg map (eq_of_sameEntries (by simpa [same] using h))
      | _ => simp [same] at h
  | array xs, b, h => by
      cases b with
      | array ys => exact congrArg array (eq_of_sameItems (by simpa [same] using h))
      | _ => simp [same] at h

theorem eq_of_sameEntries :
    forall {a b : List (String × Tree)}, sameEntries a b = true -> a = b
  | [], b, h => by cases b <;> simp_all [sameEntries]
  | (k, t) :: rest, b, h => by
      match b, h with
      | (k', t') :: rest', h =>
          simp only [sameEntries, Bool.and_eq_true, beq_iff_eq] at h
          rw [h.left, eq_of_same h.right.left, eq_of_sameEntries h.right.right]
      | [], h => simp [sameEntries] at h

theorem eq_of_sameItems : forall {a b : List Tree}, sameItems a b = true -> a = b
  | [], b, h => by cases b <;> simp_all [sameItems]
  | t :: rest, b, h => by
      match b, h with
      | t' :: rest', h =>
          simp only [sameItems, Bool.and_eq_true] at h
          rw [eq_of_same h.left, eq_of_sameItems h.right]
      | [], h => simp [sameItems] at h

end

mutual

theorem same_self : forall a : Tree, same a a = true
  | null => rfl
  | bool _ => by simp [same]
  | integer _ => by simp [same]
  | float _ => by simp [same]
  | string _ => by simp [same]
  | bytes _ => by simp [same]
  | map es => by simp [same, sameEntries_self es]
  | array xs => by simp [same, sameItems_self xs]

theorem sameEntries_self : forall a : List (String × Tree), sameEntries a a = true
  | [] => rfl
  | (_, t) :: rest => by simp [sameEntries, same_self t, sameEntries_self rest]

theorem sameItems_self : forall a : List Tree, sameItems a a = true
  | [] => rfl
  | t :: rest => by simp [sameItems, same_self t, sameItems_self rest]

end

theorem same_iff {a b : Tree} : same a b = true <-> a = b := by
  constructor
  · exact eq_of_same
  · intro h
    rw [h]
    exact same_self b

instance : DecidableEq Tree := fun _ _ =>
  decidable_of_iff _ same_iff

/-!
## Comparison
-/

mutual

/-- Numeric and structural comparison.  Maps compare as sets of entries. -/
def equal : Tree -> Tree -> Bool
  | null, null => true
  | bool a, bool b => a == b
  | integer a, integer b => a == b
  | float a, float b => a.equal b
  | string a, string b => a == b
  | bytes a, bytes b => a == b
  | map a, map b => a.length == b.length && equalEntries a b
  | array a, array b => equalItems a b
  | _, _ => false

/-- Whether every entry has an equal one under its key among the others. -/
def equalEntries : List (String × Tree) -> List (String × Tree) -> Bool
  | [], _ => true
  | (k, t) :: rest, others =>
      (match Entries.get? others k with
        | some t' => equal t t'
        | none => false) &&
        equalEntries rest others

def equalItems : List Tree -> List Tree -> Bool
  | [], [] => true
  | t :: rest, t' :: rest' => equal t t' && equalItems rest rest'
  | _, _ => false

end

/-!
## Well-formed trees and nesting
-/

mutual

def UniqueKeys : Tree -> Prop
  | map es => Entries.Unique es ∧ UniqueKeysEntries es
  | array xs => UniqueKeysItems xs
  | _ => True

def UniqueKeysEntries : List (String × Tree) -> Prop
  | [] => True
  | (_, t) :: rest => UniqueKeys t ∧ UniqueKeysEntries rest

def UniqueKeysItems : List Tree -> Prop
  | [] => True
  | t :: rest => UniqueKeys t ∧ UniqueKeysItems rest

end

mutual

/-- How many containers enclose the innermost node, that node included if it is
a container itself. -/
def depth : Tree -> Nat
  | map es => depthEntries es + 1
  | array xs => depthItems xs + 1
  | _ => 0

def depthEntries : List (String × Tree) -> Nat
  | [] => 0
  | (_, t) :: rest => max (depth t) (depthEntries rest)

def depthItems : List Tree -> Nat
  | [] => 0
  | t :: rest => max (depth t) (depthItems rest)

end

/-!
## Reading
-/

def get? : Tree -> Key -> Option Tree
  | map es, key => Entries.get? es key.fieldName
  | array xs, Key.index position => xs[position]?
  | _, _ => none

def follow? (t : Tree) (keys : List Key) : Option Tree :=
  keys.foldlM get? t

def getPath? (t : Tree) (path : Path) : Option Tree :=
  t.follow? path.keys

end Tree
end Troupe
