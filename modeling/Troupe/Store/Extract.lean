import Troupe.Store.Access

/-!
# Typed reading of live values

A value is read as a type in one of two ways.  The converting reading takes
numbers from either representation: floats are cut toward zero, integers are
rounded to the nearest float, and integer ranges are checked.  The exact reading
takes only the representation that the type itself has.

`ReadType` is the closed family of types that can be read; an option around a
type reads the null as nothing.
-/

namespace Troupe

open Number

inductive IntType where
  | i8
  | i16
  | i32
  | i64
  | u8
  | u16
  | u32
  | u64
  | usize
deriving DecidableEq, Repr

namespace IntType

def name : IntType -> String
  | i8 => "i8"
  | i16 => "i16"
  | i32 => "i32"
  | i64 => "i64"
  | u8 => "u8"
  | u16 => "u16"
  | u32 => "u32"
  | u64 => "u64"
  | usize => "usize"

def min : IntType -> Int
  | i8 => -0x80
  | i16 => -0x8000
  | i32 => -0x80000000
  | i64 => -0x8000000000000000
  | _ => 0

def max : IntType -> Int
  | i8 => 0x7f
  | i16 => 0x7fff
  | i32 => 0x7fffffff
  | i64 => 0x7fffffffffffffff
  | u8 => 0xff
  | u16 => 0xffff
  | u32 => 0xffffffff
  | u64 => 0xffffffffffffffff
  | usize => 0xffffffffffffffff

def holds (t : IntType) (i : Int) : Bool :=
  t.min ≤ i && i ≤ t.max

end IntType

inductive ReadType where
  | bool
  | int (t : IntType)
  | double
  | single
  | string
  | bytes
  | tree
  | option (t : ReadType)
deriving DecidableEq, Repr

/-- What reading as a type yields.  Single precision floats are given as the
doubles of the same value. -/
def ReadType.Carrier : ReadType -> Type
  | bool => Bool
  | int _ => Int
  | double => Binary64
  | single => Binary64
  | string => String
  | bytes => List UInt8
  | tree => Tree
  | option t => Option t.Carrier

namespace Store

def mismatch {α : Type} (expected : String) (n : Node) : Except ValueError α :=
  .error (ValueError.typeMismatch expected (Found.kind n.kind))

/-- The integer that a node holds, or the whole part of the float that it holds if that
lies within the bounds of 64 bits.  The upper bound is no float itself and is rounded to the
first one above it, which is out of bounds. -/
def wholeNumber? : Node -> Option Int64
  | Node.integer i => some i
  | Node.float x =>
      if x.isFinite && Binary64.atMost (Binary64.ofInt Int64.minValue.toInt) x &&
          Binary64.less x (Binary64.ofInt Int64.maxValue.toInt) then
        some x.toInt64
      else none
  | _ => none

def toInt (t : IntType) (n : Node) : Except ValueError Int :=
  match wholeNumber? n with
  | none => mismatch t.name n
  | some i =>
      if t.holds i.toInt then .ok i.toInt
      else .error (ValueError.typeMismatch t.name (Found.outOfRange i.toInt))

def toDouble (n : Node) : Except ValueError Binary64 :=
  match n with
  | Node.float x => .ok x
  | Node.integer i => .ok (Binary64.ofInt i.toInt)
  | other => mismatch "f64" other

/-- The converting reading. -/
def read (s : Store) (h : Handle) : (t : ReadType) -> Except ValueError t.Carrier
  | ReadType.bool =>
      match s.node h with
      | Node.bool b => .ok b
      | other => mismatch "bool" other
  | ReadType.int t => toInt t (s.node h)
  | ReadType.double => toDouble (s.node h)
  | ReadType.single => (toDouble (s.node h)).map Binary64.toSingle
  | ReadType.string =>
      match s.node h with
      | Node.string t => .ok t
      | other => mismatch "string" other
  | ReadType.bytes =>
      match s.node h with
      | Node.bytes b => .ok b
      | other => mismatch "bytes" other
  | ReadType.tree => .ok (s.freeze h)
  | ReadType.option t =>
      match s.node h with
      | Node.null => .ok none
      | _ => (s.read h t).map some

/-- The exact reading. -/
def readExact? (s : Store) (h : Handle) : (t : ReadType) -> Option t.Carrier
  | ReadType.bool =>
      match s.node h with
      | Node.bool b => some b
      | _ => none
  | ReadType.int t =>
      match s.node h with
      | Node.integer i => if t.holds i.toInt then some i.toInt else none
      | _ => none
  | ReadType.double =>
      match s.node h with
      | Node.float x => some x
      | _ => none
  | ReadType.single =>
      match s.node h with
      | Node.float x => some x.toSingle
      | _ => none
  | ReadType.string =>
      match s.node h with
      | Node.string t => some t
      | _ => none
  | ReadType.bytes =>
      match s.node h with
      | Node.bytes b => some b
      | _ => none
  | ReadType.tree => some (s.freeze h)
  | ReadType.option t =>
      match s.node h with
      | Node.null => some none
      | _ => (s.readExact? h t).map some

end Store
end Troupe
