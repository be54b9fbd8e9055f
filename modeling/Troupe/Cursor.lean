/-!
# Positions in a byte string

A reader of bytes holds what is left to read and how much it has read; the
number locates its errors.
-/

namespace Troupe

/-- The unread bytes and the number of bytes read. -/
structure Cursor where
  rest : List UInt8
  offset : Nat
deriving DecidableEq, Repr

namespace Cursor

def start (input : List UInt8) : Cursor :=
  { rest := input, offset := 0 }

def next (c : Cursor) : Cursor :=
  { rest := c.rest.tail, offset := c.offset + min 1 c.rest.length }

def advance (c : Cursor) (n : Nat) : Cursor :=
  { rest := c.rest.drop n, offset := c.offset + n }

end Cursor
end Troupe
