/-!
# Time

Spans of time to the nanosecond.  A clock reading is the span since the clock
started, so instants and spans add and compare alike.
-/

namespace Troupe

structure Duration where
  nanos : Nat
deriving DecidableEq, Repr

abbrev Instant := Duration

namespace Duration

def zero : Duration := { nanos := 0 }

def ofMicros (n : Nat) : Duration := { nanos := n * 1000 }

def ofMillis (n : Nat) : Duration := { nanos := n * 1000000 }

def wholeMillis (d : Duration) : Nat :=
  d.nanos / 1000000

def isZero (d : Duration) : Bool :=
  d.nanos == 0

def plus (a b : Duration) : Duration := { nanos := a.nanos + b.nanos }

/-- What is left of a span after another one; zero if nothing is. -/
def minus (a b : Duration) : Duration := { nanos := a.nanos - b.nanos }

def atMost (a b : Duration) : Bool :=
  a.nanos ≤ b.nanos

theorem wholeMillis_ofMillis (n : Nat) : (ofMillis n).wholeMillis = n := by
  simp [ofMillis, wholeMillis]

end Duration
end Troupe
