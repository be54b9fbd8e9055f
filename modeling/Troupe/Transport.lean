/-!
# Transports

Where published payloads go.  A channel keeps up to `capacity` payloads until its
receiver takes them; once the receiver has closed it, it accepts no more.  The
null transport accepts everything and keeps nothing.
-/

namespace Troupe

inductive TransportError where
  | backlogged
  | closed
  | other (text : String)
deriving DecidableEq, Repr

def TransportError.message : TransportError -> String
  | backlogged => "transport backlogged"
  | closed => "transport closed"
  | other text => text

structure Outbound where
  topic : String
  payload : List UInt8
deriving DecidableEq, Repr

inductive Transport where
  | null
  | channel (capacity : Nat) (queue : List Outbound) (closed : Bool)
deriving DecidableEq, Repr

namespace Transport

/-- An empty channel; the least capacity is one. -/
def ofCapacity (capacity : Nat) : Transport :=
  channel (max capacity 1) [] false

def send (topic : String) (payload : List UInt8) :
    Transport -> Except TransportError Transport
  | null => .ok null
  | channel capacity queue closed =>
      if closed then .error TransportError.closed
      else if capacity ≤ queue.length then .error TransportError.backlogged
      else .ok (channel capacity (queue ++ [{ topic := topic, payload := payload }]) closed)

def receive : Transport -> Option Outbound × Transport
  | channel capacity (out :: queue) closed => (some out, channel capacity queue closed)
  | transport => (none, transport)

def receiveAll : Transport -> List Outbound × Transport
  | channel capacity queue closed => (queue, channel capacity [] closed)
  | null => ([], null)

/-- The receiver accepts no more, but can still take what is waiting. -/
def close : Transport -> Transport
  | channel capacity queue _ => channel capacity queue true
  | null => null

/-- The receiver goes away, and with it what is waiting. -/
def abandon : Transport -> Transport
  | channel capacity _ _ => channel capacity [] true
  | null => null

end Transport
end Troupe
