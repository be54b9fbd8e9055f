import Troupe.Message.Schema

/-!
# Message types for rehearsals

A handful of message types with which a system can be tried out: signals without
contents, a text, a number in a record, and a pair of types that share a name and
so an id.
-/

namespace Troupe
namespace Rehearsal

/-- A type without contents, whose form is the null. -/
def signal (label name : String) : Schema :=
  { label := label
    name := name
    read := fun v =>
      match v with
      | Json.null => .ok Json.null
      | other => other.mismatch ("unit struct " ++ label) }

def ping : Schema := signal "Ping" "Ping"

/-- Goes by the name of another type. -/
def impostor : Schema := signal "Impostor" "Blink"

def odd : Schema := signal "Odd" "Odd"

/-- Asks an actor to stay busy until it is released. -/
def holdSignal : Schema := signal "Hold" "Hold"

def note : Schema :=
  { label := "Note"
    name := "Note"
    read := fun v => (JsonForm.read v).map fun text : String => Json.string text }

def blinkBody (interval : UInt32) : Json :=
  Json.object [("interval_ms", JsonForm.write interval)]

def blink : Schema :=
  { label := "Blink"
    name := "Blink"
    read :=
      JsonForm.readRequired "Blink"
        [JsonForm.Field.of "interval_ms" fun interval _ => some interval] none
        fun draft : Option UInt32 => (JsonForm.required "interval_ms" draft).map blinkBody }

def cast : List Schema :=
  [ping, note, blink, impostor, odd, holdSignal]

end Rehearsal
end Troupe
