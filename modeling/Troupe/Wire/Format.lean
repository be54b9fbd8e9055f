import Troupe.Record.JsonForm

/-!
# Wire formats

A format is named by a media type, so that it can travel in a configuration or
beside a payload.  Any text is a format; whether something understands it is a
matter of codecs.
-/

namespace Troupe

structure Format where
  name : String
deriving DecidableEq, Repr

namespace Format

def cbor : Format := { name := "application/cbor" }

def json : Format := { name := "application/json" }

instance : Inhabited Format := ⟨cbor⟩

/-- The two formats with codecs may be given by their short names. -/
def ofConfigured (name : String) : Format :=
  if name = "cbor" then cbor
  else if name = "json" then json
  else { name := name }

instance : JsonForm Format where
  write format := Json.string format.name
  read v := (JsonForm.read v).map ofConfigured

end Format
end Troupe
