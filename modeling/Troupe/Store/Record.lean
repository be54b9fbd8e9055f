import Troupe.Store.Basic
import Troupe.Wire.Codec

/-!
# Records in stores

Values of types with a JSON form become fresh live values and are read from the
trees that live values show.
-/

namespace Troupe
namespace Store

variable {α : Type} [JsonForm α]

def ofRecord (s : Store) (a : α) : Handle × Store :=
  s.thaw (JsonForm.toTree a)

def toRecord (s : Store) (h : Handle) : Except CodecError α :=
  JsonForm.ofTree (s.freeze h)

end Store
end Troupe
