import Troupe.Proofs.Json.NormalForm
import Troupe.Wire.Codec

/-!
# The routes through JSON

A tree can go through compact text, through indented text, or through its
document without any text.  All three lead to its normal form; only texts are
limited in nesting.
-/

namespace Troupe
namespace Codec

open Number

theorem decode_json_of_ok {payload : List UInt8} {v : Json} (h : Json.parse payload = .ok v) :
    decode Format.json payload json = .ok v.toTree := by
  rw [decode, if_pos rfl, h]

theorem decode_json_of_error {payload : List UInt8} {error : JsonTextError}
    (h : Json.parse payload = .error error) :
    decode Format.json payload json =
      .error (CodecError.decode Format.json (DecodeFault.json error)) := by
  rw [decode, if_pos rfl, h]

theorem decode_json_of_spells {t : Tree} {payload : List UInt8}
    (h : Json.Spells t.toJson payload) :
    (t.depth ≤ 127 -> decode Format.json payload json = .ok t.norm) ∧
      (127 < t.depth -> exists error : JsonTextError,
        error.fault = JsonFault.tooDeep ∧
          decode Format.json payload json =
            .error (CodecError.decode Format.json (DecodeFault.json error))) := by
  rcases Json.parse_of_spells h with ⟨hshallow, hdeep⟩
  rw [Tree.depth_toJson] at hshallow hdeep
  constructor
  · intro hdepth
    rw [decode_json_of_ok (hshallow hdepth), Tree.toTree_toJson]
  · intro hdepth
    rcases hdeep hdepth with ⟨error, herror, hfault⟩
    exact ⟨error, hfault, decode_json_of_error herror⟩

theorem spells_canonical {t : Tree} (hunique : t.UniqueKeys) :
    Json.Spells t.toJson (Text.utf8Bytes t.canonical) := by
  rw [Tree.canonical, Json.compact, Text.utf8Bytes_ofList]
  exact Json.spells_writeCompact (Tree.valid_toJson hunique)

theorem spells_pretty {t : Tree} (hunique : t.UniqueKeys) :
    Json.Spells t.toJson (Text.utf8Bytes t.pretty) := by
  rw [Tree.pretty, Json.pretty, Text.utf8Bytes_ofList]
  exact Json.spells_writePretty 0 (Tree.valid_toJson hunique)

/-- Both texts of a tree and its document lead to its normal form.  The document
does so at every depth; texts of trees that nest too deep are refused. -/
theorem json_routes {t : Tree} (hunique : t.UniqueKeys) :
    exists payload : List UInt8,
      encode Format.json t json = .ok payload ∧
        (t.depth ≤ 127 ->
          decode Format.json payload json = .ok t.norm ∧
            decode Format.json (Text.utf8Bytes t.pretty) json = .ok t.norm) ∧
        (127 < t.depth -> exists error error' : JsonTextError,
          decode Format.json payload json =
              .error (CodecError.decode Format.json (DecodeFault.json error)) ∧
            decode Format.json (Text.utf8Bytes t.pretty) json =
              .error (CodecError.decode Format.json (DecodeFault.json error')) ∧
            error.fault = JsonFault.tooDeep ∧ error'.fault = JsonFault.tooDeep) ∧
        (JsonForm.ofTree t : Except CodecError Json).map JsonForm.toTree = .ok t.norm ∧
        t.norm.norm = t.norm := by
  rcases decode_json_of_spells (spells_canonical hunique) with ⟨hcompact, hcompactDeep⟩
  rcases decode_json_of_spells (spells_pretty hunique) with ⟨hpretty, hprettyDeep⟩
  refine ⟨Text.utf8Bytes t.canonical, by rw [encode, if_pos rfl], ?_, ?_, ?_, Tree.norm_norm t⟩
  · intro hdepth
    exact ⟨hcompact hdepth, hpretty hdepth⟩
  · intro hdepth
    rcases hcompactDeep hdepth with ⟨error, hfault, herror⟩
    rcases hprettyDeep hdepth with ⟨error', hfault', herror'⟩
    exact ⟨error, error', herror, herror', hfault, hfault'⟩
  · exact congrArg Except.ok (Tree.toTree_toJson t)

theorem json_routes_mixed :
    exists payload : List UInt8,
      encode Format.json
          (Tree.map [("a", Tree.array [Tree.float { bits := 0x8000000000000000 },
            Tree.bytes [0xff], Tree.integer (-3), Tree.float { bits := 0x7ff8000000000000 }])])
          json = .ok payload ∧
        decode Format.json payload json =
          .ok (Tree.map [("a", Tree.array [Tree.float { bits := 0x8000000000000000 },
            Tree.string "/w==", Tree.integer (-3), Tree.null])]) := by
  have hunique : Tree.UniqueKeys
      (Tree.map [("a", Tree.array [Tree.float { bits := 0x8000000000000000 },
        Tree.bytes [0xff], Tree.integer (-3), Tree.float { bits := 0x7ff8000000000000 }])]) := by
    simp [Tree.UniqueKeys, Tree.UniqueKeysEntries, Tree.UniqueKeysItems, Entries.Unique,
      Entries.keys]
  rcases json_routes hunique with ⟨payload, hencode, hshallow, _⟩
  exact ⟨payload, hencode, (hshallow (by decide)).left⟩

end Codec
end Troupe
