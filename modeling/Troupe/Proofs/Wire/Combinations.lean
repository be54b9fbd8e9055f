import Mathlib.Data.List.Basic
import Troupe.Wire.Codec

/-!
# Combined codecs

A combination passes a payload to the first of its parts that supports the format, and a part
may be a combination itself.  However deep they nest, only the single codecs count, in their
order from left to right: the first of them that supports the format writes and reads, and if
there is none, the combination writes and reads nothing of that format.
-/

namespace Troupe
namespace Codec

inductive Single where
  | cbor
  | json
deriving DecidableEq

def Single.codec : Single -> Codec
  | cbor => Codec.cbor
  | json => Codec.json

mutual

/-- The single codecs within a codec, from left to right. -/
def singles : Codec -> List Single
  | cbor => [Single.cbor]
  | json => [Single.json]
  | multi codecs => singlesOf codecs

def singlesOf : List Codec -> List Single
  | [] => []
  | codec :: rest => singles codec ++ singlesOf rest

end

/-- A combination of single codecs only, which are those of the codec. -/
def flat (c : Codec) : Codec :=
  multi (c.singles.map Single.codec)

def First (singles : List Single) (format : Format) (s : Single) : Prop :=
  exists before after : List Single, singles = before ++ s :: after ∧
    s.codec.supports format = true ∧
      forall other : Single, other ∈ before -> other.codec.supports format = false

variable {format : Format} {singles : List Single} {s : Single}

def first? (format : Format) (singles : List Single) : Option Single :=
  singles.find? fun s => s.codec.supports format

theorem first?_eq_some_iff : first? format singles = some s <-> First singles format s := by
  unfold first? First
  rw [List.find?_eq_some_iff_append]
  constructor
  · rintro ⟨hsupports, before, after, hsplit, hbefore⟩
    exact ⟨before, after, hsplit, hsupports, fun other hmem => by simpa using hbefore other hmem⟩
  · rintro ⟨before, after, hsplit, hsupports, hbefore⟩
    exact ⟨hsupports, before, after, hsplit, fun other hmem => by simp [hbefore other hmem]⟩

theorem first?_single (format : Format) (s : Single) :
    first? format [s] = if s.codec.supports format then some s else none := by
  simp [first?]

theorem first?_append (format : Format) (left right : List Single) :
    first? format (left ++ right) = (first? format left).or (first? format right) :=
  List.find?_append

theorem singles_codec (s : Single) : s.codec.singles = [s] := by
  cases s <;> rfl

theorem singlesOf_map_codec (all : List Single) : singlesOf (all.map Single.codec) = all := by
  induction all with
  | nil => rfl
  | cons s rest ih => rw [List.map_cons, singlesOf, singles_codec, ih, List.singleton_append]

theorem singles_flat (c : Codec) : c.flat.singles = c.singles := by
  rw [flat, Codec.singles, singlesOf_map_codec]

/-!
## The route of a payload
-/

theorem isSome_first?_single (format : Format) (s : Single) :
    (first? format [s]).isSome = s.codec.supports format := by
  rw [first?_single]
  cases s.codec.supports format <;> rfl

mutual

theorem supports_eq (format : Format) :
    forall c : Codec, c.supports format = (first? format c.singles).isSome
  | cbor => (isSome_first?_single format Single.cbor).symm
  | json => (isSome_first?_single format Single.json).symm
  | multi codecs => anySupports_eq format codecs

theorem anySupports_eq (format : Format) :
    forall codecs : List Codec,
      anySupports format codecs = (first? format (singlesOf codecs)).isSome
  | [] => rfl
  | codec :: rest => by
      rw [anySupports, singlesOf, first?_append, Option.isSome_or, supports_eq format codec,
        anySupports_eq format rest]

end

/-- Writing and reading go through a combination in the same way.  `act` is what a codec does,
and `actFirst` what the first of several codecs does that supports the format. -/
structure Routes {α : Type} (format : Format) (act : Codec -> α) (actFirst : List Codec -> α)
    (refusal : α) : Prop where
  refused : forall s : Single, s.codec.supports format = false -> act s.codec = refusal
  multi : forall codecs : List Codec, act (multi codecs) = actFirst codecs
  nil : actFirst [] = refusal
  cons : forall (codec : Codec) (rest : List Codec),
    actFirst (codec :: rest) = if codec.supports format then act codec else actFirst rest

namespace Routes

variable {α : Type} {act : Codec -> α} {actFirst : List Codec -> α} {refusal : α}

theorem single (h : Routes format act actFirst refusal) (s : Single) :
    act s.codec = (first? format [s]).elim refusal fun s => act s.codec := by
  rw [first?_single]
  cases hsupports : s.codec.supports format with
  | true => rfl
  | false => exact h.refused s hsupports

mutual

theorem eq_first (h : Routes format act actFirst refusal) : forall c : Codec,
    act c = (first? format c.singles).elim refusal fun s => act s.codec
  | cbor => h.single Single.cbor
  | json => h.single Single.json
  | Codec.multi codecs => (h.multi codecs).trans (h.eq_first_of codecs)

theorem eq_first_of (h : Routes format act actFirst refusal) : forall codecs : List Codec,
    actFirst codecs = (first? format (singlesOf codecs)).elim refusal fun s => act s.codec
  | [] => h.nil
  | codec :: rest => by
      rw [h.cons, singlesOf, first?_append, supports_eq format codec]
      cases hfirst : first? format codec.singles with
      | none => exact h.eq_first_of rest
      | some s =>
          have hcodec := h.eq_first codec
          rw [hfirst] at hcodec
          exact hcodec

end

end Routes

theorem encode_eq (format : Format) (t : Tree) (c : Codec) :
    c.encode format t =
      (first? format c.singles).elim (.error (CodecError.unsupportedFormat format))
        fun s => s.codec.encode format t := by
  have hroutes : Routes format (encode format t) (encodeFirst format t)
      (.error (CodecError.unsupportedFormat format)) := by
    refine ⟨?_, fun _ => rfl, rfl, fun _ _ => rfl⟩
    intro s hsupports
    cases s with
    | cbor => exact if_neg (of_decide_eq_false hsupports)
    | json => exact if_neg (of_decide_eq_false hsupports)
  exact hroutes.eq_first c

theorem decode_eq (format : Format) (payload : List UInt8) (c : Codec) :
    c.decode format payload =
      (first? format c.singles).elim (.error (CodecError.unsupportedFormat format))
        fun s => s.codec.decode format payload := by
  have hroutes : Routes format (decode format payload) (decodeFirst format payload)
      (.error (CodecError.unsupportedFormat format)) := by
    refine ⟨?_, fun _ => rfl, rfl, fun _ _ => rfl⟩
    intro s hsupports
    cases s with
    | cbor => exact if_neg (of_decide_eq_false hsupports)
    | json => exact if_neg (of_decide_eq_false hsupports)
  exact hroutes.eq_first c

/-!
## Single codecs
-/

theorem exists_encode_single (t : Tree) (hsupports : s.codec.supports format = true) :
    exists payload : List UInt8, s.codec.encode format t = .ok payload := by
  cases s with
  | cbor => exact ⟨Cbor.encode t, if_pos (of_decide_eq_true hsupports)⟩
  | json => exact ⟨Text.utf8Bytes t.canonical, if_pos (of_decide_eq_true hsupports)⟩

theorem decode_single_ne (payload : List UInt8) (hsupports : s.codec.supports format = true) :
    s.codec.decode format payload ≠ .error (CodecError.unsupportedFormat format) := by
  cases s with
  | cbor =>
      obtain rfl : format = Format.cbor := of_decide_eq_true hsupports
      simp only [Single.codec, decode, if_true]
      cases Cbor.decode payload <;> nofun
  | json =>
      obtain rfl : format = Format.json := of_decide_eq_true hsupports
      simp only [Single.codec, decode, if_true]
      cases Json.parse payload <;> nofun

/-- A combination of any depth does what the flat list of its single codecs does, which is
what the first of them does that supports the format.  It writes exactly the formats that it
supports, and of others it says so. -/
theorem combinations_flatten (c : Codec) (format : Format) (t : Tree) (payload : List UInt8) :
    (c.supports format = c.flat.supports format ∧
        c.encode format t = c.flat.encode format t ∧
          c.decode format payload = c.flat.decode format payload) ∧
      (c.supports format = true <-> exists s : Single, First c.singles format s ∧
        c.encode format t = s.codec.encode format t ∧
          c.decode format payload = s.codec.decode format payload) ∧
        (c.supports format = true <->
          exists written : List UInt8, c.encode format t = .ok written) ∧
          (c.supports format = false <->
            c.encode format t = .error (CodecError.unsupportedFormat format)) ∧
            (c.supports format = false <->
              c.decode format payload = .error (CodecError.unsupportedFormat format)) := by
  refine ⟨⟨?_, ?_, ?_⟩, ?_⟩
  · rw [supports_eq, supports_eq, singles_flat]
  · rw [encode_eq, encode_eq _ _ c.flat, singles_flat]
  · rw [decode_eq, decode_eq _ _ c.flat, singles_flat]
  have hsupported := supports_eq format c
  have hencode := encode_eq format t c
  have hdecode := decode_eq format payload c
  cases hfirst : first? format c.singles with
  | none =>
      rw [hfirst] at hsupported hencode hdecode
      rw [hsupported, hencode, hdecode]
      refine ⟨iff_of_false nofun ?_, iff_of_false nofun nofun, iff_of_true rfl rfl,
        iff_of_true rfl rfl⟩
      rintro ⟨s, hs, -⟩
      cases hfirst.symm.trans (first?_eq_some_iff.mpr hs)
  | some s =>
      have hs := first?_eq_some_iff.mp hfirst
      rw [hfirst] at hsupported hencode hdecode
      have hsingle : s.codec.supports format = true := by
        rcases hs with ⟨_, _, _, hsingle, _⟩
        exact hsingle
      rcases exists_encode_single t hsingle with ⟨written, hwritten⟩
      refine ⟨iff_of_true hsupported ⟨s, hs, hencode, hdecode⟩,
        iff_of_true hsupported ⟨written, hencode.trans hwritten⟩, ?_, ?_⟩
      · refine iff_of_false (by rw [hsupported]; nofun) ?_
        rw [hencode, Option.elim_some, hwritten]
        nofun
      · refine iff_of_false (by rw [hsupported]; nofun) ?_
        rw [hdecode]
        exact decode_single_ne payload hsingle

example : (multi [multi [], multi [json, multi [cbor]], cbor]).singles =
    [Single.json, Single.cbor, Single.cbor] :=
  rfl

end Codec
end Troupe
