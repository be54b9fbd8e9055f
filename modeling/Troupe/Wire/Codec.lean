import Troupe.Cbor.Decode
import Troupe.Json.Reader
import Troupe.Json.Text
import Troupe.Wire.Format

/-!
# Codecs

A codec turns trees into bytes of a format and back.  There is one codec for each
of the two formats, and codecs can be combined into one that passes each payload
to the first of its parts that supports the payload's format; parts may be
combinations themselves.
-/

namespace Troupe

inductive DecodeFault where
  | cbor (error : Cbor.CborError)
  | json (error : JsonTextError)
  | shape (error : ShapeError)
  | stated (text : String)
deriving DecidableEq, Repr

def DecodeFault.message : DecodeFault -> String
  | cbor error => error.message
  | json error => error.message
  | shape error => error.message
  | stated text => text

inductive CodecError where
  | decode (format : Format) (fault : DecodeFault)
  | encode (format : Format) (text : String)
  | unsupportedFormat (format : Format)
deriving DecidableEq, Repr

def CodecError.message : CodecError -> String
  | decode format fault => "decode error (" ++ format.name ++ "): " ++ fault.message
  | encode format text => "encode error (" ++ format.name ++ "): " ++ text
  | unsupportedFormat format => "unsupported format: " ++ format.name

inductive Codec where
  | cbor
  | json
  | multi (codecs : List Codec)
deriving Inhabited

namespace Codec

mutual

def supports (format : Format) : Codec -> Bool
  | cbor => format = Format.cbor
  | json => format = Format.json
  | multi codecs => anySupports format codecs

def anySupports (format : Format) : List Codec -> Bool
  | [] => false
  | codec :: rest => supports format codec || anySupports format rest

end

mutual

def encode (format : Format) (t : Tree) : Codec -> Except CodecError (List UInt8)
  | cbor =>
      if format = Format.cbor then .ok (Cbor.encode t)
      else .error (CodecError.unsupportedFormat format)
  | json =>
      if format = Format.json then .ok (Text.utf8Bytes t.canonical)
      else .error (CodecError.unsupportedFormat format)
  | multi codecs => encodeFirst format t codecs

def encodeFirst (format : Format) (t : Tree) :
    List Codec -> Except CodecError (List UInt8)
  | [] => .error (CodecError.unsupportedFormat format)
  | codec :: rest =>
      if codec.supports format then encode format t codec else encodeFirst format t rest

end

mutual

def decode (format : Format) (payload : List UInt8) : Codec -> Except CodecError Tree
  | cbor =>
      if format = Format.cbor then
        (Cbor.decode payload).mapError fun error =>
          CodecError.decode format (DecodeFault.cbor error)
      else .error (CodecError.unsupportedFormat format)
  | json =>
      if format = Format.json then
        match Json.parse payload with
        | .ok v => .ok v.toTree
        | .error error => .error (CodecError.decode format (DecodeFault.json error))
      else .error (CodecError.unsupportedFormat format)
  | multi codecs => decodeFirst format payload codecs

def decodeFirst (format : Format) (payload : List UInt8) :
    List Codec -> Except CodecError Tree
  | [] => .error (CodecError.unsupportedFormat format)
  | codec :: rest =>
      if codec.supports format then decode format payload codec
      else decodeFirst format payload rest

end

def standard : Codec :=
  multi [cbor, json]

end Codec

/-!
## Typed conversion

Values of types with a JSON form become trees and are read from trees by way of
that form, so bytes travel as Base64 text and a float that is not finite as null.
-/

namespace JsonForm

variable {α : Type} [JsonForm α]

def toTree (a : α) : Tree :=
  (write a).toTree

def ofTree (t : Tree) : Except CodecError α :=
  match read t.toJson with
  | .ok a => .ok a
  | .error error => .error (CodecError.decode Format.json (DecodeFault.shape error))

end JsonForm
end Troupe
