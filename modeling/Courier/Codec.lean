import Courier.Json.Decode
import Courier.Json.Print
import Courier.Cbor.Decode
import Courier.Cbor.Encode

/-!
# Codecs

A codec turns payloads into bytes and back: JSON text, or CBOR. Encoding never fails;
decoding reads a payload of a given shape and names what went wrong.
-/

namespace Courier

open Json

/-- The two payload encodings. -/
inductive Codec where
  | json
  | cbor
  deriving DecidableEq, Repr, Inhabited

/-- Why a payload cannot be decoded. -/
inductive CodecError where
  /-- JSON text that does not read as the shape; the text of the failure. -/
  | json (text : String)
  /-- CBOR bytes that do not read as the shape. -/
  | cbor (e : Cbor.CborError)
  deriving Repr, Inhabited

namespace CodecError

/-- The wording of a decoding failure. -/
def message : CodecError → String
  | .json t => "json: " ++ t
  | .cbor e => "cbor decode: " ++ e.message

end CodecError

namespace Codec

/-- The name of a codec, as diagnostics show it. -/
def name : Codec → String
  | .json => "JsonCodec"
  | .cbor => "CborCodec"

/-- The bytes of a payload. -/
def encode : Codec → Value → ByteArray
  | .json, v => v.render.toUTF8
  | .cbor, v => Cbor.encode v

/-- Reads a payload of a shape. -/
def decode (c : Codec) (shape : Shape) (bytes : ByteArray) : Except CodecError Value :=
  match c with
  | .json =>
    match Json.decode shape bytes with
    | .ok v => .ok v
    | .error f => .error (.json (f.message bytes))
  | .cbor =>
    match Cbor.decode shape bytes with
    | .ok v => .ok v
    | .error e => .error (.cbor e)

end Codec

end Courier
