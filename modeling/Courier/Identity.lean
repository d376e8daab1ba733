import Courier.Crypto.Ed25519
import Courier.Text.Hex
import Courier.Text.Base64
import Courier.Header
import Courier.Service.Error

/-!
# Identities

A service may hold a signing key and an allowlist of known identities. An identity is the
public key of a signer in lowercase hexadecimal. Stamping headers for a payload sets the
signer's identity and the Base64 signature of the payload, when there is a key, and always
the time of sending.

Verifying headers for a payload reads the first identity and signature values (empty when
absent). With a nonempty allowlist the identity must be on it, up to ASCII case; with an empty
one, headers without identity and signature pass unchecked, and otherwise the identity must
decode to a public key. The signature must then be canonical Base64 of 64 bytes and check out
for the payload under that key.
-/

namespace Courier

open Crypto

/-- A public key: its 32 bytes as given and the curve point they name. -/
structure VerifyingKey where
  bytes : ByteArray
  point : Ed25519.Point

namespace VerifyingKey

/-- The key of 32 bytes that name a curve point. -/
def ofBytes? (b : ByteArray) : Option VerifyingKey :=
  if b.size == 32 then (Ed25519.Point.decompress b).map fun p => ⟨b, p⟩ else none

/-- The identity of a key: its bytes in lowercase hexadecimal. -/
def identity (k : VerifyingKey) : String := Text.hexEncode k.bytes

end VerifyingKey

/-- The key named by an identity in hexadecimal. -/
def decodeIdentity (identity : String) : Except ServiceError VerifyingKey :=
  match Text.hexDecode identity with
  | .error _ => .error .invalidIdentity
  | .ok b =>
    match VerifyingKey.ofBytes? b with
    | some k => .ok k
    | none => .error .invalidIdentity

/-- A signing key: a 32-byte seed. -/
structure SigningKey where
  seed : ByteArray

namespace SigningKey

/-- The seed whose 32 bytes all equal `n`. -/
def ofByte (n : Nat) : SigningKey := ⟨⟨(List.replicate 32 n.toUInt8).toArray⟩⟩

/-- The public key of a signing key. -/
def verifyingKey (k : SigningKey) : VerifyingKey :=
  let b := Ed25519.publicKey k.seed
  ⟨b, (Ed25519.Point.decompress b).getD Ed25519.Point.zero⟩

end SigningKey

/-- ASCII lowercase of a string; other characters are kept. -/
def asciiLower (s : String) : String :=
  s.map fun c => if 'A' ≤ c && c ≤ 'Z' then Char.ofNat (c.toNat + 32) else c

/-- A signer and verifier of envelopes. -/
structure Identity where
  signingKey : Option SigningKey := none
  /-- The public key bytes of the signing key. -/
  publicBytes : Option ByteArray := none
  /-- The allowlist, by lowercase name. -/
  known : List (String × VerifyingKey) := []

namespace Identity

/-- An identity of a signing key and an allowlist, whose names are lowercased; of two names
equal up to case, the later one wins. -/
def make (signingKey : Option SigningKey) (known : List (String × VerifyingKey)) : Identity :=
  ⟨signingKey, signingKey.map (Ed25519.publicKey ·.seed),
    known.foldl (fun acc (n, k) => Keyed.insert (asciiLower n) k acc) []⟩

/-- The signer's own identity. -/
def public? (id : Identity) : Option String := id.publicBytes.map Text.hexEncode

/-- The signer's identity and the Base64 signature of a payload. -/
def sign (id : Identity) (payload : ByteArray) : Option (String × String) :=
  match id.signingKey, id.publicBytes with
  | some k, some pub =>
    some (Text.hexEncode pub, Text.base64Encode (Ed25519.signWith k.seed pub payload))
  | _, _ => none

/-- Headers stamped for a payload sent at `now`: identity and signature when there is a key,
and the time of sending. -/
def stamp (id : Identity) (h : Headers) (payload : ByteArray) (now : Int) : Headers :=
  let h := match id.sign payload with
    | some (who, sig) => (h.insert Headers.identity who).insert Headers.signature sig
    | none => h
  h.insert Headers.timestamp (toString now)

/-- Checks the identity and signature of headers for a payload. -/
def verify (id : Identity) (h : Headers) (payload : ByteArray) : Except ServiceError Unit :=
  let who := (h.get? Headers.identity).getD ""
  let sig := (h.get? Headers.signature).getD ""
  let key : Except ServiceError (Option VerifyingKey) :=
    if !id.known.isEmpty then
      match Keyed.find? (asciiLower who) id.known with
      | some k => .ok (some k)
      | none => .error (.unknownIdentity who)
    else if who.isEmpty && sig.isEmpty then .ok none
    else (decodeIdentity who).map some
  match key with
  | .error e => .error e
  | .ok none => .ok ()
  | .ok (some k) =>
    match Text.base64Decode sig with
    | none => .error .malformedSignature
    | some bytes =>
      if bytes.size != 64 then .error .malformedSignature
      else if Ed25519.verify k.bytes k.point payload bytes then .ok ()
      else .error .invalidSignature

end Identity

end Courier
