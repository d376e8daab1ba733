/-!
# Base64

The standard Base64 alphabet of RFC 4648 with padding. Reading accepts only the canonical
form: a length that is a multiple of four, padding only at the end and exactly as much as
writing puts there, and zero bits after the last byte.
-/

namespace Courier.Text

/-- The standard alphabet. -/
def base64Alphabet : List Char :=
  "ABCDEFGHIJKLMNOPQRSTUVWXYZabcdefghijklmnopqrstuvwxyz0123456789+/".toList

/-- The letter of a six-bit value. -/
def base64Letter (n : Nat) : Char := base64Alphabet.getD n 'A'

/-- The six-bit value of a letter. -/
def base64Value (c : Char) : Option Nat := base64Alphabet.idxOf? c

/-- The letters of up to three bytes, padded to four. -/
def base64Group : List UInt8 → List Char
  | [a, b, c] =>
    let n := a.toNat * 65536 + b.toNat * 256 + c.toNat
    [n / 262144, n / 4096 % 64, n / 64 % 64, n % 64].map base64Letter
  | [a, b] =>
    let n := a.toNat * 65536 + b.toNat * 256
    ([n / 262144, n / 4096 % 64, n / 64 % 64].map base64Letter) ++ ['=']
  | [a] =>
    let n := a.toNat * 65536
    ([n / 262144, n / 4096 % 64].map base64Letter) ++ ['=', '=']
  | _ => []

/-- Splits a list into groups of three. -/
def groupsOfThree {α : Type} : List α → List (List α)
  | a :: b :: c :: rest => [a, b, c] :: groupsOfThree rest
  | [] => []
  | rest => [rest]

/-- The Base64 text of bytes. -/
def base64Encode (bytes : ByteArray) : String :=
  String.ofList ((groupsOfThree bytes.toList).flatMap base64Group)

/-- The bytes of the groups of four letters, the last one possibly padded. -/
def base64Groups : List Char → Option (List UInt8)
  | [] => some []
  | [a, b, '=', '='] => do
    let x ← base64Value a; let y ← base64Value b
    if y % 16 != 0 then none else some [(x * 4 + y / 16).toUInt8]
  | [a, b, c, '='] => do
    let x ← base64Value a; let y ← base64Value b; let z ← base64Value c
    if z % 4 != 0 then none
    else some [(x * 4 + y / 16).toUInt8, ((y % 16) * 16 + z / 4).toUInt8]
  | a :: b :: c :: d :: rest => do
    let x ← base64Value a; let y ← base64Value b; let z ← base64Value c
    let w ← base64Value d
    let tail ← base64Groups rest
    some ([(x * 4 + y / 16).toUInt8, ((y % 16) * 16 + z / 4).toUInt8,
      ((z % 4) * 64 + w).toUInt8] ++ tail)
  | _ => none

/-- The bytes of a canonical Base64 text. -/
def base64Decode (s : String) : Option ByteArray :=
  (base64Groups s.toList).map fun bs => ⟨bs.toArray⟩

end Courier.Text
