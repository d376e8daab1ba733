import Courier.Text.Quote

/-!
# Hexadecimal text

Bytes written as two lowercase hexadecimal digits each, and read back from digits of either
case. Reading refuses a text of odd length before it looks at any digit, and otherwise names
the first byte that is not a digit, with its position.
-/

namespace Courier.Text

/-- Why hexadecimal text cannot be read. -/
inductive HexError where
  | oddLength
  | invalidCharacter (c : Char) (index : Nat)
  deriving DecidableEq, Repr, Inhabited

/-- The wording of a refusal. -/
def HexError.message : HexError → String
  | .oddLength => "Odd number of digits"
  | .invalidCharacter c i => "Invalid character " ++ quoteChar c ++ " at position " ++ toString i

/-- The lowercase digit of a value below sixteen. -/
def hexDigit (n : Nat) : Char := Nat.digitChar n

/-- Two lowercase hexadecimal digits per byte. -/
def hexEncode (bytes : ByteArray) : String :=
  String.ofList (bytes.toList.flatMap fun b => [hexDigit (b.toNat / 16), hexDigit (b.toNat % 16)])

/-- The value of a hexadecimal digit of either case. -/
def hexDigitValue (b : UInt8) : Option Nat :=
  if 48 ≤ b && b ≤ 57 then some (b - 48).toNat
  else if 97 ≤ b && b ≤ 102 then some (b - 87).toNat
  else if 65 ≤ b && b ≤ 70 then some (b - 55).toNat
  else none

/-- Reads pairs of digits from the byte at `index` on. -/
def hexPairs : List UInt8 → Nat → Except HexError (List UInt8)
  | a :: b :: rest, index =>
    match hexDigitValue a, hexDigitValue b with
    | some x, some y => (hexPairs rest (index + 2)).map fun r => (x * 16 + y).toUInt8 :: r
    | none, _ => .error (.invalidCharacter (Char.ofNat a.toNat) index)
    | _, none => .error (.invalidCharacter (Char.ofNat b.toNat) (index + 1))
  | _, _ => .ok []

/-- The bytes of a hexadecimal text. -/
def hexDecode (s : String) : Except HexError ByteArray :=
  let bytes := s.toUTF8.toList
  if bytes.length % 2 != 0 then .error .oddLength
  else (hexPairs bytes 0).map fun r => ⟨r.toArray⟩

end Courier.Text
