import Courier.Json.Value

/-!
# Encoding values as CBOR

A value is written as one CBOR data item: integers in the shortest head that holds them
(a negative `n` as major type 1 with argument `-1 - n`), binary64 numbers in the narrowest of
16, 32 and 64 bits that gives back the same bits, strings as definite text, arrays and objects
with definite lengths and their members in the order they are held.
-/

namespace Courier.Cbor

open Json

/-- The big-endian bytes of `n` in `width` bytes. -/
def bigEndian (width n : Nat) : List UInt8 :=
  (List.range width).reverse.map fun k => (n / Nat.pow 256 k % 256).toUInt8

/-- The head of major type `major` with argument `n`, in the fewest bytes. -/
def head (major n : Nat) : List UInt8 :=
  let m := major * 32
  if n < 24 then [(m + n).toUInt8]
  else if n < Nat.pow 2 8 then (m + 24).toUInt8 :: bigEndian 1 n
  else if n < Nat.pow 2 16 then (m + 25).toUInt8 :: bigEndian 2 n
  else if n < Nat.pow 2 32 then (m + 26).toUInt8 :: bigEndian 4 n
  else (m + 27).toUInt8 :: bigEndian 8 n

/-- The item of a binary64 number in its narrowest exact width. -/
def floatItem (x : Binary64) : List UInt8 :=
  match x.narrowest with
  | .half h => 0xF9 :: bigEndian 2 h
  | .single w => 0xFA :: bigEndian 4 w
  | .double d => 0xFB :: bigEndian 8 d

/-- The item of a number. -/
def numberItem : Number → List UInt8
  | .nat n => head 0 n.toNat
  | .neg n => head 1 (-1 - n.toInt).toNat
  | .float x => floatItem x

/-- The item of a string. -/
def textItem (s : String) : List UInt8 := head 3 s.utf8ByteSize ++ s.toUTF8.toList

mutual

/-- The CBOR item of a value. -/
def item : Value → List UInt8
  | .null => [0xF6]
  | .bool false => [0xF4]
  | .bool true => [0xF5]
  | .number n => numberItem n
  | .string s => textItem s
  | .array xs => head 4 xs.length ++ itemsCbor xs
  | .object ms => head 5 ms.length ++ membersCbor ms

/-- The items of an array, one after another. -/
def itemsCbor : List Value → List UInt8
  | [] => []
  | x :: rest => item x ++ itemsCbor rest

/-- The keys and values of an object, one after another. -/
def membersCbor : List (String × Value) → List UInt8
  | [] => []
  | (k, v) :: rest => textItem k ++ item v ++ membersCbor rest

end

/-- The CBOR bytes of a value. -/
def encode (v : Value) : ByteArray := ⟨(item v).toArray⟩

end Courier.Cbor
