import Courier.Shape

/-!
# Reading JSON text

The reader walks the bytes of a JSON text with an index, and reads a payload of a given
`Shape`. Every refusal is a `Failure` with its cause and the byte offset that gives its line
and column: a syntax error is placed when it is found (either at the reader's index, or one
past it for the byte it peeked at); a shape mismatch is placed by the innermost read that
returns it, at the index the reader stands on then. Columns count bytes from the last newline.

Numbers are read digit by digit into a 64-bit integer; past that, or with a fraction or an
exponent, the digits kept so far are scaled by a power of ten in binary64 arithmetic, one
rounding per step. That is the reader's rule, and it is not the correctly rounded reading:
`5.960464477539063e-8` comes out one unit above `2 ^ -24`.

Containers nest at most 127 deep; the 128th opening bracket is refused.
-/

namespace Courier.Json

/-- The syntax errors of JSON text. -/
inductive Fault where
  | eofWhileParsingList
  | eofWhileParsingObject
  | eofWhileParsingString
  | eofWhileParsingValue
  | expectedColon
  | expectedListCommaOrEnd
  | expectedObjectCommaOrEnd
  | expectedSomeIdent
  | expectedSomeValue
  | invalidEscape
  | invalidNumber
  | numberOutOfRange
  | invalidUnicodeCodePoint
  | controlCharacterWhileParsingString
  | keyMustBeAString
  | loneLeadingSurrogateInHexEscape
  | trailingComma
  | trailingCharacters
  | unexpectedEndOfHexEscape
  | recursionLimitExceeded
  deriving DecidableEq, Repr, Inhabited

namespace Fault

/-- The wording of a syntax error. -/
def message : Fault → String
  | .eofWhileParsingList => "EOF while parsing a list"
  | .eofWhileParsingObject => "EOF while parsing an object"
  | .eofWhileParsingString => "EOF while parsing a string"
  | .eofWhileParsingValue => "EOF while parsing a value"
  | .expectedColon => "expected `:`"
  | .expectedListCommaOrEnd => "expected `,` or `]`"
  | .expectedObjectCommaOrEnd => "expected `,` or `\x7d`"
  | .expectedSomeIdent => "expected ident"
  | .expectedSomeValue => "expected value"
  | .invalidEscape => "invalid escape"
  | .invalidNumber => "invalid number"
  | .numberOutOfRange => "number out of range"
  | .invalidUnicodeCodePoint => "invalid unicode code point"
  | .controlCharacterWhileParsingString =>
    "control character (\\u0000-\\u001F) found while parsing a string"
  | .keyMustBeAString => "key must be a string"
  | .loneLeadingSurrogateInHexEscape => "lone leading surrogate in hex escape"
  | .trailingComma => "trailing comma"
  | .trailingCharacters => "trailing characters"
  | .unexpectedEndOfHexEscape => "unexpected end of hex escape"
  | .recursionLimitExceeded => "recursion limit exceeded"

end Fault

/-- Why reading failed: the text's syntax, or a payload that does not fit its shape. -/
inductive Cause where
  | fault (e : Fault)
  | mismatch (m : Mismatch)
  deriving Repr, Inhabited

/-- A refusal of the reader: its cause, the byte offset that places it (once placed), and
the index the reader stood on when it gave up. -/
structure Failure where
  cause : Cause
  offset : Option Nat
  stood : Nat
  deriving Repr, Inhabited

/-- Line and column of a byte offset: lines count from one, columns count the bytes since
the last newline before the offset. -/
def position (s : ByteArray) (offset : Nat) : Nat × Nat :=
  let before := (s.toList.take offset)
  let lineStart := before.length - (before.reverse.takeWhile (· != 10)).length
  (1 + (before.take lineStart).count 10, offset - lineStart)

/-- The wording of a failure over the text it was found in. -/
def Failure.message (s : ByteArray) (f : Failure) : String :=
  let text := match f.cause with
    | .fault e => e.message
    | .mismatch m => m.message .json
  match f.offset with
  | some o =>
    let (line, col) := position s o
    text ++ " at line " ++ toString line ++ " column " ++ toString col
  | none => text

/-- A read that yields a value and the index after it, or a failure. -/
abbrev Step (α : Type) := Except Failure (α × Nat)

/-- A syntax error placed at index `i`. -/
def errAt {α : Type} (e : Fault) (i : Nat) : Step α := .error ⟨.fault e, some i, i⟩

/-- A syntax error about the byte peeked at index `i`: placed one past it, within the text. -/
def errPeek {α : Type} (s : ByteArray) (e : Fault) (i : Nat) : Step α :=
  .error ⟨.fault e, some (min (i + 1) s.size), i⟩

/-- A shape mismatch met with the reader at index `i`, not yet placed. -/
def errShape {α : Type} (m : Mismatch) (i : Nat) : Step α := .error ⟨.mismatch m, none, i⟩

/-- A failure placed at index `i` if it has no place yet. -/
def Failure.place (f : Failure) (i : Nat) : Failure :=
  match f.offset with
  | some _ => f
  | none => { f with offset := some i }

/-- Places the failure of a step at the index its reader stood on. -/
def placeHere {α : Type} : Step α → Step α
  | .ok r => .ok r
  | .error f => .error (f.place f.stood)

/-- Whether a byte is an ASCII digit. -/
def isDigit (b : UInt8) : Bool := 48 ≤ b && b ≤ 57

/-- The index of the first byte from `i` on that is not a blank (space, newline, tab,
return). -/
def skipBlank (s : ByteArray) (i : Nat) : Nat :=
  if h : i < s.size then
    let b := s[i]
    if b == 32 || b == 10 || b == 9 || b == 13 then skipBlank s (i + 1) else i
  else i
termination_by s.size - i

/-- Reads the rest of a keyword, one expected byte at a time. -/
def readIdent (s : ByteArray) (i : Nat) : List UInt8 → Step Unit
  | [] => .ok ((), i)
  | c :: rest =>
    match s[i]? with
    | none => errAt .eofWhileParsingValue i
    | some b => if b == c then readIdent s (i + 1) rest else errAt .expectedSomeIdent (i + 1)

/-! ## Numbers -/

/-- Whether the 64-bit reading overflows when the digit `d` is appended to `n`. -/
def overflows64 (n d : Nat) : Bool := n * 10 + d ≥ Nat.pow 2 64

/-- Clamps an exponent to the signed 32-bit range. -/
def clamp32 (e : Int) : Int := max (-Int.pow 2 31) (min e (Int.pow 2 31 - 1))

/-- The binary64 value of `significand * 10 ^ exponent`, scaled in binary64 arithmetic by
`10 ^ |exponent|` (by `10 ^ 308` at a time below that); refused past the largest value. -/
def scaleByTen (positive : Bool) (sig : Nat) (exponent : Int) (i : Nat) : Step Number :=
  let rec go : Nat → Binary64 → Int → Step Number
    | 0, f, _ => .ok (.float (if positive then f else f.negate), i)
    | fuel + 1, f, e =>
      let k := e.natAbs
      if k ≤ 308 then
        if 0 ≤ e then
          let g := f.mul (Binary64.pow10 k)
          if !g.isFinite then errAt .numberOutOfRange i
          else .ok (.float (if positive then g else g.negate), i)
        else
          let g := f.div (Binary64.pow10 k)
          .ok (.float (if positive then g else g.negate), i)
      else if f.isZero then .ok (.float (if positive then f else f.negate), i)
      else if 0 ≤ e then errAt .numberOutOfRange i
      else go fuel (f.div (Binary64.pow10 308)) (e + 308)
  go 8 (Binary64.ofNat sig) exponent

/-- Skips the digits from `i` on. -/
def skipDigits (s : ByteArray) (i : Nat) : Nat :=
  if h : i < s.size then
    if isDigit s[i] then skipDigits s (i + 1) else i
  else i
termination_by s.size - i

/-- An exponent too large for 32 bits: zero for a zero significand or a negative exponent,
refused otherwise. -/
def exponentOverflow (s : ByteArray) (positive zeroSig positiveExp : Bool) (i : Nat) :
    Step Number :=
  if !zeroSig && positiveExp then errAt .numberOutOfRange i
  else .ok (.float (Binary64.zero !positive), skipDigits s i)

/-- Reads the digits of an exponent, the first already read into `exp`. -/
def exponentDigits (s : ByteArray) (positive : Bool) (sig : Nat) (start : Int)
    (positiveExp : Bool) (exp : Nat) (i : Nat) : Step Number :=
  if h : i < s.size then
    let b := s[i]
    if isDigit b then
      let e := exp * 10 + (b - 48).toNat
      if e ≥ Nat.pow 2 31 then exponentOverflow s positive (sig == 0) positiveExp (i + 1)
      else exponentDigits s positive sig start positiveExp e (i + 1)
    else
      let final := if positiveExp then clamp32 (start + exp) else clamp32 (start - exp)
      scaleByTen positive sig final i
  else
    let final := if positiveExp then clamp32 (start + exp) else clamp32 (start - exp)
    scaleByTen positive sig final i
termination_by s.size - i

/-- Reads an exponent; `i` stands on the `e`. -/
def readExponent (s : ByteArray) (positive : Bool) (sig : Nat) (start : Int) (i : Nat) :
    Step Number :=
  let i := i + 1
  let (positiveExp, i) :=
    match s[i]? with
    | some 43 => (true, i + 1)
    | some 45 => (false, i + 1)
    | _ => (true, i)
  match s[i]? with
  | none => errAt .eofWhileParsingValue i
  | some b =>
    if isDigit b then exponentDigits s positive sig start positiveExp (b - 48).toNat (i + 1)
    else errAt .invalidNumber (i + 1)

/-- The digits past the 64-bit reading of a fraction are skipped. -/
def fractionOverflow (s : ByteArray) (positive : Bool) (sig : Nat) (exponent : Int)
    (i : Nat) : Step Number :=
  let i := skipDigits s i
  match s[i]? with
  | some 101 | some 69 => readExponent s positive sig exponent i
  | _ => scaleByTen positive sig exponent i

/-- Reads the digits of a fraction. -/
def fractionDigits (s : ByteArray) (positive : Bool) (sig : Nat) (before : Int) (after : Nat)
    (i : Nat) : Step Number :=
  if h : i < s.size then
    let b := s[i]
    if isDigit b then
      let d := (b - 48).toNat
      if overflows64 sig d then fractionOverflow s positive sig (before - after) i
      else fractionDigits s positive (sig * 10 + d) before (after + 1) (i + 1)
    else if after == 0 then errPeek s .invalidNumber i
    else if b == 101 || b == 69 then readExponent s positive sig (before - after) i
    else scaleByTen positive sig (before - after) i
  else if after == 0 then errPeek s .eofWhileParsingValue i
  else scaleByTen positive sig (before - after) i
termination_by s.size - i

/-- Reads a fraction; `i` stands on the point. -/
def readFraction (s : ByteArray) (positive : Bool) (sig : Nat) (before : Int) (i : Nat) :
    Step Number :=
  fractionDigits s positive sig before 0 (i + 1)

/-- What follows the integer digits: a fraction, an exponent, or the end of the number. -/
def readNumberTail (s : ByteArray) (positive : Bool) (sig : Nat) (i : Nat) : Step Number :=
  match s[i]? with
  | some 46 => readFraction s positive sig 0 i
  | some 101 | some 69 => readExponent s positive sig 0 i
  | _ =>
    if positive then .ok (.nat sig.toUInt64, i)
    else if sig == 0 || sig > Nat.pow 2 63 then .ok (.float (Binary64.ofNat sig).negate, i)
    else .ok (.neg (Int64.ofInt (-(sig : Int))), i)

/-- Integer digits past the 64-bit reading only raise the exponent. -/
def longInteger (s : ByteArray) (positive : Bool) (sig : Nat) (exponent : Nat) (i : Nat) :
    Step Number :=
  if h : i < s.size then
    let b := s[i]
    if isDigit b then longInteger s positive sig (exponent + 1) (i + 1)
    else if b == 46 then readFraction s positive sig exponent i
    else if b == 101 || b == 69 then readExponent s positive sig exponent i
    else scaleByTen positive sig exponent i
  else scaleByTen positive sig exponent i
termination_by s.size - i

/-- Reads integer digits after the first. -/
def integerDigits (s : ByteArray) (positive : Bool) (sig : Nat) (i : Nat) : Step Number :=
  if h : i < s.size then
    let b := s[i]
    if isDigit b then
      let d := (b - 48).toNat
      if overflows64 sig d then longInteger s positive sig 0 i
      else integerDigits s positive (sig * 10 + d) (i + 1)
    else readNumberTail s positive sig i
  else readNumberTail s positive sig i
termination_by s.size - i

/-- Reads a number after its sign: one leading zero, or digits from one to nine. -/
def readInteger (s : ByteArray) (positive : Bool) (i : Nat) : Step Number :=
  match s[i]? with
  | none => errAt .eofWhileParsingValue i
  | some b =>
    if b == 48 then
      match s[i + 1]? with
      | some c =>
        if isDigit c then errPeek s .invalidNumber (i + 1)
        else readNumberTail s positive 0 (i + 1)
      | none => readNumberTail s positive 0 (i + 1)
    else if isDigit b then integerDigits s positive (b - 48).toNat (i + 1)
    else errAt .invalidNumber (i + 1)

/-! ## Strings -/

/-- The UTF-8 bytes of a code point. -/
def utf8Bytes (n : Nat) : List UInt8 :=
  if n < 0x80 then [n.toUInt8]
  else if n < 0x800 then [(0xC0 + n / 64).toUInt8, (0x80 + n % 64).toUInt8]
  else if n < 0x10000 then
    [(0xE0 + n / 4096).toUInt8, (0x80 + n / 64 % 64).toUInt8, (0x80 + n % 64).toUInt8]
  else
    [(0xF0 + n / 262144).toUInt8, (0x80 + n / 4096 % 64).toUInt8,
      (0x80 + n / 64 % 64).toUInt8, (0x80 + n % 64).toUInt8]

/-- The value of a hexadecimal digit. -/
def hexValue (b : UInt8) : Option Nat :=
  if 48 ≤ b && b ≤ 57 then some (b - 48).toNat
  else if 97 ≤ b && b ≤ 102 then some (b - 87).toNat
  else if 65 ≤ b && b ≤ 70 then some (b - 55).toNat
  else none

/-- Reads four hexadecimal digits. -/
def readHex4 (s : ByteArray) (i : Nat) : Step Nat :=
  if i + 4 ≤ s.size then
    match s[i]?.bind hexValue, s[i + 1]?.bind hexValue, s[i + 2]?.bind hexValue,
        s[i + 3]?.bind hexValue with
    | some a, some b, some c, some d => .ok (((a * 16 + b) * 16 + c) * 16 + d, i + 4)
    | _, _, _, _ => errAt .invalidEscape (i + 4)
  else errAt .eofWhileParsingString s.size

/-- Reads a `\u` escape (the `u` already read): a code point outside the surrogates, or a
leading surrogate followed by an escaped trailing one. -/
def readUnicodeEscape (s : ByteArray) (i : Nat) : Step (List UInt8) :=
  match readHex4 s i with
  | .error f => .error f
  | .ok (n, i) =>
    if 0xDC00 ≤ n && n ≤ 0xDFFF then errAt .loneLeadingSurrogateInHexEscape i
    else if n < 0xD800 || 0xDBFF < n then .ok (utf8Bytes n, i)
    else
      match s[i]? with
      | none => errAt .eofWhileParsingString i
      | some b =>
        if b != 92 then errAt .unexpectedEndOfHexEscape (i + 1)
        else match s[i + 1]? with
          | none => errAt .eofWhileParsingString (i + 1)
          | some c =>
            if c != 117 then errAt .unexpectedEndOfHexEscape (i + 2)
            else match readHex4 s (i + 2) with
              | .error f => .error f
              | .ok (n2, j) =>
                if n2 < 0xDC00 || 0xDFFF < n2 then errAt .loneLeadingSurrogateInHexEscape j
                else .ok (utf8Bytes ((n - 0xD800) * 1024 + (n2 - 0xDC00) + 0x10000), j)

/-- Reads an escape (the backslash already read). -/
def readEscape (s : ByteArray) (i : Nat) : Step (List UInt8) :=
  match s[i]? with
  | none => errAt .eofWhileParsingString i
  | some c =>
    match c with
    | 34 => .ok ([34], i + 1)
    | 92 => .ok ([92], i + 1)
    | 47 => .ok ([47], i + 1)
    | 98 => .ok ([8], i + 1)
    | 102 => .ok ([12], i + 1)
    | 110 => .ok ([10], i + 1)
    | 114 => .ok ([13], i + 1)
    | 116 => .ok ([9], i + 1)
    | 117 => readUnicodeEscape s (i + 1)
    | _ => errAt .invalidEscape (i + 1)

/-- Reads the rest of a string (the opening quote already read), collecting its bytes. -/
def readStringFrom (s : ByteArray) (acc : Array UInt8) (i : Nat) : Step String :=
  if h : i < s.size then
    let b := s[i]
    if b == 34 then
      match String.fromUTF8? (ByteArray.mk acc) with
      | some str => .ok (str, i + 1)
      | none => errAt .invalidUnicodeCodePoint (i + 1)
    else if b == 92 then
      match readEscape s (i + 1) with
      | .error f => .error f
      | .ok (bytes, j) =>
        if i < j then readStringFrom s (acc ++ bytes.toArray) j
        else errAt .eofWhileParsingString j
    else if b < 32 then errAt .controlCharacterWhileParsingString (i + 1)
    else readStringFrom s (acc.push b) (i + 1)
  else errAt .eofWhileParsingString s.size
termination_by s.size - i

/-- Reads a string; `i` stands after the opening quote. -/
def readString (s : ByteArray) (i : Nat) : Step String := readStringFrom s #[] i

/-! ## Skipping a value -/

/-- Skips an escape without decoding it. -/
def skipEscape (s : ByteArray) (i : Nat) : Step Unit :=
  match s[i]? with
  | none => errAt .eofWhileParsingString i
  | some c =>
    if c == 34 || c == 92 || c == 47 || c == 98 || c == 102 || c == 110 || c == 114 || c == 116 then
      .ok ((), i + 1)
    else if c == 117 then
      match readHex4 s (i + 1) with
      | .error f => .error f
      | .ok (_, j) => .ok ((), j)
    else errAt .invalidEscape (i + 1)

/-- Skips the rest of a string without decoding it; a control character is placed on
itself. -/
def skipString (s : ByteArray) (i : Nat) : Step Unit :=
  if h : i < s.size then
    let b := s[i]
    if b == 34 then .ok ((), i + 1)
    else if b == 92 then
      match skipEscape s (i + 1) with
      | .error f => .error f
      | .ok (_, j) => if i < j then skipString s j else errAt .eofWhileParsingString j
    else if b < 32 then errAt .controlCharacterWhileParsingString i
    else skipString s (i + 1)
  else errAt .eofWhileParsingString s.size
termination_by s.size - i

/-- Skips an exponent; `i` stands on the `e`. -/
def skipExponent (s : ByteArray) (i : Nat) : Step Unit :=
  let i := i + 1
  let i := match s[i]? with
    | some 43 | some 45 => i + 1
    | _ => i
  match s[i]? with
  | some b => if isDigit b then .ok ((), skipDigits s (i + 1)) else errAt .invalidNumber (i + 1)
  | none => errAt .invalidNumber i

/-- Skips a number after its sign, checking only its form. -/
def skipNumber (s : ByteArray) (i : Nat) : Step Unit :=
  let first : Step Unit :=
    match s[i]? with
    | some 48 =>
      match s[i + 1]? with
      | some c => if isDigit c then errPeek s .invalidNumber (i + 1) else .ok ((), i + 1)
      | none => .ok ((), i + 1)
    | some b => if isDigit b then .ok ((), skipDigits s (i + 1)) else errAt .invalidNumber (i + 1)
    | none => errAt .invalidNumber i
  match first with
  | .error f => .error f
  | .ok (_, j) =>
    match s[j]? with
    | some 46 =>
      let k := skipDigits s (j + 1)
      if k == j + 1 then errPeek s .invalidNumber k
      else match s[k]? with
        | some 101 | some 69 => skipExponent s k
        | _ => .ok ((), k)
    | some 101 | some 69 => skipExponent s j
    | _ => .ok ((), j)

/-- Skips a scalar (keyword, number or string) at `i`, or reports the container it opens. -/
def skipScalar (s : ByteArray) (i : Nat) : Step (Option UInt8) :=
  match s[i]? with
  | none => errPeek s .eofWhileParsingValue i
  | some 110 => (readIdent s (i + 1) [117, 108, 108]).map fun (_, j) => (none, j)
  | some 116 => (readIdent s (i + 1) [114, 117, 101]).map fun (_, j) => (none, j)
  | some 102 => (readIdent s (i + 1) [97, 108, 115, 101]).map fun (_, j) => (none, j)
  | some 45 => (skipNumber s (i + 1)).map fun (_, j) => (none, j)
  | some 34 => (skipString s (i + 1)).map fun (_, j) => (none, j)
  | some 91 => .ok (some 91, i + 1)
  | some 123 => .ok (some 123, i + 1)
  | some b =>
    if isDigit b then (skipNumber s i).map fun (_, j) => (none, j)
    else errPeek s .expectedSomeValue i

/-- After an item inside the container `cur` (with the enclosing ones in `outer`): closes
every container that ends here. Gives the container to continue in, or `none` when the
outermost one has closed. -/
def closeFrames (s : ByteArray) (fuel : Nat) (cur : UInt8) (outer : List UInt8) (accept : Bool)
    (i : Nat) : Step (Option (UInt8 × List UInt8)) :=
  match fuel with
  | 0 => errAt .eofWhileParsingValue i
  | fuel + 1 =>
    let j := skipBlank s i
    match s[j]? with
    | none => errPeek s (if cur == 91 then .eofWhileParsingList else .eofWhileParsingObject) j
    | some b =>
      if b == 44 && accept then .ok (some (cur, outer), j + 1)
      else if (b == 93 && cur == 91) || (b == 125 && cur == 123) then
        match outer with
        | [] => .ok (none, j + 1)
        | next :: rest => closeFrames s fuel next rest true (j + 1)
      else if accept then
        errPeek s (if cur == 91 then .expectedListCommaOrEnd else .expectedObjectCommaOrEnd) j
      else .ok (some (cur, outer), j)

/-- Inside an object, reads the next key and its colon. -/
def skipKey (s : ByteArray) (i : Nat) : Step Unit :=
  let j := skipBlank s i
  match s[j]? with
  | none => errPeek s .eofWhileParsingObject j
  | some b =>
    if b != 34 then errPeek s .keyMustBeAString j
    else match skipString s (j + 1) with
      | .error f => .error f
      | .ok (_, k) =>
        let k := skipBlank s k
        match s[k]? with
        | none => errPeek s .eofWhileParsingObject k
        | some 58 => .ok ((), k + 1)
        | some _ => errPeek s .expectedColon k

/-- One item of a skipped value, inside the container `cur` if any. -/
def skipItems (s : ByteArray) (fuel : Nat) (cur : Option UInt8) (outer : List UInt8) (i : Nat) :
    Step Unit :=
  match fuel with
  | 0 => errAt .eofWhileParsingValue i
  | fuel + 1 =>
    match skipScalar s (skipBlank s i) with
    | .error f => .error f
    | .ok (opened, k) =>
      let next : Option (UInt8 × List UInt8 × Bool) :=
        match opened, cur with
        | some c, some d => some (c, d :: outer, false)
        | some c, none => some (c, outer, false)
        | none, some d => some (d, outer, true)
        | none, none => none
      match next with
      | none => .ok ((), k)
      | some (c, out, accept) =>
        match closeFrames s (s.size + 1) c out accept k with
        | .error f => .error f
        | .ok (none, k') => .ok ((), k')
        | .ok (some (c', out'), k') =>
          if c' == 123 then
            match skipKey s k' with
            | .error f => .error f
            | .ok (_, k'') => skipItems s fuel (some c') out' k''
          else skipItems s fuel (some c') out' k'

/-- Skips one value of any form, checking its syntax but neither the range of its numbers
nor its depth. -/
def skipValue (s : ByteArray) (i : Nat) : Step Unit :=
  skipItems s (s.size + 1) none [] i

end Courier.Json
