/-!
# Binary64 numbers

An IEEE 754 binary64 value kept as its sixty-four encoding bits. Every finite value reads
exactly as `significand * 2 ^ exponent`; `ofRatio` takes an exact positive ratio to the
nearest value, a tie going to the even significand, and to infinity past the largest finite
value. Reading an integer, multiplying and dividing are each one exact product or quotient
followed by that rounding, which is what the standard asks of them.

The narrower formats (binary16, binary32) appear only as encodings: a value is written in the
narrowest of them that holds it exactly.
-/

namespace Courier

/-- An IEEE 754 binary64 value, as its encoding bits. -/
structure Binary64 where
  bits : UInt64
  deriving DecidableEq, Repr, Inhabited

namespace Binary64

/-- Whether the sign bit is set. -/
def isNeg (x : Binary64) : Bool := (x.bits >>> 63) == 1

/-- The eleven exponent bits. -/
def biased (x : Binary64) : Nat := ((x.bits >>> 52) &&& 0x7FF).toNat

/-- The fifty-two fraction bits. -/
def fraction (x : Binary64) : Nat := (x.bits &&& 0xFFFFFFFFFFFFF).toNat

/-- Neither an infinity nor a NaN. -/
def isFinite (x : Binary64) : Bool := x.biased != 2047

/-- Not a number. -/
def isNaN (x : Binary64) : Bool := x.biased == 2047 && x.fraction != 0

/-- Plus or minus zero. -/
def isZero (x : Binary64) : Bool := x.biased == 0 && x.fraction == 0

/-- The integer significand of a finite value. -/
def significand (x : Binary64) : Nat :=
  if x.biased == 0 then x.fraction else x.fraction + Nat.pow 2 52

/-- The binary exponent of a finite value: its magnitude is `significand * 2 ^ exponent`. -/
def exponent (x : Binary64) : Int :=
  if x.biased == 0 then -1074 else (x.biased : Int) - 1075

/-- The value with the given sign, exponent bits and fraction bits. -/
def make (neg : Bool) (biased fraction : Nat) : Binary64 :=
  ⟨((if neg then (1 : UInt64) else 0) <<< 63) ||| (biased.toUInt64 <<< 52) |||
    fraction.toUInt64⟩

/-- Zero with the given sign. -/
def zero (neg : Bool) : Binary64 := make neg 0 0

/-- Infinity with the given sign. -/
def infinity (neg : Bool) : Binary64 := make neg 2047 0

/-- The quiet NaN that arithmetic produces. -/
def nan : Binary64 := make false 2047 (Nat.pow 2 51)

/-- The same magnitude with the other sign. -/
def negate (x : Binary64) : Binary64 := ⟨x.bits ^^^ ((1 : UInt64) <<< 63)⟩

/-- The quotient `num / den` rounded to the nearest integer, a tie going to the even one. -/
def roundDiv (num den : Nat) : Nat :=
  let q := num / den
  let r := num % den
  if 2 * r < den then q
  else if den < 2 * r then q + 1
  else if q % 2 == 0 then q else q + 1

/-- Whether `2 ^ k * den ≤ num`. -/
def pow2MulLe (k : Int) (num den : Nat) : Bool :=
  if 0 ≤ k then den <<< k.toNat ≤ num else den ≤ num <<< (-k).toNat

/-- `⌊log₂ (num / den)⌋` for positive `num` and `den`. -/
def floorLog2 (num den : Nat) : Int :=
  let k : Int := (Nat.log2 num : Int) - Nat.log2 den
  if pow2MulLe k num den then k else k - 1

/-- The binary64 value nearest to `num / den` (with the given sign), ties to even. -/
def ofRatio (neg : Bool) (num den : Nat) : Binary64 :=
  if num == 0 || den == 0 then zero neg else
  let e := max (floorLog2 num den - 52) (-1074)
  let m := if 0 ≤ e then roundDiv num (den <<< e.toNat) else roundDiv (num <<< (-e).toNat) den
  let (m, e) := if m == Nat.pow 2 53 then (Nat.pow 2 52, e + 1) else (m, e)
  if m < Nat.pow 2 52 then make neg 0 m
  else
    let b := e + 1075
    if 2047 ≤ b then infinity neg else make neg b.toNat (m - Nat.pow 2 52)

/-- The value nearest to a natural number. -/
def ofNat (n : Nat) : Binary64 := ofRatio false n 1

/-- The value nearest to an integer. -/
def ofInt (n : Int) : Binary64 := ofRatio (n < 0) n.natAbs 1

/-- `10 ^ k` rounded to the nearest value. -/
def pow10 (k : Nat) : Binary64 := ofRatio false (Nat.pow 10 k) 1

/-- A finite value as an exact ratio `num / den` of its magnitude. -/
def ratio (x : Binary64) : Nat × Nat :=
  let e := x.exponent
  if 0 ≤ e then (x.significand <<< e.toNat, 1) else (x.significand, 1 <<< (-e).toNat)

/-- The rounded product. -/
def mul (x y : Binary64) : Binary64 :=
  let neg := x.isNeg != y.isNeg
  if x.isNaN || y.isNaN then nan
  else if !x.isFinite || !y.isFinite then
    (if x.isZero || y.isZero then nan else infinity neg)
  else
    let (a, b) := x.ratio
    let (c, d) := y.ratio
    ofRatio neg (a * c) (b * d)

/-- The rounded quotient. -/
def div (x y : Binary64) : Binary64 :=
  let neg := x.isNeg != y.isNeg
  if x.isNaN || y.isNaN then nan
  else if !x.isFinite then (if y.isFinite then infinity neg else nan)
  else if !y.isFinite then zero neg
  else if y.isZero then (if x.isZero then nan else infinity neg)
  else
    let (a, b) := x.ratio
    let (c, d) := y.ratio
    ofRatio neg (a * d) (b * c)

/-- Equality as numbers: zeros of both signs are equal and a NaN equals nothing. -/
def numEq (x y : Binary64) : Bool :=
  if x.isNaN || y.isNaN then false
  else if x.isZero && y.isZero then true
  else x.bits == y.bits

/-! ## Narrower encodings -/

/-- The binary16 encoding of a value, rounded as the half-precision conversion does: it keeps
the top thirty-two bits and rounds on those. -/
def toBinary16Bits (x : Binary64) : Nat :=
  let v : Nat := x.bits.toNat
  let hi : Nat := v / Nat.pow 2 32
  let sign : Nat := hi / Nat.pow 2 31 % 2
  let exp : Nat := hi / Nat.pow 2 20 % Nat.pow 2 11
  let man : Nat := hi % Nat.pow 2 20
  let halfSign := sign * Nat.pow 2 15
  if exp == 2047 then
    let nanBit := if man == 0 && v % Nat.pow 2 32 == 0 then 0 else 0x200
    halfSign ||| 0x7C00 ||| nanBit ||| (man / Nat.pow 2 10)
  else
    let halfExp : Int := (exp : Int) - 1023 + 15
    if 31 ≤ halfExp then halfSign + 0x7C00
    else if halfExp ≤ 0 then
      if 21 < 10 - halfExp then halfSign
      else
        let m := man + Nat.pow 2 20
        let shift := (11 - halfExp).toNat
        let halfMan := m / Nat.pow 2 shift
        let roundBit := Nat.pow 2 (10 - halfExp).toNat
        let up := m / roundBit % 2 == 1 &&
          (m % roundBit != 0 || m / (2 * roundBit) % 2 == 1)
        halfSign + (if up then halfMan + 1 else halfMan)
    else
      let base := halfSign + halfExp.toNat * Nat.pow 2 10 + man / Nat.pow 2 10
      let up := man / 0x200 % 2 == 1 && (man % 0x200 != 0 || man / 0x400 % 2 == 1)
      if up then base + 1 else base

/-- The value of a binary16 encoding. -/
def ofBinary16Bits (h : Nat) : Binary64 :=
  let neg := h / Nat.pow 2 15 % 2 == 1
  let exp := h / Nat.pow 2 10 % Nat.pow 2 5
  let man := h % Nat.pow 2 10
  if exp == 31 then
    if man == 0 then infinity neg else make neg 2047 ((Nat.pow 2 51) ||| (man <<< 42))
  else if exp == 0 then ofRatio neg man (Nat.pow 2 24)
  else if 25 ≤ exp then ofRatio neg ((man + Nat.pow 2 10) * Nat.pow 2 (exp - 25)) 1
  else ofRatio neg (man + Nat.pow 2 10) (Nat.pow 2 (25 - exp))

/-- The value of a binary32 encoding. -/
def ofBinary32Bits (w : Nat) : Binary64 :=
  let neg := w / Nat.pow 2 31 % 2 == 1
  let exp := w / Nat.pow 2 23 % Nat.pow 2 8
  let man := w % Nat.pow 2 23
  if exp == 255 then
    if man == 0 then infinity neg else make neg 2047 ((Nat.pow 2 51) ||| (man <<< 29))
  else if exp == 0 then ofRatio neg man (Nat.pow 2 149)
  else if 150 ≤ exp then ofRatio neg ((man + Nat.pow 2 23) * Nat.pow 2 (exp - 150)) 1
  else ofRatio neg (man + Nat.pow 2 23) (Nat.pow 2 (150 - exp))

/-- The binary32 value nearest to a value (a NaN stays a NaN, quieted, keeping its top
fraction bits). -/
def toBinary32Bits (x : Binary64) : Nat :=
  let sign := if x.isNeg then Nat.pow 2 31 else 0
  if x.isNaN then sign + 0x7FC00000 + (x.fraction / Nat.pow 2 29) % Nat.pow 2 22
  else if !x.isFinite then sign + 0x7F800000
  else if x.isZero then sign
  else
    let (num, den) := x.ratio
    let e := max (floorLog2 num den - 23) (-149)
    let m := if 0 ≤ e then roundDiv num (den <<< e.toNat) else roundDiv (num <<< (-e).toNat) den
    let (m, e) := if m == Nat.pow 2 24 then (Nat.pow 2 23, e + 1) else (m, e)
    if m < Nat.pow 2 23 then sign + m
    else
      let b := e + 150
      if 255 ≤ b then sign + 0x7F800000 else sign + b.toNat * Nat.pow 2 23 + (m - Nat.pow 2 23)

/-- How a value is written in the narrowest encoding that keeps it exactly. -/
inductive Width where
  | half (bits : Nat)
  | single (bits : Nat)
  | double (bits : Nat)
  deriving DecidableEq, Repr

/-- The narrowest of binary16, binary32 and binary64 whose reading gives back the same bits. -/
def narrowest (x : Binary64) : Width :=
  let h := x.toBinary16Bits
  if (ofBinary16Bits h).bits == x.bits then .half h
  else
    let s := x.toBinary32Bits
    if (ofBinary32Bits s).bits == x.bits then .single s else .double x.bits.toNat

end Binary64

end Courier
