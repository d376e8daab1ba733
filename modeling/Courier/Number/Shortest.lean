import Courier.Number.Binary64

/-!
# Shortest decimal text of a binary64 value

`Binary64.shortest` gives, for a finite nonzero value, the decimal `c * 10 ^ d` with the fewest
significant digits that reads back as the same value, and of those the nearest one (a tie goes
to the even `c`). A real reads back as the value exactly when it lies in the value's rounding
interval: halfway to each neighbour, the ends included when the significand is even.

For each digit count `n` the search looks at the two neighbours of the value on the grid
`10 ^ d` that gives `n` digits; if any point of that grid lies in the interval, so does one of
the two neighbours, so the first count with a hit is the shortest.

`FloatStyle` holds the decisions of a text form: where positional notation ends and how the
exponent is marked.
-/

namespace Courier

/-- The number of decimal digits of `n` (one for zero). -/
def decimalLength (n : Nat) : Nat := (Nat.toDigits 10 n).length

/-- `⌊log₁₀ (num / den)⌋` for positive `num` and `den`. -/
def floorLog10 (num den : Nat) : Int :=
  if den ≤ num then (decimalLength (num / den) : Int) - 1
  else -(decimalLength ((den + num - 1) / num - 1) : Int)

/-- `c * 10 ^ d` with the trailing zeros of `c` moved into the exponent. -/
def stripZeros (c : Nat) (d : Int) : Nat × Int :=
  if h : c ≠ 0 ∧ c % 10 = 0 then stripZeros (c / 10) (d + 1) else (c, d)
termination_by c
decreasing_by omega

namespace Binary64

/-- The rounding interval of a finite nonzero value, scaled to integers: the value is
`4 * num` over `4 * den`, and the interval runs from `low` to `high` over the same
denominator. -/
structure Interval where
  num : Nat
  den : Nat
  low : Nat
  high : Nat
  closed : Bool

/-- The rounding interval of a finite nonzero value. -/
def interval (x : Binary64) : Interval :=
  let e := x.exponent
  let p := Nat.pow 2 e.toNat
  let den := Nat.pow 2 (-e).toNat
  let m := x.significand
  let lowGap := if x.fraction == 0 && 1 < x.biased then p else 2 * p
  { num := m * p, den := den, low := 4 * m * p - lowGap, high := 4 * m * p + 2 * p,
    closed := m % 2 == 0 }

/-- How `c * 10 ^ d` compares with `y / (4 * den)`. -/
def Interval.compareAt (i : Interval) (c : Nat) (d : Int) (y : Nat) : Ordering :=
  if 0 ≤ d then compare (c * Nat.pow 10 d.toNat * (4 * i.den)) y
  else compare (c * (4 * i.den)) (y * Nat.pow 10 (-d).toNat)

/-- Whether `c * 10 ^ d` reads back as the value. -/
def Interval.holds (i : Interval) (c : Nat) (d : Int) : Bool :=
  let a := i.compareAt c d i.low
  let b := i.compareAt c d i.high
  (a == .gt || (i.closed && a == .eq)) && (b == .lt || (i.closed && b == .eq))

/-- The nearest `n`-digit decimal that reads back, if one does. -/
def Interval.attempt (i : Interval) (n : Nat) : Option (Nat × Int) :=
  let d := floorLog10 i.num i.den - n + 1
  let (qn, qd) :=
    if 0 ≤ d then (i.num, i.den * Nat.pow 10 d.toNat)
    else (i.num * Nat.pow 10 (-d).toNat, i.den)
  let lo := qn / qd
  let r := qn % qd
  if r == 0 then some (lo, d)
  else
    let okLo := i.holds lo d
    let okHi := i.holds (lo + 1) d
    if okLo && okHi then
      if 2 * r < qd then some (lo, d)
      else if qd < 2 * r then some (lo + 1, d)
      else if lo % 2 == 0 then some (lo, d) else some (lo + 1, d)
    else if okLo then some (lo, d)
    else if okHi then some (lo + 1, d)
    else none

/-- The shortest decimal `c * 10 ^ d` that reads back as a finite nonzero value, nearest of
those; `(0, 0)` for zero. Seventeen digits always suffice. -/
def shortest (x : Binary64) : Nat × Int :=
  if x.isZero then (0, 0) else
  let i := x.interval
  match (List.range 17).findSome? (fun k => i.attempt (k + 1)) with
  | some (c, d) => stripZeros c d
  | none =>
    let d := floorLog10 i.num i.den - 16
    let (qn, qd) :=
      if 0 ≤ d then (i.num, i.den * Nat.pow 10 d.toNat)
      else (i.num * Nat.pow 10 (-d).toNat, i.den)
    stripZeros (roundDiv qn qd) d

end Binary64

/-- The decisions of a text form for binary64 values. Digits are always the shortest that
read back; a value whose leading digit stands at `10 ^ (kk - 1)` is written positionally when
`lowest ≤ kk ≤ highest`, otherwise as `d.ddd` and an exponent. -/
structure FloatStyle where
  lowest : Int
  highest : Int
  /-- Whether a nonnegative exponent carries a `+`. -/
  plusExponent : Bool

namespace FloatStyle

/-- Text of a count of zeros. -/
def zeros (n : Nat) : String := String.ofList (List.replicate n '0')

/-- Positional text of `digits * 10 ^ d`, with a point always present. -/
def positional (digits : String) (d : Int) : String :=
  let kk := (digits.length : Int) + d
  if 0 ≤ d then digits ++ zeros d.toNat ++ ".0"
  else if 0 < kk then
    String.ofList (digits.toList.take kk.toNat) ++ "." ++
      String.ofList (digits.toList.drop kk.toNat)
  else "0." ++ zeros (-kk).toNat ++ digits

/-- Text with one digit before the point and an exponent. -/
def scientific (s : FloatStyle) (digits : String) (d : Int) : String :=
  let exp := (digits.length : Int) + d - 1
  let mant :=
    if digits.length == 1 then digits
    else String.ofList (digits.toList.take 1) ++ "." ++ String.ofList (digits.toList.drop 1)
  let sign := if exp < 0 then "-" else if s.plusExponent then "+" else ""
  mant ++ "e" ++ sign ++ toString exp.natAbs

/-- The text of a finite value; `NaN`, `inf` and `-inf` otherwise. -/
def render (s : FloatStyle) (x : Binary64) : String :=
  if x.isNaN then "NaN"
  else if !x.isFinite then (if x.isNeg then "-inf" else "inf")
  else
    let sign := if x.isNeg then "-" else ""
    if x.isZero then sign ++ "0.0"
    else
      let (c, d) := x.shortest
      let digits := toString c
      let kk := (digits.length : Int) + d
      if s.lowest ≤ kk && kk ≤ s.highest then sign ++ positional digits d
      else sign ++ s.scientific digits d

/-- Positional notation for every finite value, with `.0` after an integer. -/
def plain : FloatStyle := ⟨-400, 400, false⟩

end FloatStyle

end Courier
