/-!
# Signed 64-bit integers

Payload integers are signed 64-bit values. A text spells one when it is an optional sign
followed by decimal digits only, within range. Sums and products wrap around; differences of
times saturate at the ends of the range.
-/

namespace Courier

/-- A signed 64-bit value of an integer, wrapping. -/
def wrapI64 (n : Int) : Int := (n + Int.pow 2 63) % Int.pow 2 64 - Int.pow 2 63

/-- A signed 64-bit value of an integer, saturating. -/
def saturateI64 (n : Int) : Int := max (-Int.pow 2 63) (min n (Int.pow 2 63 - 1))

/-- The signed 64-bit integer a text spells: an optional sign, then decimal digits only. -/
def parseI64 (t : String) : Option Int :=
  let (neg, digits) :=
    if t.startsWith "-" then (true, (t.drop 1).toString)
    else if t.startsWith "+" then (false, (t.drop 1).toString)
    else (false, t)
  if digits.isEmpty || !(digits.all Char.isDigit) then none
  else
    let n : Int := if neg then -(digits.toNat! : Int) else digits.toNat!
    if -Int.pow 2 63 ≤ n && n < Int.pow 2 63 then some n else none

end Courier
