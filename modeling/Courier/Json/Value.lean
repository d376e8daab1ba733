import Courier.Number.Binary64
import Courier.Keyed

/-!
# JSON values

A JSON value as this library holds it. A number keeps the kind it was read or made as: a
nonnegative integer within 64 bits, a negative integer within 64 signed bits, or a binary64
value. An object is a list of members; the objects of a free-form value are kept sorted by
key with one member per key (a keyed list), while the objects that stand for a
record keep the record's field order.
-/

namespace Courier.Json

/-- A JSON number: an unsigned integer, a negative signed integer, or a binary64 value. -/
inductive Number where
  | nat (n : UInt64)
  | neg (n : Int64)
  | float (x : Binary64)
  deriving DecidableEq, Repr, Inhabited

/-- A JSON value. -/
inductive Value where
  | null
  | bool (b : Bool)
  | number (n : Number)
  | string (s : String)
  | array (items : List Value)
  | object (members : List (String × Value))
  deriving Repr, Inhabited

namespace Number

/-- The number for a signed integer: unsigned when nonnegative. -/
def ofInt (n : Int) : Number :=
  if 0 ≤ n then .nat n.toNat.toUInt64 else .neg (Int64.ofInt n)

/-- The integer a number stands for, if it is an integer. -/
def toInt? : Number → Option Int
  | .nat n => some n.toNat
  | .neg n => some n.toInt
  | .float _ => none

end Number

namespace Value

/-- An unsigned integer value. -/
def nat (n : Nat) : Value := .number (.nat n.toUInt64)

/-- A signed integer value. -/
def int (n : Int) : Value := .number (Number.ofInt n)

/-- A binary64 value; an infinity or a NaN has no JSON form and becomes `null`. -/
def float (x : Binary64) : Value := if x.isFinite then .number (.float x) else .null

/-- The member `key` of an object value. -/
def get? (v : Value) (key : String) : Option Value :=
  match v with
  | .object ms => Keyed.find? key ms
  | _ => none

/-- The text of a string value. -/
def str? : Value → Option String
  | .string s => some s
  | _ => none

/-- The items of an array value. -/
def items? : Value → Option (List Value)
  | .array xs => some xs
  | _ => none

/-- Whether a value is `null`. -/
def isNull : Value → Bool
  | .null => true
  | _ => false

/-- The integer of an integer number value. -/
def int? : Value → Option Int
  | .number n => n.toInt?
  | _ => none

/-- The truth value of a boolean value. -/
def bool? : Value → Option Bool
  | .bool b => some b
  | _ => none

/-- An object value whose members are sorted, one per key (the last given wins). -/
def sortedObject (members : List (String × Value)) : Value :=
  .object (Keyed.ofList members)

end Value

end Courier.Json
