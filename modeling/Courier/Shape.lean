import Courier.Json.Value
import Courier.Number.Shortest
import Courier.Text.Quote

/-!
# Shapes of payloads

A `Shape` says what form a payload takes: any JSON value, a string, an integer of some width,
a binary64 value, a boolean, an optional, a list, a table keyed by strings, or a record with
named fields. Decoders from JSON text, CBOR bytes and TOML documents follow a shape and produce
the payload as a `Json.Value` (records keep their field order); encoders write that value back.

`Mismatch` is why a decoded item does not fit its shape, and `Mismatch.message` its wording in
one of two dialects: the JSON reader names the absent value `null` and writes binary64 values
in its own number text, other readers say `unit value` and write numbers positionally.
-/

namespace Courier

open Json

/-- The form of a payload. -/
inductive Shape where
  /-- Any JSON value. -/
  | any
  /-- A string. -/
  | text
  /-- A signed 64-bit integer. -/
  | int64
  /-- An unsigned 64-bit integer; the name is how expectations call it. -/
  | nat64 (name : String)
  /-- An unsigned 8-bit integer. -/
  | byte
  /-- A binary64 value. -/
  | float
  /-- A boolean. -/
  | flag
  /-- An optional payload. -/
  | optional (s : Shape)
  /-- A list of payloads. -/
  | list (s : Shape)
  /-- A table from strings to payloads, kept sorted by key. -/
  | table (s : Shape)
  /-- A record: its name, its fields in order, and, when a missing field takes a default,
  the default value of each field in the same order. -/
  | record (name : String) (fields : List (String × Shape)) (defaults : Option (List Value))
  deriving Repr, Inhabited

namespace Shape

/-- What a decoder expected, as the messages name it. -/
def expecting : Shape → String
  | .any => "any valid JSON value"
  | .text => "a string"
  | .int64 => "i64"
  | .nat64 name => name
  | .byte => "u8"
  | .float => "f64"
  | .flag => "a boolean"
  | .optional _ => "option"
  | .list _ => "a sequence"
  | .table _ => "a map"
  | .record name _ _ => "struct " ++ name

end Shape

/-- What a decoder met where its shape asked for something else. -/
inductive Unexpected where
  | bool (b : Bool)
  | unsigned (n : Nat)
  | signed (n : Int)
  | float (x : Binary64)
  | str (s : String)
  | bytes
  | unit
  | seq
  | map
  | enum
  | other (s : String)
  deriving Repr, Inhabited

/-- Which reader words a mismatch. -/
inductive Dialect where
  | json
  | plain
  deriving DecidableEq, Repr, Inhabited

/-- The JSON reader's number text: shortest digits, positional from `1e-5` up to `1e16`. -/
def FloatStyle.json : FloatStyle := ⟨-4, 16, true⟩

namespace Unexpected

/-- The wording of an unexpected item. -/
def describe (d : Dialect) : Unexpected → String
  | .bool b => "boolean `" ++ toString b ++ "`"
  | .unsigned n => "integer `" ++ toString n ++ "`"
  | .signed n => "integer `" ++ toString n ++ "`"
  | .float x =>
    "floating point `" ++ (if d == .json then FloatStyle.json else FloatStyle.plain).render x ++ "`"
  | .str s => "string " ++ Text.quote s
  | .bytes => "byte array"
  | .unit => if d == .json then "null" else "unit value"
  | .seq => "sequence"
  | .map => "map"
  | .enum => "enum"
  | .other s => s

end Unexpected

/-- Why a decoded item does not fit its shape. -/
inductive Mismatch where
  | invalidType (u : Unexpected) (expected : String)
  | invalidValue (u : Unexpected) (expected : String)
  | invalidLength (n : Nat) (expected : String)
  | missingField (name : String)
  | duplicateField (name : String)
  | custom (text : String)
  deriving Repr, Inhabited

namespace Mismatch

/-- The wording of a mismatch. -/
def message (d : Dialect) : Mismatch → String
  | .invalidType u e => "invalid type: " ++ u.describe d ++ ", expected " ++ e
  | .invalidValue u e => "invalid value: " ++ u.describe d ++ ", expected " ++ e
  | .invalidLength n e => "invalid length " ++ toString n ++ ", expected " ++ e
  | .missingField n => "missing field `" ++ n ++ "`"
  | .duplicateField n => "duplicate field `" ++ n ++ "`"
  | .custom t => t

end Mismatch

/-- A record's expectation when read from a list: the number of fields it holds. -/
def recordLengthExpectation (name : String) (count : Nat) : String :=
  "struct " ++ name ++ " with " ++ toString count ++ " element" ++ (if count == 1 then "" else "s")

/-! ## Reading numbers into integer shapes -/

/-- The payload of an unsigned integer for an integer or binary64 shape. -/
def Shape.ofUnsigned (s : Shape) (n : Nat) : Except Mismatch Value :=
  match s with
  | .int64 => if n < Nat.pow 2 63 then .ok (.int n) else .error (.invalidValue (.unsigned n) "i64")
  | .nat64 _ => .ok (.nat n)
  | .byte => if n < 256 then .ok (.nat n) else .error (.invalidValue (.unsigned n) "u8")
  | .float => .ok (.float (Binary64.ofNat n))
  | s => .error (.invalidType (.unsigned n) s.expecting)

/-- The payload of a negative integer for an integer or binary64 shape. -/
def Shape.ofSigned (s : Shape) (n : Int) : Except Mismatch Value :=
  match s with
  | .int64 => .ok (.int n)
  | .nat64 name => if 0 ≤ n then .ok (.nat n.toNat) else .error (.invalidValue (.signed n) name)
  | .byte =>
    if 0 ≤ n && n < 256 then .ok (.nat n.toNat) else .error (.invalidValue (.signed n) "u8")
  | .float => .ok (.float (Binary64.ofInt n))
  | s => .error (.invalidType (.signed n) s.expecting)

/-- The payload of a binary64 value for a numeric shape. -/
def Shape.ofFloat (s : Shape) (x : Binary64) : Except Mismatch Value :=
  match s with
  | .float => .ok (.number (.float x))
  | s => .error (.invalidType (.float x) s.expecting)

/-! ## Completing records -/

/-- A missing record field: its default, `null` for an optional, or refused. -/
def Shape.missingField (defaults : Option (List Value)) (idx : Nat) (name : String)
    (shape : Shape) : Except Mismatch Value :=
  match defaults with
  | some ds => .ok (ds.getD idx .null)
  | none =>
    match shape with
    | .optional _ => .ok .null
    | _ => .error (.missingField name)

/-- Completes a record from the fields read so far, in field order: the first missing field
without a default is refused. -/
def Shape.completeRecord (defaults : Option (List Value)) :
    List (String × Shape) → List (String × Value) → Nat →
      Except Mismatch (List (String × Value))
  | [], _, _ => .ok []
  | (name, shape) :: rest, got, idx =>
    let v : Except Mismatch Value := match Keyed.find? name got with
      | some v => .ok v
      | none => Shape.missingField defaults idx name shape
    match v with
    | .error m => .error m
    | .ok v => (Shape.completeRecord defaults rest got (idx + 1)).map fun vs => (name, v) :: vs

end Courier
