import Courier.Json.Value
import Courier.Shape

/-!
# Writing JSON text

Values are written compactly: no blanks, members in the order they are held. A string
escapes the quote, the backslash and the control characters: backspace, form feed, newline,
return and tab by their letters, the others as `\u00` and two lowercase hexadecimal digits;
everything else is written as itself. A binary64 number is written in `FloatStyle.json`.
-/

namespace Courier.Json

/-- The escaped form of one character of a JSON string. -/
def escapeChar (c : Char) : String :=
  match c with
  | '"' => "\\\""
  | '\\' => "\\\\"
  | '\x08' => "\\b"
  | '\x0c' => "\\f"
  | '\n' => "\\n"
  | '\r' => "\\r"
  | '\t' => "\\t"
  | _ =>
    if c.toNat < 0x20 then
      "\\u00" ++ String.ofList [Nat.digitChar (c.toNat / 16), Nat.digitChar (c.toNat % 16)]
    else c.toString

/-- A JSON string literal. -/
def quoteString (s : String) : String :=
  "\"" ++ String.join (s.toList.map escapeChar) ++ "\""

/-- The text of a number. -/
def Number.render : Number → String
  | .nat n => toString n.toNat
  | .neg n => toString n.toInt
  | .float x => if x.isFinite then FloatStyle.json.render x else "null"

mutual

/-- The compact text of a value. -/
def Value.render : Value → String
  | .null => "null"
  | .bool b => if b then "true" else "false"
  | .number n => n.render
  | .string s => quoteString s
  | .array xs => "[" ++ renderItems xs ++ "]"
  | .object ms => "\x7b" ++ renderMembers ms ++ "\x7d"

/-- The items of an array, separated by commas. -/
def renderItems : List Value → String
  | [] => ""
  | [x] => x.render
  | x :: rest => x.render ++ "," ++ renderItems rest

/-- The members of an object, separated by commas. -/
def renderMembers : List (String × Value) → String
  | [] => ""
  | [(k, v)] => quoteString k ++ ":" ++ v.render
  | (k, v) :: rest => quoteString k ++ ":" ++ v.render ++ "," ++ renderMembers rest

end

end Courier.Json
