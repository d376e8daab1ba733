/-!
# Quoted text

A string written between double quotes, or a character between single quotes, the way
diagnostics show it: the quote mark and a backslash are preceded by a backslash; tab,
return, newline and NUL are written by their letter escapes; other characters that do not
print as themselves (controls, format characters, line and paragraph separators) are written
as `\u{hex}` with the lowercase code in hexadecimal.
-/

namespace Courier.Text

/-- Characters written as `\u{…}` because they do not print as themselves. -/
def unprintable (c : Char) : Bool :=
  let n := c.toNat
  n < 0x20 || (0x7F ≤ n && n < 0xA0) || n == 0xAD ||
    (0x600 ≤ n && n ≤ 0x605) || n == 0x61C || n == 0x6DD || n == 0x70F ||
    n == 0x180E || (0x200B ≤ n && n ≤ 0x200F) || (0x2028 ≤ n && n ≤ 0x202E) ||
    (0x2060 ≤ n && n ≤ 0x206F) || n == 0xFEFF || (0xFFF0 ≤ n && n ≤ 0xFFFB) ||
    (0xE0000 ≤ n && n ≤ 0xE0FFF) || (0xF0000 ≤ n)

/-- Lowercase hexadecimal digits of a number, without leading zeros. -/
def hexDigits (n : Nat) : String :=
  String.ofList (Nat.toDigits 16 n)

/-- The escaped form of one character between the quote marks `q`: the quote mark itself and
the backslash are preceded by a backslash. -/
def escapeChar (q : Char) (c : Char) : String :=
  if c == q || c == '\\' then "\\" ++ c.toString
  else
    match c with
    | '\t' => "\\t"
    | '\r' => "\\r"
    | '\n' => "\\n"
    | '\x00' => "\\0"
    | _ => if unprintable c then "\\u\x7b" ++ hexDigits c.toNat ++ "\x7d" else c.toString

/-- A string in double quotes with escapes. -/
def quote (s : String) : String :=
  "\"" ++ String.join (s.toList.map (escapeChar '"')) ++ "\""

/-- A character in single quotes with escapes. -/
def quoteChar (c : Char) : String := "'" ++ escapeChar '\'' c ++ "'"

end Courier.Text
