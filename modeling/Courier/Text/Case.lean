import Courier.Text.Uppercase
import Courier.Text.Cased
import Courier.Text.CaseTable

/-!
# Case conversion

Full Unicode case conversion of strings: each character is replaced by its full mapping (so
`ß` becomes `SS` in uppercase and `İ` becomes `i̇` in lowercase). Lowercasing a capital sigma
gives the final form `ς` when it ends a word: a cased character comes before it, skipping
case-ignorable ones, and none comes after it in the same way.
-/

namespace Courier.Text

/-- The image of a character under a mapping given by runs and special entries. -/
def mapChar (runs : List (Nat × Nat × Nat × Int)) (special : List (Nat × List Nat))
    (c : Char) : List Char :=
  match special.lookup c.toNat with
  | some cs => cs.map Char.ofNat
  | none =>
    match runs.find? (fun (first, count, step, _) => inRun c.toNat (first, count, step)) with
    | some (_, _, _, d) => [Char.ofNat ((c.toNat : Int) + d).toNat]
    | none => [c]

/-- The full lowercase mapping of a character. -/
def lowerChar (c : Char) : List Char := mapChar lowercaseRuns lowercaseSpecial c

/-- The full uppercase mapping of a character. -/
def upperChar (c : Char) : List Char := mapChar uppercaseMapRuns uppercaseSpecial c

/-- Whether, skipping case-ignorable characters, the next character is cased. -/
def casedAfterIgnorable (cs : List Char) : Bool :=
  match cs.dropWhile isCaseIgnorable with
  | c :: _ => isCased c
  | [] => false

/-- Lowercases the characters `rest`, with `before` the characters already passed, nearest
first. -/
def lowerFrom : List Char → List Char → List Char
  | _, [] => []
  | before, c :: rest =>
    let here :=
      if c == 'Σ' then
        if casedAfterIgnorable before && !casedAfterIgnorable rest then ['ς'] else ['σ']
      else lowerChar c
    here ++ lowerFrom (c :: before) rest

/-- The lowercase form of a string. -/
def lower (s : String) : String := String.ofList (lowerFrom [] s.toList)

/-- The uppercase form of a string. -/
def upper (s : String) : String := String.ofList (s.toList.flatMap upperChar)

end Courier.Text
