import Courier.Toml.Document
import Courier.Shape

/-!
# Decoding TOML documents by shape

The root table of a document is decoded into a payload of a `Shape` the way the structures'
decoders read any self-describing format: a table is a map, an array a sequence, a date-time a
map; an optional field always holds its value; a record reads the keys it knows in document
order and ignores the others. Integers are offered as signed 64-bit numbers when they fit,
then unsigned, then as 128-bit numbers.

An error is written as the document's reader writes it: the line and column of the span's
start (columns count characters), the line itself under a gutter of its number, carets under
the span (at least one, and none past the line's end but one), and the message.
-/

namespace Courier.Toml

open Json

/-- How a document's item is named when it does not fit. -/
def Item.unexpected : Item → Unexpected
  | .string s _ => .str s
  | .integer n _ =>
    if -Int.pow 2 63 ≤ n && n < Int.pow 2 63 then .signed n
    else if 0 ≤ n && n < Int.pow 2 64 then .unsigned n.toNat
    else
      let wide := if n < 0 || n < Int.pow 2 127 then "i128" else "u128"
      .other ("integer `" ++ toString n ++ "` as " ++ wide)
  | .float x _ => .float x
  | .boolean b _ => .bool b
  | .datetime _ _ => .map
  | .array _ _ => .seq
  | .table _ _ => .map

/-- A mismatch at an item. -/
def mismatchAt {α : Type} (item : Item) (m : Mismatch) : Except Error α :=
  .error ⟨m.message .plain, some item.span⟩

/-- An integer for a numeric shape. -/
def integerAs (shape : Shape) (item : Item) (n : Int) : Except Error Value :=
  let fits (r : Except Mismatch Value) : Except Error Value :=
    match r with
    | .ok v => .ok v
    | .error m => mismatchAt item m
  if -Int.pow 2 63 ≤ n && n < Int.pow 2 63 then fits (shape.ofSigned n)
  else if 0 ≤ n && n < Int.pow 2 64 then fits (shape.ofUnsigned n.toNat)
  else
    match shape with
    | .int64 | .nat64 _ | .byte =>
      if -Int.pow 2 127 ≤ n && n < Int.pow 2 128 then
        let wide := if n < Int.pow 2 127 then "i128" else "u128"
        mismatchAt item (.invalidValue (.other wide) shape.expecting)
      else .error ⟨"integer number overflowed", some item.span⟩
    | .float => .ok (.float (Binary64.ofInt n))
    | _ => mismatchAt item (.invalidType item.unexpected shape.expecting)

mutual

/-- An item as a payload of a shape. -/
def decodeItem : Shape → Item → Except Error Value
  | .any, item => .ok (anyOf item)
  | .optional s, item => decodeItem s item
  | shape, .integer n sp => integerAs shape (.integer n sp) n
  | .text, .string s _ => .ok (.string s)
  | .float, .float x _ => .ok (.number (.float x))
  | .flag, .boolean b _ => .ok (.bool b)
  | .list s, .array items _ => (decodeItems s items).map .array
  | .table s, .table entries _ => (decodeMap s entries).map Value.sortedObject
  | .record _ fields defaults, .table entries _ =>
    match decodeFields fields entries with
    | .error e => .error e
    | .ok got =>
      match Shape.completeRecord defaults fields got 0 with
      | .ok vs => .ok (.object vs)
      | .error m => .error ⟨m.message .plain, none⟩
  | shape, item => mismatchAt item (.invalidType item.unexpected shape.expecting)

/-- The items of an array as payloads of a shape. -/
def decodeItems (s : Shape) : List Item → Except Error (List Value)
  | [] => .ok []
  | item :: rest =>
    match decodeItem s item with
    | .error e => .error e
    | .ok v => (decodeItems s rest).map (v :: ·)

/-- The entries of a table as a map of payloads of a shape. -/
def decodeMap (s : Shape) : List (String × Item) → Except Error (List (String × Value))
  | [] => .ok []
  | (k, item) :: rest =>
    match decodeItem s item with
    | .error e => .error e
    | .ok v => (decodeMap s rest).map ((k, v) :: ·)

/-- The entries of a table that a record knows, in document order. -/
def decodeFields (fields : List (String × Shape)) :
    List (String × Item) → Except Error (List (String × Value))
  | [] => .ok []
  | (k, item) :: rest =>
    match fields.find? (·.1 == k) with
    | none => decodeFields fields rest
    | some (_, s) =>
      match decodeItem s item with
      | .error e => .error e
      | .ok v => (decodeFields fields rest).map ((k, v) :: ·)

/-- An item as a payload of any shape. -/
def anyOf : Item → Value
  | .string s _ => .string s
  | .integer n _ => if 0 ≤ n then .nat n.toNat else .int n
  | .float x _ => .number (.float x)
  | .boolean b _ => .bool b
  | .datetime t _ => .string t
  | .array items _ => .array (anyItems items)
  | .table entries _ => .object (anyEntries entries)

/-- Items as payloads of any shape. -/
def anyItems : List Item → List Value
  | [] => []
  | item :: rest => anyOf item :: anyItems rest

/-- Entries as payloads of any shape. -/
def anyEntries : List (String × Item) → List (String × Value)
  | [] => []
  | (k, item) :: rest => (k, anyOf item) :: anyEntries rest

end

/-! ## Writing errors -/

/-- The line and column (in characters) of a byte offset; past the end, the column goes on. -/
def position (s : ByteArray) (index : Nat) : Nat × Nat :=
  if s.size == 0 then (0, index)
  else
    let safe := min index (s.size - 1)
    let before := (s.extract 0 safe).toList
    let lineStart := match (before.reverse.findIdx? (· == 10)) with
      | some k => safe - k
      | none => 0
    let line := ((s.extract 0 lineStart).toList.filter (· == 10)).length
    let column := match String.fromUTF8? (s.extract lineStart (safe + 1)) with
      | some t => t.length - 1
      | none => safe - lineStart
    (line, column + (index - safe))

/-- A run of a character. -/
def run (n : Nat) (c : Char) : String := String.ofList (List.replicate n c)

/-- The text of an error of a document. -/
def Error.render (text : String) (e : Error) : String :=
  match e.span with
  | none => e.message ++ "\n"
  | some span =>
    let s := text.toUTF8
    let (line, column) := position s span.start
    let content := (text.splitOn "\n").getD line ""
    let width := min (span.stop - span.start) (content.utf8ByteSize - column)
    let gutter := (toString (line + 1)).length
    "TOML parse error at line " ++ toString (line + 1) ++ ", column " ++
      toString (column + 1) ++ "\n" ++
      run (gutter + 1) ' ' ++ "|\n" ++
      toString (line + 1) ++ " | " ++ content ++ "\n" ++
      run (gutter + 1) ' ' ++ "|" ++ run (column + 1) ' ' ++ "^" ++ run (width - 1) '^' ++ "\n" ++
      e.message ++ "\n"

/-- Decodes a document into a payload of a shape; an error comes as its text. -/
def decode (shape : Shape) (text : String) : Except String Value :=
  match parse text with
  | .error e => .error (e.render text)
  | .ok root =>
    match decodeItem shape (.table root ⟨0, 0⟩) with
    | .ok v => .ok v
    | .error e => .error (e.render text)

end Courier.Toml
