import Courier.Number.Binary64

/-!
# Reading TOML documents

A TOML document is read into a tree of items, each with the byte span of its text. The reader
walks the bytes with an index: a line is blank, a comment, a table header (`[a.b]` or
`[[a.b]]`) or a key-value pair `key = value`, where a key is dotted from bare or quoted parts.

Values are basic and literal strings (single- or multi-line), arrays, inline tables, and the
unquoted scalars: booleans, integers (decimal with `_` between digits, or `0x`, `0o`, `0b`),
floats (`inf` and `nan` included, read to the nearest binary64 value) and date-times, kept as
their text. An unquoted scalar of any other form is refused: string values must be quoted.

The first error ends the reading; it names its span. A key given twice, a header naming a table
already defined, or a dotted key through a value, is a duplicate key.
-/

namespace Courier.Toml

/-- A range of byte offsets of a document. -/
structure Span where
  start : Nat
  stop : Nat
  deriving DecidableEq, Repr, Inhabited

/-- A value of a document, with the span of its text. -/
inductive Item where
  | string (s : String) (span : Span)
  | integer (n : Int) (span : Span)
  | float (x : Binary64) (span : Span)
  | boolean (b : Bool) (span : Span)
  | datetime (text : String) (span : Span)
  | array (items : List Item) (span : Span)
  | table (entries : List (String × Item)) (span : Span)
  deriving Inhabited

/-- An error of a document: its wording and, when it has one, the span it names. -/
structure Error where
  message : String
  span : Option Span
  deriving Repr, Inhabited

/-- A step of the reader: a result and the offset after it, or an error. -/
abbrev Step (α : Type) := Except Error (α × Nat)

/-- An error naming the span from `start` to `stop`. -/
def failAt {α : Type} (start stop : Nat) (message : String) : Except Error α :=
  .error ⟨message, some ⟨start, stop⟩⟩

/-! ## Bytes -/

/-- Whether a byte is a space or a tab. -/
def isBlank (b : UInt8) : Bool := b == 32 || b == 9

/-- Whether a byte is an ASCII digit. -/
def isDigit (b : UInt8) : Bool := 48 ≤ b && b ≤ 57

/-- Whether a byte may stand in a bare key. -/
def isBareKeyByte (b : UInt8) : Bool :=
  (65 ≤ b && b ≤ 90) || (97 ≤ b && b ≤ 122) || isDigit b || b == 95 || b == 45

/-- Whether a byte ends an unquoted key. -/
def endsKey (b : UInt8) : Bool :=
  isBlank b || b == 10 || b == 13 || b == 35 || b == 46 || b == 61 || b == 91 || b == 93 ||
    b == 123 || b == 125 || b == 34 || b == 39 || b == 44

/-- Whether a byte ends an unquoted scalar. -/
def endsScalar (b : UInt8) : Bool :=
  isBlank b || b == 10 || b == 13 || b == 35 || b == 44 || b == 61 || b == 91 || b == 93 ||
    b == 123 || b == 125 || b == 34 || b == 39

/-- The first offset from `i` on whose byte fails `p` (or the end). -/
def skipWhile (p : UInt8 → Bool) (s : ByteArray) : Nat → Nat → Nat
  | 0, i => i
  | fuel + 1, i => if (s[i]?.map p).getD false then skipWhile p s fuel (i + 1) else i

/-- The offset after the blanks from `i`. -/
def skipBlanks (s : ByteArray) (i : Nat) : Nat := skipWhile isBlank s s.size i

/-- Whether a line break starts at `i`: its length. -/
def newlineAt (s : ByteArray) (i : Nat) : Option Nat :=
  match s[i]? with
  | some 10 => some 1
  | some 13 => if s[i + 1]? == some 10 then some 2 else none
  | _ => none

/-- The offset after a comment starting at `i`: the line break is left. -/
def skipComment (s : ByteArray) (i : Nat) : Nat :=
  skipWhile (fun b => b != 10 && b != 13) s s.size i

/-- The offset after blanks, line breaks and comments from `i`. -/
def skipSpace (s : ByteArray) : Nat → Nat → Nat
  | 0, i => i
  | fuel + 1, i =>
    let i := skipBlanks s i
    match s[i]? with
    | some 35 => skipSpace s fuel (skipComment s i)
    | _ =>
      match newlineAt s i with
      | some n => skipSpace s fuel (i + n)
      | none => i

/-- The text of the bytes from `start` to `stop`. -/
def textOf (s : ByteArray) (start stop : Nat) : String :=
  (String.fromUTF8? (s.extract start stop)).getD ""

/-! ## Strings -/

/-- The value of a hexadecimal digit. -/
def hexValue (b : UInt8) : Option Nat :=
  if isDigit b then some (b - 48).toNat
  else if 97 ≤ b && b ≤ 102 then some (b - 87).toNat
  else if 65 ≤ b && b ≤ 70 then some (b - 55).toNat
  else none

/-- The number of `n` hexadecimal digits at `i`. -/
def readHex (s : ByteArray) (i : Nat) : Nat → Option Nat
  | 0 => some 0
  | n + 1 => do
    let d ← s[i]?.bind hexValue
    let rest ← readHex s (i + 1) n
    pure (d * Nat.pow 16 n + rest)

/-- The bytes of a character. -/
def charBytes (c : Char) : ByteArray := c.toString.toUTF8

/-- An escape sequence whose backslash stands at `i`: the bytes it stands for and the offset
after it. -/
def readEscape (s : ByteArray) (i : Nat) : Step ByteArray :=
  let simple (c : Char) : Step ByteArray := .ok (charBytes c, i + 2)
  let unicode (n : Nat) : Step ByteArray :=
    match readHex s (i + 2) n with
    | some v =>
      if v < 0xD800 || (0xDFFF < v && v < 0x110000) then .ok (charBytes (Char.ofNat v), i + 2 + n)
      else failAt i (i + 2 + n) "invalid unicode escape value"
    | none => failAt (i + 2) (i + 2) "invalid unicode escape, expected hexadecimal digit"
  match s[i + 1]? with
  | some 98 => simple '\x08'
  | some 116 => simple '\t'
  | some 110 => simple '\n'
  | some 102 => simple '\x0c'
  | some 114 => simple '\r'
  | some 101 => simple '\x1b'
  | some 34 => simple '"'
  | some 92 => simple '\\'
  | some 117 => unicode 4
  | some 85 => unicode 8
  | _ => failAt (i + 1) (i + 2)
      "invalid escape sequence, expected b, e, f, n, r, t, u, U, \\, \""

/-- A single-line string whose quote `q` stands at `i`; escapes only in basic strings. -/
def readLine (s : ByteArray) (basic : Bool) (i : Nat) : Step (String × Span) :=
  let what := if basic then "invalid basic string, expected `\"`"
    else "invalid literal string, expected `'`"
  let q : UInt8 := if basic then 34 else 39
  let rec go : Nat → Nat → ByteArray → Step (String × Span)
    | 0, j, _ => failAt j j what
    | fuel + 1, j, acc =>
      match s[j]? with
      | none => failAt j j what
      | some b =>
        if b == q then .ok ((textOf (acc) 0 acc.size, ⟨i, j + 1⟩), j + 1)
        else if b == 10 || (b == 13 && s[j + 1]? == some 10) then failAt j j what
        else if basic && b == 92 then
          match readEscape s j with
          | .ok (bytes, k) => go fuel k (acc ++ bytes)
          | .error e => .error e
        else go fuel (j + 1) (acc.push b)
  go (s.size + 1) (i + 1) .empty

/-- The number of quotes `q` in a row from `j`, up to five. -/
def quoteRun (s : ByteArray) (q : UInt8) (j : Nat) : Nat :=
  ((List.range 5).takeWhile fun k => s[j + k]? == some q).length

/-- A multi-line string whose three quotes stand at `i`; a line break right after them is
dropped, and in basic strings a backslash ending a line drops the blank space after it. -/
def readMultiline (s : ByteArray) (basic : Bool) (i : Nat) : Step (String × Span) :=
  let what := if basic then "invalid multi-line basic string, expected `\"\"\"`"
    else "invalid multi-line literal string, expected `'''`"
  let q : UInt8 := if basic then 34 else 39
  let start := match newlineAt s (i + 3) with
    | some n => i + 3 + n
    | none => i + 3
  let rec go : Nat → Nat → ByteArray → Step (String × Span)
    | 0, j, _ => failAt j j what
    | fuel + 1, j, acc =>
      match s[j]? with
      | none => failAt j j what
      | some b =>
        if b == q && 3 ≤ quoteRun s q j then
          let run := quoteRun s q j
          let acc := (List.range (run - 3)).foldl (fun a _ => a.push q) acc
          .ok ((textOf acc 0 acc.size, ⟨i, j + run⟩), j + run)
        else if basic && b == 92 then
          let k := skipBlanks s (j + 1)
          match newlineAt s k with
          | some _ =>
            let rec eat : Nat → Nat → Nat
              | 0, m => m
              | f + 1, m =>
                let m := skipBlanks s m
                match newlineAt s m with
                | some n => eat f (m + n)
                | none => m
            go fuel (eat s.size k) acc
          | none =>
            match readEscape s j with
            | .ok (bytes, k) => go fuel k (acc ++ bytes)
            | .error e => .error e
        else go fuel (j + 1) (acc.push b)
  go (s.size + 1) start .empty

/-- A string whose opening quote stands at `i`. -/
def readString (s : ByteArray) (i : Nat) : Step (String × Span) :=
  let q := s[i]?.getD 34
  if s[i + 1]? == some q && s[i + 2]? == some q then readMultiline s (q == 34) i
  else readLine s (q == 34) i

/-! ## Unquoted scalars -/

/-- The digits of a run with single `_` between digits of the radix, or `none`. -/
def digitsOf (digit : Char → Bool) (t : String) : Option (List Char) :=
  let cs := t.toList
  if cs.isEmpty then none
  else
    let rec ok : List Char → Bool
      | [] => true
      | [c] => digit c
      | c :: '_' :: rest => digit c && (match rest with
        | d :: _ => digit d
        | [] => false) && ok rest
      | c :: rest => digit c && ok rest
    if ok cs then some (cs.filter (· != '_')) else none

/-- The number of a list of digits in a radix. -/
def valueOf (radix : Nat) (ds : List Char) : Nat :=
  ds.foldl (fun acc c =>
    acc * radix + (if c.isDigit then c.toNat - 48
      else if 'a' ≤ c && c ≤ 'f' then c.toNat - 87 else c.toNat - 55)) 0

/-- Whether a character is a hexadecimal digit. -/
def isHexChar (c : Char) : Bool := c.isDigit || ('a' ≤ c && c ≤ 'f') || ('A' ≤ c && c ≤ 'F')

/-- The value nearest to `m * 10 ^ e`, with a sign. -/
def scaled (neg : Bool) (m : Nat) (e : Int) : Binary64 :=
  if m == 0 then Binary64.zero neg
  else if 400 < e then Binary64.infinity neg
  else if e < -800 then Binary64.zero neg
  else if 0 ≤ e then Binary64.ofRatio neg (m * Nat.pow 10 e.toNat) 1
  else Binary64.ofRatio neg m (Nat.pow 10 (-e).toNat)

/-- The value of a decimal float text without its sign. -/
def floatOf (neg : Bool) (t : String) : Option Binary64 := do
  let (mant, exp) := match t.splitOn "e" with
    | [m, x] => (m, some x)
    | _ => match t.splitOn "E" with
      | [m, x] => (m, some x)
      | _ => (t, none)
  let (whole, frac) := match mant.splitOn "." with
    | [w, f] => (w, some f)
    | _ => (mant, none)
  if frac.isNone && exp.isNone then none else
  let w ← digitsOf Char.isDigit whole
  if w.length > 1 && w.head? == some '0' then none else
  let f ← match frac with
    | some f => digitsOf Char.isDigit f
    | none => some []
  let e : Int ← match exp with
    | some x =>
      let (negExp, digits) :=
        if x.startsWith "-" then (true, (x.drop 1).toString)
        else if x.startsWith "+" then (false, (x.drop 1).toString)
        else (false, x)
      let ds ← digitsOf Char.isDigit digits
      let n : Int := valueOf 10 ds
      some (if negExp then -n else n)
    | none => some 0
  pure (scaled neg (valueOf 10 (w ++ f)) (e - f.length))

/-- Whether a text reads as a date, a time or a date-time. -/
def isDateTime (t : String) : Bool :=
  let cs := t.toList
  let digitsAt (ks : List Nat) := ks.all fun k => (cs[k]?.map Char.isDigit).getD false
  let date := digitsAt [0, 1, 2, 3, 5, 6, 8, 9] && cs[4]? == some '-' && cs[7]? == some '-'
  let time := digitsAt [0, 1, 3, 4, 6, 7] && cs[2]? == some ':' && cs[5]? == some ':'
  date || time

/-- The error for an unquoted text that is no scalar. -/
def unquoted {α : Type} (t : String) (span : Span) : Except Error α :=
  let missing (q : String) : Except Error α :=
    failAt span.start span.stop ("missing opening quote, expected `" ++ q ++ "`")
  if t.endsWith "'''" then missing "'''"
  else if t.endsWith "\"\"\"" then missing "\"\"\""
  else if t.endsWith "'" then missing "'"
  else if t.endsWith "\"" then missing "\""
  else failAt span.start span.stop "string values must be quoted, expected literal string"

/-- A symbol (`true`, `false`, `inf`, `nan`) that the text must spell. -/
def symbol (t word : String) (what : String) (span : Span) (item : Item) : Except Error Item :=
  if t == word then .ok item
  else if t.contains ' ' then unquoted t span
  else failAt span.start span.stop ("invalid " ++ what ++ ", expected `" ++ word ++ "`")

/-- A number text without its sign: an integer, a float, or a date-time. -/
def numberOf (neg signed : Bool) (t : String) (raw : String) (span : Span) : Except Error Item :=
  let integer (n : Nat) : Item := .integer (if neg then -(n : Int) else n) span
  let invalid (what : String) : Except Error Item :=
    failAt span.start span.stop ("invalid " ++ what ++ ", expected digit")
  let radix (r : Nat) (digit : Char → Bool) : Except Error Item :=
    if signed then failAt span.start span.stop "invalid integer, unsupported sign"
    else match digitsOf digit (t.drop 2).toString with
      | some ds => .ok (integer (valueOf r ds))
      | none => invalid "integer"
  if t.startsWith "0x" then radix 16 isHexChar
  else if t.startsWith "0o" then radix 8 fun c => '0' ≤ c && c ≤ '7'
  else if t.startsWith "0b" then radix 2 fun c => c == '0' || c == '1'
  else if !signed && isDateTime t then .ok (.datetime raw span)
  else if t.contains '.' || t.contains 'e' || t.contains 'E' then
    match floatOf neg t with
    | some x => .ok (.float x span)
    | none => if t.contains ' ' then unquoted raw span else invalid "float"
  else if t.contains ' ' then unquoted raw span
  else if t.all fun c => c.isDigit || c == '_' then
    match digitsOf Char.isDigit t with
    | some ds =>
      if ds.length > 1 && ds.head? == some '0' then
        failAt span.start span.stop "invalid integer, unexpected leading zero"
      else .ok (integer (valueOf 10 ds))
    | none => invalid "integer"
  else unquoted raw span

/-- The item of an unquoted scalar text. -/
def scalarOf (t : String) (span : Span) : Except Error Item :=
  match t.toList with
  | [] => unquoted t span
  | c :: rest =>
    if c == '+' || c == '-' then
      let neg := c == '-'
      let body := String.ofList rest
      match rest with
      | 'i' :: _ | 'I' :: _ => symbol body "inf" "float" span (.float (Binary64.infinity neg) span)
      | 'n' :: _ | 'N' :: _ => symbol body "nan" "float" span (.float Binary64.nan span)
      | d :: _ => if d.isDigit || d == '.' || d == '_' then numberOf neg true body t span
        else unquoted t span
      | [] => unquoted t span
    else if c == 't' || c == 'T' then symbol t "true" "boolean" span (.boolean true span)
    else if c == 'f' || c == 'F' then symbol t "false" "boolean" span (.boolean false span)
    else if c == 'i' || c == 'I' then
      symbol t "inf" "float" span (.float (Binary64.infinity false) span)
    else if c == 'n' || c == 'N' then symbol t "nan" "float" span (.float Binary64.nan span)
    else if c.isDigit || c == '.' || c == '_' then numberOf false false t t span
    else unquoted t span

/-- The end of an unquoted scalar starting at `i`; a date followed by a space and a digit
goes on with its time. -/
def scalarEnd (s : ByteArray) (i : Nat) : Nat :=
  let j := skipWhile (fun b => !endsScalar b) s s.size i
  if j == i + 10 && isDateTime (textOf s i j) && s[j]? == some 32 &&
      (s[j + 1]?.map isDigit).getD false then
    skipWhile (fun b => !endsScalar b) s s.size (j + 1)
  else j

/-! ## Keys -/

/-- A part of a key at `i`: quoted, or bare. -/
def readKeyPart (s : ByteArray) (i : Nat) : Step (String × Span) :=
  match s[i]? with
  | some 34 | some 39 =>
    match readLine s (s[i]? == some 34) i with
    | .ok ((t, span), j) => .ok ((t, span), j)
    | .error e => .error e
  | _ =>
    let j := skipWhile (fun b => !endsKey b) s s.size i
    if j == i then failAt i i "invalid key"
    else
      let t := textOf s i j
      if (s.extract i j).toList.all isBareKeyByte then .ok ((t, ⟨i, j⟩), j)
      else failAt i j "invalid unquoted key, expected letters, numbers, `-`, `_`"

/-- A dotted key at `i`: its parts and the offset after the last one. -/
def readKey (s : ByteArray) (i : Nat) : Step (List (String × Span)) :=
  let rec more : Nat → Nat → List (String × Span) → Step (List (String × Span))
    | 0, j, acc => .ok (acc.reverse, j)
    | fuel + 1, j, acc =>
      let k := skipBlanks s j
      if s[k]? == some 46 then
        match readKeyPart s (skipBlanks s (k + 1)) with
        | .ok (part, m) => more fuel m (part :: acc)
        | .error e => .error e
      else .ok (acc.reverse, j)
  match readKeyPart s i with
  | .ok (part, j) => more s.size j [part]
  | .error e => .error e

/-! ## Tables -/

/-- Whether an item is a table. -/
def Item.isTable : Item → Bool
  | .table _ _ => true
  | _ => false

/-- The span of an item. -/
def Item.span : Item → Span
  | .string _ sp | .integer _ sp | .float _ sp | .boolean _ sp | .datetime _ sp
  | .array _ sp | .table _ sp => sp

/-- The error of a key given twice. -/
def duplicate {α : Type} (span : Span) : Except Error α :=
  failAt span.start span.stop "duplicate key"

/-- Changes the entry of a key with `f`, which is given the entry found, if any; a new entry
goes last. -/
def modify (entries : List (String × Item)) (key : String)
    (f : Option Item → Except Error Item) : Except Error (List (String × Item)) :=
  match entries.find? (·.1 == key) with
  | some (_, old) =>
    (f (some old)).map fun v => entries.map fun (k, w) => if k == key then (k, v) else (k, w)
  | none => (f none).map fun v => entries ++ [(key, v)]

/-- Sets the value at a dotted key of a table; each part before the last names a table,
made when missing, and the last must be new. -/
def setPath (value : Item) : List (String × Span) → List (String × Item) →
    Except Error (List (String × Item))
  | [], entries => .ok entries
  | [(k, sp)], entries =>
    modify entries k fun
      | some _ => duplicate sp
      | none => .ok value
  | (k, sp) :: rest, entries =>
    modify entries k fun
      | some (.table inner tsp) => (setPath value rest inner).map (.table · tsp)
      | some _ => duplicate sp
      | none => (setPath value rest []).map (.table · sp)

/-- Changes the table at a path with `f`; an array on the path stands for its last table. -/
def atPath (f : List (String × Item) → Except Error (List (String × Item))) :
    List (String × Span) → List (String × Item) → Except Error (List (String × Item))
  | [], entries => f entries
  | (k, sp) :: rest, entries =>
    modify entries k fun
      | some (.table inner tsp) => (atPath f rest inner).map (.table · tsp)
      | some (.array items asp) =>
        match items.reverse with
        | .table inner tsp :: before =>
          (atPath f rest inner).map fun t => .array ((.table t tsp :: before).reverse) asp
        | _ => duplicate sp
      | some _ => duplicate sp
      | none => (atPath f rest []).map (.table · sp)

/-! ## Values -/

mutual

/-- A value at `i`. -/
def readValue (s : ByteArray) : Nat → Nat → Step Item
  | 0, i => failAt i i "invalid value"
  | fuel + 1, i =>
    match s[i]? with
    | some 34 | some 39 =>
      match readString s i with
      | .ok ((t, span), j) => .ok (.string t span, j)
      | .error e => .error e
    | some 91 => readItems s fuel i (i + 1) []
    | some 123 => readEntries s fuel i (i + 1) []
    | _ =>
      let j := scalarEnd s i
      match scalarOf (textOf s i j) ⟨i, j⟩ with
      | .ok item => .ok (item, j)
      | .error e => .error e

/-- The items of an array whose bracket stands at `i`, from `j` on. -/
def readItems (s : ByteArray) : Nat → Nat → Nat → List Item → Step Item
  | 0, _, j, _ => failAt j j "unclosed array, expected `]`"
  | fuel + 1, i, j, acc =>
    let j := skipSpace s s.size j
    if s[j]? == some 93 then .ok (.array acc.reverse ⟨i, j + 1⟩, j + 1)
    else
      match readValue s fuel j with
      | .error e => .error e
      | .ok (v, k) =>
        let k := skipSpace s s.size k
        match s[k]? with
        | some 44 => readItems s fuel i (k + 1) (v :: acc)
        | some 93 => .ok (.array (v :: acc).reverse ⟨i, k + 1⟩, k + 1)
        | _ => failAt k k "unclosed array, expected `]`"

/-- The entries of an inline table whose brace stands at `i`, from `j` on. -/
def readEntries (s : ByteArray) : Nat → Nat → Nat → List (String × Item) → Step Item
  | 0, _, j, _ => failAt j j "unclosed inline table, expected `\x7d`"
  | fuel + 1, i, j, acc =>
    let j := skipBlanks s j
    if s[j]? == some 125 && acc.isEmpty then .ok (.table acc ⟨i, j + 1⟩, j + 1)
    else
      match readKey s j with
      | .error e => .error e
      | .ok (key, k) =>
        let k := skipBlanks s k
        if s[k]? != some 61 then failAt k k "key with no value, expected `=`"
        else
          match readValue s fuel (skipBlanks s (k + 1)) with
          | .error e => .error e
          | .ok (v, m) =>
            match setPath v key acc with
            | .error e => .error e
            | .ok acc =>
              let m := skipBlanks s m
              match s[m]? with
              | some 44 => readEntries s fuel i (m + 1) acc
              | some 125 => .ok (.table acc ⟨i, m + 1⟩, m + 1)
              | _ => failAt m m "unclosed inline table, expected `\x7d`"

end

/-! ## Documents -/

/-- The state of reading a document: the root table, the path of the current table, and the
paths of the tables that headers have defined. -/
structure Reading where
  root : List (String × Item) := []
  current : List (String × Span) := []
  defined : List (List String) := []

/-- The offset after the end of a line from `i`: blanks, a comment, then a line break or the
end of the document. -/
def endLine (s : ByteArray) (i : Nat) : Except Error Nat :=
  let j := skipBlanks s i
  let j := if s[j]? == some 35 then skipComment s j else j
  match newlineAt s j with
  | some n => .ok (j + n)
  | none =>
    if j == s.size then .ok j
    else
      let stop := skipWhile (fun b => !endsScalar b) s s.size j
      failAt j (max stop (j + 1)) "unexpected content, expected newline, `#`"

/-- A key-value pair at `i` into the current table. -/
def keyValue (s : ByteArray) (r : Reading) (i : Nat) : Except Error (Reading × Nat) :=
  match readKey s i with
  | .error e => .error e
  | .ok (key, j) =>
    let j := skipBlanks s j
    if s[j]? != some 61 then
      failAt j (if j < s.size then j + 1 else j) "key with no value, expected `=`"
    else
      match readValue s (2 * s.size + 2) (skipBlanks s (j + 1)) with
      | .error e => .error e
      | .ok (v, k) =>
        match atPath (setPath v key) r.current r.root with
        | .error e => .error e
        | .ok root => (endLine s k).map fun m => ({ r with root }, m)

/-- A table header at `i`: `[path]` or `[[path]]`. -/
def header (s : ByteArray) (r : Reading) (i : Nat) : Except Error (Reading × Nat) :=
  let many := s[i + 1]? == some 91
  let open_ := if many then i + 2 else i + 1
  match readKey s (skipBlanks s open_) with
  | .error e => .error e
  | .ok (path, j) =>
    let j := skipBlanks s j
    let closed := if many then s[j]? == some 93 && s[j + 1]? == some 93 else s[j]? == some 93
    if !closed then
      failAt j j ("invalid table header, expected `" ++ (if many then "]]" else "]") ++ "`")
    else
      let after := if many then j + 2 else j + 1
      let names := path.map (·.1)
      match path.reverse with
      | [] => failAt j j "invalid table header"
      | (last, sp) :: before =>
        let parents := before.reverse
        let placed : Except Error (List (String × Item)) :=
          if many then
            atPath (fun entries => modify entries last fun
              | some (.array items asp) => .ok (.array (items ++ [.table [] sp]) asp)
              | some _ => duplicate sp
              | none => .ok (.array [.table [] sp] sp)) parents r.root
          else if r.defined.contains names then duplicate sp
          else
            atPath (fun entries => modify entries last fun
              | some (.table inner tsp) => .ok (.table inner tsp)
              | some _ => duplicate sp
              | none => .ok (.table [] sp)) parents r.root
        match placed with
        | .error e => .error e
        | .ok root =>
          (endLine s after).map fun m =>
            let defined := if many then r.defined else names :: r.defined
            ({ root, current := path, defined }, m)

/-- The lines of a document from `i`. -/
def lines (s : ByteArray) : Nat → Reading → Nat → Except Error Reading
  | 0, r, _ => .ok r
  | fuel + 1, r, i =>
    let i := skipBlanks s i
    match s[i]? with
    | none => .ok r
    | some 35 => lines s fuel r (skipComment s i)
    | some 91 =>
      match header s r i with
      | .ok (r, j) => lines s fuel r j
      | .error e => .error e
    | some _ =>
      match newlineAt s i with
      | some n => lines s fuel r (i + n)
      | none =>
        match keyValue s r i with
        | .ok (r, j) => lines s fuel r j
        | .error e => .error e

/-- The root table of a document. -/
def parse (text : String) : Except Error (List (String × Item)) :=
  let s := text.toUTF8
  (lines s (s.size + 1) {} 0).map (·.root)

end Courier.Toml
