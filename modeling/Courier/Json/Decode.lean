import Courier.Json.Reader

/-!
# Decoding JSON text into a shape

`decode shape bytes` reads one payload of the given shape from the whole text, blanks around
it allowed, and refuses anything after it.

The reads follow the shape: a string shape accepts only a string, a number shape only a
number (an integer read into `f64` is converted, a fraction is never an integer), a boolean
shape only `true` or `false`; an optional accepts `null` or its inner shape; a list and a
table accept their bracket; a record accepts an object of its fields (unknown keys skipped,
a repeated key refused, a missing field defaulted or refused) or a list of its fields in
order. Anything else is refused as an invalid type, naming the item found.

When a container's read fails with a mismatch, the reader still looks at the container's
closing bracket before placing the failure, so the failure is placed after it (or after the
blanks before whatever stands there instead).
-/

namespace Courier.Json

/-- Reads `true` or `false` after its first byte, or `null` after its `n`. -/
def readKeyword (s : ByteArray) (i : Nat) : Step Value :=
  match s[i]? with
  | some 110 => (readIdent s (i + 1) [117, 108, 108]).map fun (_, j) => (.null, j)
  | some 116 => (readIdent s (i + 1) [114, 117, 101]).map fun (_, j) => (.bool true, j)
  | _ => (readIdent s (i + 1) [97, 108, 115, 101]).map fun (_, j) => (.bool false, j)

/-- The item found where a shape expected something else: its kind is refused as an
invalid type once read (a container is not read at all). -/
def refuseItem {α : Type} (s : ByteArray) (expected : String) (i : Nat) : Step α :=
  let found : Except Failure (Unexpected × Nat) :=
    match s[i]? with
    | some 110 => (readIdent s (i + 1) [117, 108, 108]).map fun (_, j) => (.unit, j)
    | some 116 => (readIdent s (i + 1) [114, 117, 101]).map fun (_, j) => (.bool true, j)
    | some 102 => (readIdent s (i + 1) [97, 108, 115, 101]).map fun (_, j) => (.bool false, j)
    | some 45 => (readInteger s false (i + 1)).map fun (n, j) => (numberUnexpected n, j)
    | some 34 => (readString s (i + 1)).map fun (t, j) => (.str t, j)
    | some 91 => .ok (.seq, i)
    | some 123 => .ok (.map, i)
    | some b =>
      if isDigit b then (readInteger s true i).map fun (n, j) => (numberUnexpected n, j)
      else .error ⟨.fault .expectedSomeValue, some (min (i + 1) s.size), i⟩
    | none => .error ⟨.fault .expectedSomeValue, some (min (i + 1) s.size), i⟩
  match found with
  | .error f => .error f
  | .ok (u, j) => .error ⟨.mismatch (.invalidType u expected), some j, j⟩
where
  numberUnexpected : Number → Unexpected
    | .nat n => .unsigned n.toNat
    | .neg n => .signed n.toInt
    | .float x => .float x

/-- Before the next item of a list: whether there is one, and where it starts. -/
def nextItem (s : ByteArray) (first : Bool) (i : Nat) : Step Bool :=
  let j := skipBlank s i
  match s[j]? with
  | none => errPeek s .eofWhileParsingList j
  | some 93 => .ok (false, j)
  | some b =>
    if first then .ok (true, j)
    else if b == 44 then
      let k := skipBlank s (j + 1)
      match s[k]? with
      | some 93 => errPeek s .trailingComma k
      | some _ => .ok (true, k)
      | none => errPeek s .eofWhileParsingValue k
    else errPeek s .expectedListCommaOrEnd j

/-- Before the next member of an object: its key, if there is one. -/
def nextKey (s : ByteArray) (first : Bool) (i : Nat) : Step (Option String) :=
  let j := skipBlank s i
  match s[j]? with
  | none => errPeek s .eofWhileParsingObject j
  | some 125 => .ok (none, j)
  | some b =>
    if first then
      if b == 34 then (readString s (j + 1)).map fun (k, i') => (some k, i')
      else errPeek s .keyMustBeAString j
    else if b == 44 then
      let k := skipBlank s (j + 1)
      match s[k]? with
      | some 34 => (readString s (k + 1)).map fun (key, i') => (some key, i')
      | some 125 => errPeek s .trailingComma k
      | some _ => errPeek s .keyMustBeAString k
      | none => errPeek s .eofWhileParsingValue k
    else errPeek s .expectedObjectCommaOrEnd j

/-- The colon between a key and its value. -/
def readColon (s : ByteArray) (i : Nat) : Step Unit :=
  let j := skipBlank s i
  match s[j]? with
  | some 58 => .ok ((), j + 1)
  | some _ => errPeek s .expectedColon j
  | none => errPeek s .eofWhileParsingObject j

/-- The closing bracket of a list, and the index the reader stands on after looking. -/
def closeList (s : ByteArray) (i : Nat) : Except Failure Nat × Nat :=
  let j := skipBlank s i
  match s[j]? with
  | some 93 => (.ok (j + 1), j + 1)
  | some 44 =>
    let k := skipBlank s (j + 1)
    match s[k]? with
    | some 93 => (.error ⟨.fault .trailingComma, some (min (k + 1) s.size), k⟩, k)
    | _ => (.error ⟨.fault .trailingCharacters, some (min (k + 1) s.size), k⟩, k)
  | some _ => (.error ⟨.fault .trailingCharacters, some (min (j + 1) s.size), j⟩, j)
  | none => (.error ⟨.fault .eofWhileParsingList, some (min (j + 1) s.size), j⟩, j)

/-- The closing brace of an object, and the index the reader stands on after looking. -/
def closeObject (s : ByteArray) (i : Nat) : Except Failure Nat × Nat :=
  let j := skipBlank s i
  match s[j]? with
  | some 125 => (.ok (j + 1), j + 1)
  | some 44 => (.error ⟨.fault .trailingComma, some (min (j + 1) s.size), j⟩, j)
  | some _ => (.error ⟨.fault .trailingCharacters, some (min (j + 1) s.size), j⟩, j)
  | none => (.error ⟨.fault .eofWhileParsingObject, some (min (j + 1) s.size), j⟩, j)

/-- Finishes a container read: a failure inside is placed after looking at the closing
bracket; a success needs the bracket. -/
def finish {α : Type} (close : Nat → Except Failure Nat × Nat) : Step α → Step α
  | .error f =>
    match f.offset with
    | some _ => .error f
    | none => .error (f.place (close f.stood).2)
  | .ok (v, i) =>
    match (close i).1 with
    | .ok j => .ok (v, j)
    | .error f => .error f

mutual

/-- Reads a value of any form. -/
def readAny (s : ByteArray) (fuel depth : Nat) (i : Nat) : Step Value :=
  match fuel with
  | 0 => errAt .eofWhileParsingValue i
  | fuel + 1 =>
    let j := skipBlank s i
    match s[j]? with
    | none => errPeek s .eofWhileParsingValue j
    | some b =>
      if b == 110 || b == 116 || b == 102 then readKeyword s j
      else if b == 45 then (readInteger s false (j + 1)).map fun (n, k) => (.number n, k)
      else if isDigit b then (readInteger s true j).map fun (n, k) => (.number n, k)
      else if b == 34 then (readString s (j + 1)).map fun (t, k) => (.string t, k)
      else if b == 91 then
        if depth ≤ 1 then errPeek s .recursionLimitExceeded j
        else finish (closeList s) ((readAnyItems s fuel (depth - 1) true [] (j + 1)).map
          fun (xs, k) => (.array xs, k))
      else if b == 123 then
        if depth ≤ 1 then errPeek s .recursionLimitExceeded j
        else finish (closeObject s) ((readAnyMembers s fuel (depth - 1) true [] (j + 1)).map
          fun (ms, k) => (.object ms, k))
      else errPeek s .expectedSomeValue j

/-- Reads the items of a list of any values. -/
def readAnyItems (s : ByteArray) (fuel depth : Nat) (first : Bool) (acc : List Value) (i : Nat) :
    Step (List Value) :=
  match fuel with
  | 0 => errAt .eofWhileParsingValue i
  | fuel + 1 =>
    match nextItem s first i with
    | .error f => .error f
    | .ok (false, j) => .ok (acc.reverse, j)
    | .ok (true, j) =>
      match readAny s fuel depth j with
      | .error f => .error f
      | .ok (v, k) => readAnyItems s fuel depth false (v :: acc) k

/-- Reads the members of an object of any values, sorted by key, the last of a key kept. -/
def readAnyMembers (s : ByteArray) (fuel depth : Nat) (first : Bool)
    (acc : List (String × Value)) (i : Nat) : Step (List (String × Value)) :=
  match fuel with
  | 0 => errAt .eofWhileParsingValue i
  | fuel + 1 =>
    match nextKey s first i with
    | .error f => .error f
    | .ok (none, j) => .ok (acc, j)
    | .ok (some key, j) =>
      match readColon s j with
      | .error f => .error f
      | .ok (_, j) =>
        match readAny s fuel depth j with
        | .error f => .error f
        | .ok (v, k) => readAnyMembers s fuel depth false (Keyed.insert key v acc) k

end

/-- Reads a number for a numeric shape. -/
def readNumberAs (s : ByteArray) (shape : Shape) (i : Nat) : Step Value :=
  let j := skipBlank s i
  let read : Option (Step Number) :=
    match s[j]? with
    | some 45 => some (readInteger s false (j + 1))
    | some b => if isDigit b then some (readInteger s true j) else none
    | none => none
  match s[j]? with
  | none => errPeek s .eofWhileParsingValue j
  | some _ =>
    match read with
    | none => refuseItem s shape.expecting j
    | some (.error f) => .error f
    | some (.ok (n, k)) =>
      let r := match n with
        | .nat n => shape.ofUnsigned n.toNat
        | .neg n => shape.ofSigned n.toInt
        | .float x => shape.ofFloat x
      match r with
      | .ok v => .ok (v, k)
      | .error m => .error ⟨.mismatch m, some k, k⟩

mutual

/-- Reads a payload of a shape. -/
def readAs (s : ByteArray) (fuel depth : Nat) (shape : Shape) (i : Nat) : Step Value :=
  match fuel with
  | 0 => errAt .eofWhileParsingValue i
  | fuel + 1 =>
    match shape with
    | .any => readAny s (fuel + 1) depth i
    | .text =>
      let j := skipBlank s i
      match s[j]? with
      | none => errPeek s .eofWhileParsingValue j
      | some 34 => (readString s (j + 1)).map fun (t, k) => (.string t, k)
      | some _ => refuseItem s shape.expecting j
    | .int64 | .nat64 _ | .byte | .float => readNumberAs s shape i
    | .flag =>
      let j := skipBlank s i
      match s[j]? with
      | none => errPeek s .eofWhileParsingValue j
      | some 116 => (readIdent s (j + 1) [114, 117, 101]).map fun (_, k) => (.bool true, k)
      | some 102 => (readIdent s (j + 1) [97, 108, 115, 101]).map fun (_, k) => (.bool false, k)
      | some _ => refuseItem s shape.expecting j
    | .optional inner =>
      let j := skipBlank s i
      match s[j]? with
      | some 110 => (readIdent s (j + 1) [117, 108, 108]).map fun (_, k) => (.null, k)
      | _ => readAs s fuel depth inner j
    | .list inner =>
      let j := skipBlank s i
      match s[j]? with
      | none => errPeek s .eofWhileParsingValue j
      | some 91 =>
        if depth ≤ 1 then errPeek s .recursionLimitExceeded j
        else finish (closeList s) ((readItems s fuel (depth - 1) inner true [] (j + 1)).map
          fun (xs, k) => (.array xs, k))
      | some _ => refuseItem s shape.expecting j
    | .table inner =>
      let j := skipBlank s i
      match s[j]? with
      | none => errPeek s .eofWhileParsingValue j
      | some 123 =>
        if depth ≤ 1 then errPeek s .recursionLimitExceeded j
        else finish (closeObject s) ((readMembers s fuel (depth - 1) inner true [] (j + 1)).map
          fun (ms, k) => (.object ms, k))
      | some _ => refuseItem s shape.expecting j
    | .record name fields defaults =>
      let j := skipBlank s i
      match s[j]? with
      | none => errPeek s .eofWhileParsingValue j
      | some 91 =>
        if depth ≤ 1 then errPeek s .recursionLimitExceeded j
        else finish (closeList s)
          ((readFieldList s fuel (depth - 1) name fields.length defaults fields 0 [] (j + 1)).map
            fun (ms, k) => (.object ms, k))
      | some 123 =>
        if depth ≤ 1 then errPeek s .recursionLimitExceeded j
        else finish (closeObject s)
          ((readFieldMembers s fuel (depth - 1) fields defaults true [] (j + 1)).map
            fun (ms, k) => (.object ms, k))
      | some _ => refuseItem s shape.expecting j

/-- Reads the items of a list of one shape. -/
def readItems (s : ByteArray) (fuel depth : Nat) (inner : Shape) (first : Bool)
    (acc : List Value) (i : Nat) : Step (List Value) :=
  match fuel with
  | 0 => errAt .eofWhileParsingValue i
  | fuel + 1 =>
    match nextItem s first i with
    | .error f => .error f
    | .ok (false, j) => .ok (acc.reverse, j)
    | .ok (true, j) =>
      match readAs s fuel depth inner j with
      | .error f => .error f
      | .ok (v, k) => readItems s fuel depth inner false (v :: acc) k

/-- Reads the members of a table of one shape, sorted by key, the last of a key kept. -/
def readMembers (s : ByteArray) (fuel depth : Nat) (inner : Shape) (first : Bool)
    (acc : List (String × Value)) (i : Nat) : Step (List (String × Value)) :=
  match fuel with
  | 0 => errAt .eofWhileParsingValue i
  | fuel + 1 =>
    match nextKey s first i with
    | .error f => .error f
    | .ok (none, j) => .ok (acc, j)
    | .ok (some key, j) =>
      match readColon s j with
      | .error f => .error f
      | .ok (_, j) =>
        match readAs s fuel depth inner j with
        | .error f => .error f
        | .ok (v, k) => readMembers s fuel depth inner false (Keyed.insert key v acc) k

/-- Reads a record from a list of its fields in order. -/
def readFieldList (s : ByteArray) (fuel depth : Nat) (name : String) (count : Nat)
    (defaults : Option (List Value)) : List (String × Shape) → Nat → List (String × Value) →
    Nat → Step (List (String × Value))
  | [], _, acc, i => .ok (acc.reverse, i)
  | (field, shape) :: rest, idx, acc, i =>
    match fuel with
    | 0 => errAt .eofWhileParsingValue i
    | fuel + 1 =>
      match nextItem s (idx == 0) i with
      | .error f => .error f
      | .ok (false, j) =>
        match defaults with
        | some ds =>
          readFieldList s fuel depth name count defaults rest (idx + 1)
            ((field, ds.getD idx .null) :: acc) j
        | none => errShape (.invalidLength idx (recordLengthExpectation name count)) j
      | .ok (true, j) =>
        match readAs s fuel depth shape j with
        | .error f => .error f
        | .ok (v, k) =>
          readFieldList s fuel depth name count defaults rest (idx + 1) ((field, v) :: acc) k

/-- Reads the members of a record: known fields by name, unknown ones skipped, a repeated
field refused; missing fields are completed at the end. -/
def readFieldMembers (s : ByteArray) (fuel depth : Nat) (fields : List (String × Shape))
    (defaults : Option (List Value)) (first : Bool) (got : List (String × Value)) (i : Nat) :
    Step (List (String × Value)) :=
  match fuel with
  | 0 => errAt .eofWhileParsingValue i
  | fuel + 1 =>
    match nextKey s first i with
    | .error f => .error f
    | .ok (none, j) =>
      match Shape.completeRecord defaults fields got 0 with
      | .ok ms => .ok (ms, j)
      | .error m => errShape m j
    | .ok (some key, j) =>
      match fields.lookup key with
      | some shape =>
        if (Keyed.find? key got).isSome then errShape (.duplicateField key) j
        else
          match readColon s j with
          | .error f => .error f
          | .ok (_, j) =>
            match readAs s fuel depth shape j with
            | .error f => .error f
            | .ok (v, k) => readFieldMembers s fuel depth fields defaults false ((key, v) :: got) k
      | none =>
        match readColon s j with
        | .error f => .error f
        | .ok (_, j) =>
          match skipValue s j with
          | .error f => .error f
          | .ok (_, k) => readFieldMembers s fuel depth fields defaults false got k

end

/-- Reads one payload of a shape from a whole text, blanks around it allowed. -/
def decode (shape : Shape) (s : ByteArray) : Except Failure Value :=
  match readAs s (4 * s.size + 8) 128 shape 0 with
  | .error f => .error (f.place f.stood)
  | .ok (v, i) =>
    let j := skipBlank s i
    if j < s.size then .error ⟨.fault .trailingCharacters, some (min (j + 1) s.size), j⟩
    else .ok v

/-- Reads one JSON value of any form from a whole text. -/
def parse (s : ByteArray) : Except Failure Value := decode .any s

end Courier.Json
