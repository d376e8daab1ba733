import Courier.Cbor.Head
import Courier.Shape

/-!
# Decoding CBOR into a shape

`decode shape bytes` reads one data item of the given shape from the start of the bytes;
bytes after it are ignored.

Each shape accepts the heads that carry it, skipping any tags before them: a string shape
takes a text string (definite, or indefinite in definite chunks), an integer shape a positive
or negative integer or a tagged big number, the binary64 shape a floating-point number, the
boolean shape `false` or `true`, an optional `null` or `undefined` or its inner shape, a list
an array (or, for bytes, a byte string), a table or a record a map. A free-form value accepts
every item that has a JSON form: a byte string, a tag other than a short big number, and the
unassigned simple values are refused, and a NaN or an infinity becomes `null`.

Text is UTF-8 checked in chunks of 4096 bytes, the way it is read; a text that is not UTF-8
is refused at the offset of its head. Arrays, maps and tags nest at most 256 deep.
-/

namespace Courier.Cbor

open Json

/-- The kind of item a head starts, as mismatches name it. -/
def Head.unexpected : Head → Unexpected
  | .positive n => .unsigned n
  | .negative n =>
    .signed (-1 - (if n < Nat.pow 2 63 then (n : Int) else (n : Int) - Int.pow 2 64))
  | .bytes _ => .other "bytes"
  | .text _ => .other "string"
  | .array _ => .seq
  | .map _ => .map
  | .tag _ => .other "tag"
  | .simple 20 => .bool false
  | .simple 21 => .bool true
  | .simple 22 => .other "null"
  | .simple 23 => .other "undefined"
  | .simple _ => .other "simple"
  | .float x => .float x
  | .brk => .other "break"

/-- A refusal of a mismatch. -/
def mismatch (m : Mismatch) : CborError := .semantic none (m.message .plain)

/-- A refusal of the item a head starts, where `kind` was expected. -/
def refuse {α : Type} (h : Head) (kind : String) : Except CborError α :=
  .error (mismatch (.invalidType h.unexpected kind))

/-! ## Strings -/

/-- Whether a byte continues a UTF-8 sequence within the given bounds. -/
def within (lo hi : UInt8) (b : UInt8) : Bool := lo ≤ b && b ≤ hi

/-- The length of the UTF-8 sequence at the start of the bytes, if it is complete and valid. -/
def sequenceLength : List UInt8 → Option Nat
  | [] => none
  | c :: rest =>
    let follow : List (UInt8 × UInt8) :=
      if c < 0x80 then []
      else if within 0xC2 0xDF c then [(0x80, 0xBF)]
      else if c == 0xE0 then [(0xA0, 0xBF), (0x80, 0xBF)]
      else if c == 0xED then [(0x80, 0x9F), (0x80, 0xBF)]
      else if within 0xE1 0xEF c then [(0x80, 0xBF), (0x80, 0xBF)]
      else if c == 0xF0 then [(0x90, 0xBF), (0x80, 0xBF), (0x80, 0xBF)]
      else if within 0xF1 0xF3 c then [(0x80, 0xBF), (0x80, 0xBF), (0x80, 0xBF)]
      else if c == 0xF4 then [(0x80, 0x8F), (0x80, 0xBF), (0x80, 0xBF)]
      else [(1, 0)]
    if follow.length ≤ rest.length &&
        (follow.zip rest).all fun ((lo, hi), b) => within lo hi b then
      some (follow.length + 1)
    else none

/-- The length of the longest valid UTF-8 prefix, looking at most `fuel` sequences far. -/
def validPrefixWithin : Nat → List UInt8 → Nat
  | 0, _ => 0
  | fuel + 1, bytes =>
    match sequenceLength bytes with
    | some k => k + validPrefixWithin fuel (bytes.drop k)
    | none => 0

/-- The length of the longest valid UTF-8 prefix. -/
def validPrefix (bytes : List UInt8) : Nat := validPrefixWithin bytes.length bytes

/-- Reads one definite text chunk by chunk: chunks of at most 4096 bytes, the bytes of an
unfinished character carried to the next chunk; a chunk whose bad tail is longer than a
character could be, or a text that ends inside a character, is refused at `offset`. -/
def textChunks (s : ByteArray) (offset : Nat) :
    Nat → List UInt8 → Nat → Nat → Array UInt8 → Read (Array UInt8)
  | 0, _, _, i, acc => .ok (acc, i)
  | fuel + 1, saved, unread, i, acc =>
    if unread == 0 then
      if saved.isEmpty then .ok (acc, i) else .error (.malformed offset)
    else
      let size := min 4096 (saved.length + unread)
      let need := size - saved.length
      if s.size < i + need then .error .truncated
      else
        let full := saved ++ (s.extract i (i + need)).toList
        let v := validPrefix full
        if full.length - v > 3 then .error (.malformed offset)
        else textChunks s offset fuel (full.drop v) (unread - need) (i + need)
          (acc ++ (full.take v).toArray)

/-- Reads the chunks of a string item starting at offset `i` with its head: one chunk for a
definite length, for an indefinite length every definite chunk up to the break. -/
def segments (s : ByteArray) (text : Bool) : Nat → Nat → Bool → Nat → Array UInt8 →
    Read (Array UInt8)
  | 0, _, _, i, acc => .ok (acc, i)
  | fuel + 1, nested, finished, i, acc =>
    if finished then .ok (acc, i)
    else
      match readHead s i with
      | .error e => .error e
      | .ok (h, j) =>
        let len? : Option (Option Nat) :=
          match h, text with
          | .bytes l, false => some l
          | .text l, true => some l
          | _, _ => none
        match h, len? with
        | .brk, _ =>
          if nested == 1 then .ok (acc, j)
          else if 1 < nested then segments s text fuel (nested - 1) false j acc
          else .error (.malformed i)
        | _, none => .error (.malformed i)
        | _, some none => segments s text fuel (nested + 1) false j acc
        | _, some (some n) =>
          if text then
            match textChunks s i (n + 1) [] n j #[] with
            | .error e => .error e
            | .ok (bytes, k) => segments s text fuel nested (nested == 0) k (acc ++ bytes)
          else if s.size < j + n then .error .truncated
          else segments s text fuel nested (nested == 0) (j + n) (acc ++ (s.extract j (j + n)).data)

/-- The text of a string item whose head is at `i`, read in chunks. -/
def readText (s : ByteArray) (i : Nat) : Read String :=
  match segments s true (s.size + 2) 0 false i #[] with
  | .error e => .error e
  | .ok (bytes, j) =>
    match String.fromUTF8? ⟨bytes⟩ with
    | some t => .ok (t, j)
    | none => .error (.malformed i)

/-- The bytes of a byte-string item whose head is at `i`. -/
def readByteString (s : ByteArray) (i : Nat) : Read ByteArray :=
  (segments s false (s.size + 2) 0 false i #[]).map fun (b, j) => (⟨b⟩, j)

/-- A definite text of at most 4096 bytes read whole: its head at `i`, its bytes after `j`. -/
def readShortText (s : ByteArray) (i j n : Nat) : Read String :=
  match readBytes s j n with
  | .error e => .error e
  | .ok (b, k) =>
    match String.fromUTF8? b with
    | some t => .ok (t, k)
    | none => .error (.malformed i)

/-- Reads a string read whole when short and definite, skipping tags; `kind` names what is
expected otherwise. -/
def readStr (s : ByteArray) (kind : String) (allowBytes : Bool) : Nat → Nat → Read String
  | 0, i => .error (.malformed i)
  | fuel + 1, i =>
    match readHead s i with
    | .error e => .error e
    | .ok (.tag _, j) => readStr s kind allowBytes fuel j
    | .ok (.text (some n), j) =>
      if n ≤ 4096 then readShortText s i j n else refuse (.text (some n)) kind
    | .ok (.bytes (some n), j) =>
      if allowBytes && n ≤ 4096 then
        (readBytes s j n).map fun (b, k) => ((String.fromUTF8? b).getD "\x00", k)
      else refuse (.bytes (some n)) kind
    | .ok (h, _) => refuse h kind

/-- Reads a string in chunks, skipping tags before it. -/
def readString (s : ByteArray) : Nat → Nat → Read String
  | 0, i => .error (.malformed i)
  | fuel + 1, i =>
    match readHead s i with
    | .error e => .error e
    | .ok (.tag _, j) => readString s fuel j
    | .ok (.text _, _) => readText s i
    | .ok (h, _) => refuse h "string"

/-! ## Integers -/

/-- The value of big-endian bytes with leading zeros dropped; more than sixteen significant
bytes are refused. -/
def bigValue (bytes : List UInt8) : Except CborError Nat :=
  let digits := bytes.dropWhile (· == 0)
  if 16 < digits.length then .error (mismatch (.custom "bigint too large"))
  else .ok (digits.foldl (fun acc b => acc * 256 + b.toNat) 0)

/-- Reads an integer, skipping tags other than the big-number tags: whether it is negative,
and its magnitude as stored (a negative item `n` stands for `-1 - n`). -/
def readInteger (s : ByteArray) : Nat → Nat → Read (Bool × Nat)
  | 0, i => .error (.malformed i)
  | fuel + 1, i =>
    match readHead s i with
    | .error e => .error e
    | .ok (.positive n, j) => .ok ((false, n), j)
    | .ok (.negative n, j) => .ok ((true, n), j)
    | .ok (.tag t, j) =>
      if t == 2 || t == 3 then
        match readHead s j with
        | .error e => .error e
        | .ok (.bytes _, _) =>
          match readByteString s j with
          | .error e => .error e
          | .ok (b, k) => (bigValue b.toList).map fun v => ((t == 3, v), k)
        | .ok (h, _) => refuse h "bytes"
      else readInteger s fuel j
    | .ok (h, _) => refuse h "integer"

/-- The JSON number of a 128-bit integer, if it has one. -/
def numberOf128 (v : Int) : Except CborError Value :=
  if 0 ≤ v && v < Int.pow 2 64 then .ok (.nat v.toNat)
  else if -Int.pow 2 63 ≤ v && v < 0 then .ok (.int v)
  else .error (mismatch (.custom "JSON number out of range"))

/-- The 128-bit value of a negative big number of magnitude `raw`. -/
def negative128 (raw : Nat) : Int :=
  -1 - (if raw < Nat.pow 2 127 then (raw : Int) else (raw : Int) - Int.pow 2 128)

/-- The payload of a byte of a byte string read as a list item of shape `inner`. -/
def byteItem (inner : Shape) (b : UInt8) : Except CborError Value :=
  match inner with
  | .any => .ok (.nat b.toNat)
  | _ => (inner.ofUnsigned b.toNat).mapError mismatch

/-! ## Items -/

mutual

/-- Reads a free-form value at `i`; `lenient` skips an item without checking that it has a
JSON form (as for an unknown record field). -/
def readAny (s : ByteArray) (fuel depth : Nat) (lenient : Bool) (i : Nat) : Read Value :=
  match fuel with
  | 0 => .error (.malformed i)
  | fuel + 1 =>
    match readHead s i with
    | .error e => .error e
    | .ok (h, j) =>
      match h with
      | .positive n => .ok (.nat n, j)
      | .negative n =>
        if n < Nat.pow 2 63 then .ok (.int (-1 - (n : Int)), j)
        else if lenient then .ok (.null, j)
        else .error (mismatch (.custom "JSON number out of range"))
      | .bytes _ =>
        match readByteString s i with
        | .error e => .error e
        | .ok (_, k) =>
          if lenient then .ok (.null, k)
          else .error (mismatch (.invalidType .bytes "any valid JSON value"))
      | .text (some n) =>
        if n ≤ 4096 then (readShortText s i j n).map fun (t, k) => (.string t, k)
        else (readText s i).map fun (t, k) => (.string t, k)
      | .text none => (readText s i).map fun (t, k) => (.string t, k)
      | .array len =>
        if depth == 0 then .error .tooDeep
        else (readAnyItems s fuel (depth - 1) lenient len [] j).map fun (xs, k) => (.array xs, k)
      | .map len =>
        if depth == 0 then .error .tooDeep
        else (readAnyEntries s fuel (depth - 1) lenient true len [] j).map
          fun (ms, k) => (.object ms, k)
      | .tag t =>
        let big : Option Nat :=
          match readHead s j with
          | .ok (.bytes (some n), _) => if (t == 2 || t == 3) && n ≤ 16 then some n else none
          | _ => none
        match readHead s j with
        | .error e => .error e
        | .ok _ =>
          match big with
          | some _ =>
            match readByteString s j with
            | .error e => .error e
            | .ok (b, k) =>
              match bigValue b.toList with
              | .error e => .error e
              | .ok raw =>
                if lenient then .ok (.null, k)
                else if t == 2 then (numberOf128 raw).map fun v => (v, k)
                else (numberOf128 (negative128 raw)).map fun v => (v, k)
          | none =>
            if depth == 0 then .error .tooDeep
            else if lenient then readAny s fuel (depth - 1) true j
            else .error (mismatch (.invalidType .enum "any valid JSON value"))
      | .float x => .ok (if x.isFinite then .number (.float x) else .null, j)
      | .simple 20 => .ok (.bool false, j)
      | .simple 21 => .ok (.bool true, j)
      | .simple 22 | .simple 23 => .ok (.null, j)
      | .simple _ => .error (mismatch (.invalidType (.other "simple") "known simple value"))
      | .brk => .error (mismatch (.invalidType (.other "break") "non-break"))

/-- Reads the items of an array: `len` more, or up to the break. -/
def readAnyItems (s : ByteArray) (fuel depth : Nat) (lenient : Bool) (len : Option Nat)
    (acc : List Value) (i : Nat) : Read (List Value) :=
  match fuel with
  | 0 => .error (.malformed i)
  | fuel + 1 =>
    match len with
    | some 0 => .ok (acc.reverse, i)
    | some (n + 1) =>
      match readAny s fuel depth lenient i with
      | .error e => .error e
      | .ok (v, j) => readAnyItems s fuel depth lenient (some n) (v :: acc) j
    | none =>
      match readHead s i with
      | .error e => .error e
      | .ok (.brk, j) => .ok (acc.reverse, j)
      | .ok _ =>
        match readAny s fuel depth lenient i with
        | .error e => .error e
        | .ok (v, j) => readAnyItems s fuel depth lenient none (v :: acc) j

/-- Reads the entries of a map of free-form values: the first key is read whole, later keys
in chunks; the last value of a key wins. -/
def readAnyEntries (s : ByteArray) (fuel depth : Nat) (lenient first : Bool) (len : Option Nat)
    (acc : List (String × Value)) (i : Nat) : Read (List (String × Value)) :=
  match fuel with
  | 0 => .error (.malformed i)
  | fuel + 1 =>
    let entry (rest : Option Nat) : Read (List (String × Value)) :=
      let key : Read String :=
        if lenient then (readAny s fuel depth true i).map fun (_, k) => ("", k)
        else if first then readStr s "str" false (s.size + 1) i
        else readString s (s.size + 1) i
      match key with
      | .error e => .error e
      | .ok (key, j) =>
        match readAny s fuel depth lenient j with
        | .error e => .error e
        | .ok (v, k) => readAnyEntries s fuel depth lenient false rest (Keyed.insert key v acc) k
    match len with
    | some 0 => .ok (acc, i)
    | some (n + 1) => entry (some n)
    | none =>
      match readHead s i with
      | .error e => .error e
      | .ok (.brk, j) => .ok (acc, j)
      | .ok _ => entry none

end

mutual

/-- Reads a payload of a shape at `i`. -/
def readAs (s : ByteArray) (fuel depth : Nat) (shape : Shape) (i : Nat) : Read Value :=
  match fuel with
  | 0 => .error (.malformed i)
  | fuel + 1 =>
    match shape with
    | .any => readAny s (fuel + 1) depth false i
    | .text => (readString s (s.size + 1) i).map fun (t, k) => (.string t, k)
    | .int64 =>
      match readInteger s (s.size + 1) i with
      | .error e => .error e
      | .ok ((neg, raw), k) =>
        if raw < Nat.pow 2 63 then .ok (.int (if neg then -1 - (raw : Int) else raw), k)
        else .error (mismatch (.custom "integer too large"))
    | .nat64 _ | .byte =>
      match readInteger s (s.size + 1) i with
      | .error e => .error e
      | .ok ((true, _), _) => .error (mismatch (.custom "unexpected negative integer"))
      | .ok ((false, raw), k) =>
        if raw < Nat.pow 2 64 then (shape.ofUnsigned raw).mapError mismatch |>.map fun v => (v, k)
        else .error (mismatch (.custom "integer too large"))
    | .float =>
      match readHead s i with
      | .error e => .error e
      | .ok (.tag _, j) => readAs s fuel depth .float j
      | .ok (.float x, j) => .ok (.number (.float x), j)
      | .ok (h, _) => refuse h "float"
    | .flag =>
      match readHead s i with
      | .error e => .error e
      | .ok (.tag _, j) => readAs s fuel depth .flag j
      | .ok (.simple 20, j) => .ok (.bool false, j)
      | .ok (.simple 21, j) => .ok (.bool true, j)
      | .ok _ => .error (.semantic (some i) "expected bool")
    | .optional inner =>
      match readHead s i with
      | .error e => .error e
      | .ok (.simple 22, j) | .ok (.simple 23, j) => .ok (.null, j)
      | .ok _ => readAs s fuel depth inner i
    | .list inner =>
      match readHead s i with
      | .error e => .error e
      | .ok (.tag _, j) => readAs s fuel depth (.list inner) j
      | .ok (.array len, j) =>
        if depth == 0 then .error .tooDeep
        else (readItems s fuel (depth - 1) inner len [] j).map fun (xs, k) => (.array xs, k)
      | .ok (.bytes _, _) =>
        match readByteString s i with
        | .error e => .error e
        | .ok (b, k) => (b.toList.mapM (byteItem inner)).map fun xs => (.array xs, k)
      | .ok (h, _) => refuse h "array"
    | .table inner =>
      match readHead s i with
      | .error e => .error e
      | .ok (.tag _, j) => readAs s fuel depth (.table inner) j
      | .ok (.map len, j) =>
        if depth == 0 then .error .tooDeep
        else (readEntries s fuel (depth - 1) inner len [] j).map fun (ms, k) => (.object ms, k)
      | .ok (h, _) => refuse h "map"
    | .record name fields defaults =>
      match readHead s i with
      | .error e => .error e
      | .ok (.tag _, j) => readAs s fuel depth (.record name fields defaults) j
      | .ok (.map len, j) =>
        if depth == 0 then .error .tooDeep
        else (readFields s fuel (depth - 1) fields defaults len [] j).map
          fun (ms, k) => (.object ms, k)
      | .ok (h, _) => refuse h "map"

/-- Reads the items of an array of one shape. -/
def readItems (s : ByteArray) (fuel depth : Nat) (inner : Shape) (len : Option Nat)
    (acc : List Value) (i : Nat) : Read (List Value) :=
  match fuel with
  | 0 => .error (.malformed i)
  | fuel + 1 =>
    match len with
    | some 0 => .ok (acc.reverse, i)
    | some (n + 1) =>
      match readAs s fuel depth inner i with
      | .error e => .error e
      | .ok (v, j) => readItems s fuel depth inner (some n) (v :: acc) j
    | none =>
      match readHead s i with
      | .error e => .error e
      | .ok (.brk, j) => .ok (acc.reverse, j)
      | .ok _ =>
        match readAs s fuel depth inner i with
        | .error e => .error e
        | .ok (v, j) => readItems s fuel depth inner none (v :: acc) j

/-- Reads the entries of a table of one shape, keyed by strings; the last value of a key
wins. -/
def readEntries (s : ByteArray) (fuel depth : Nat) (inner : Shape) (len : Option Nat)
    (acc : List (String × Value)) (i : Nat) : Read (List (String × Value)) :=
  match fuel with
  | 0 => .error (.malformed i)
  | fuel + 1 =>
    let entry (rest : Option Nat) : Read (List (String × Value)) :=
      match readString s (s.size + 1) i with
      | .error e => .error e
      | .ok (key, j) =>
        match readAs s fuel depth inner j with
        | .error e => .error e
        | .ok (v, k) => readEntries s fuel depth inner rest (Keyed.insert key v acc) k
    match len with
    | some 0 => .ok (acc, i)
    | some (n + 1) => entry (some n)
    | none =>
      match readHead s i with
      | .error e => .error e
      | .ok (.brk, j) => .ok (acc, j)
      | .ok _ => entry none

/-- Reads the entries of a record: known fields by name (a repeated one refused), unknown ones
skipped; missing fields are completed at the end. -/
def readFields (s : ByteArray) (fuel depth : Nat) (fields : List (String × Shape))
    (defaults : Option (List Value)) (len : Option Nat) (got : List (String × Value)) (i : Nat) :
    Read (List (String × Value)) :=
  match fuel with
  | 0 => .error (.malformed i)
  | fuel + 1 =>
    let finish (j : Nat) : Read (List (String × Value)) :=
      match Shape.completeRecord defaults fields got 0 with
      | .ok ms => .ok (ms, j)
      | .error m => .error (mismatch m)
    let entry (rest : Option Nat) : Read (List (String × Value)) :=
      match readStr s "str or bytes" true (s.size + 1) i with
      | .error e => .error e
      | .ok (key, j) =>
        match fields.lookup key with
        | some shape =>
          if (Keyed.find? key got).isSome then .error (mismatch (.duplicateField key))
          else
            match readAs s fuel depth shape j with
            | .error e => .error e
            | .ok (v, k) => readFields s fuel depth fields defaults rest ((key, v) :: got) k
        | none =>
          match readAny s fuel depth true j with
          | .error e => .error e
          | .ok (_, k) => readFields s fuel depth fields defaults rest got k
    match len with
    | some 0 => finish i
    | some (n + 1) => entry (some n)
    | none =>
      match readHead s i with
      | .error e => .error e
      | .ok (.brk, j) => finish j
      | .ok _ => entry none

end

/-- Reads one payload of a shape from the start of the bytes. -/
def decode (shape : Shape) (s : ByteArray) : Except CborError Value :=
  (readAs s (4 * s.size + 8) 256 shape 0).map Prod.fst

end Courier.Cbor
