import Courier.Number.Binary64
import Courier.Text.Quote

/-!
# CBOR item heads

Every CBOR data item starts with a head: a byte whose top three bits give the major type and
whose low five bits give either the argument itself (below 24), the number of argument bytes
that follow (1, 2, 4 or 8, big-endian), or, with 31, an indefinite length or a break. The low
values 28 to 30 are reserved and refused. Major type 7 holds the simple values and the
floating-point numbers of 16, 32 and 64 bits.

A refusal is a `CborError`, worded the way the decoder's diagnostics show it: a malformed
head names its byte offset, a shape mismatch gives its message, a text that ends early reports
the failed read.
-/

namespace Courier.Cbor

/-- The head of a data item. -/
inductive Head where
  | positive (n : Nat)
  | negative (n : Nat)
  | bytes (len : Option Nat)
  | text (len : Option Nat)
  | array (len : Option Nat)
  | map (len : Option Nat)
  | tag (n : Nat)
  | simple (n : Nat)
  | float (x : Binary64)
  | brk
  deriving Repr, Inhabited

/-- Why CBOR bytes cannot be decoded. -/
inductive CborError where
  /-- A reserved or misplaced head, or text that is not UTF-8, at this byte offset. -/
  | malformed (offset : Nat)
  /-- An item that does not fit what is decoded, with the offset when it is known. -/
  | semantic (offset : Option Nat) (msg : String)
  /-- The bytes end inside an item. -/
  | truncated
  /-- Containers nest deeper than the decoder follows. -/
  | tooDeep
  deriving Repr, Inhabited

/-- The diagnostic text of a refusal. -/
def CborError.message : CborError → String
  | .malformed o => "Syntax(" ++ toString o ++ ")"
  | .semantic none m => "Semantic(None, " ++ Text.quote m ++ ")"
  | .semantic (some o) m => "Semantic(Some(" ++ toString o ++ "), " ++ Text.quote m ++ ")"
  | .truncated =>
    "Io(Error \x7b kind: UnexpectedEof, message: \"failed to fill whole buffer\" \x7d)"
  | .tooDeep => "RecursionLimitExceeded"

/-- A read that yields a value and the offset after it. -/
abbrev Read (α : Type) := Except CborError (α × Nat)

/-- The big-endian number of `n` bytes at offset `i`. -/
def readBig (s : ByteArray) (i n : Nat) : Read Nat :=
  if i + n ≤ s.size then
    .ok ((List.range n).foldl (fun acc k => acc * 256 + (s[i + k]?.getD 0).toNat) 0, i + n)
  else .error .truncated

/-- The `n` bytes at offset `i`. -/
def readBytes (s : ByteArray) (i n : Nat) : Read ByteArray :=
  if i + n ≤ s.size then .ok (s.extract i (i + n), i + n) else .error .truncated

/-- The head at offset `i`, and the offset after it. -/
def readHead (s : ByteArray) (i : Nat) : Read Head :=
  match s[i]? with
  | none => .error .truncated
  | some b =>
    let major := b.toNat / 32
    let minor := b.toNat % 32
    let arg : Read (Option Nat) :=
      if minor < 24 then .ok (some minor, i + 1)
      else if minor == 24 then (readBig s (i + 1) 1).map fun (n, j) => (some n, j)
      else if minor == 25 then (readBig s (i + 1) 2).map fun (n, j) => (some n, j)
      else if minor == 26 then (readBig s (i + 1) 4).map fun (n, j) => (some n, j)
      else if minor == 27 then (readBig s (i + 1) 8).map fun (n, j) => (some n, j)
      else if minor == 31 then .ok (none, i + 1)
      else .error (.malformed i)
    match arg with
    | .error e => .error e
    | .ok (a, j) =>
      let whole (f : Nat → Head) : Read Head :=
        match a with
        | some n => .ok (f n, j)
        | none => .error (.malformed i)
      match major with
      | 0 => whole .positive
      | 1 => whole .negative
      | 2 => .ok (.bytes a, j)
      | 3 => .ok (.text a, j)
      | 4 => .ok (.array a, j)
      | 5 => .ok (.map a, j)
      | 6 => whole .tag
      | _ =>
        match a with
        | none => .ok (.brk, j)
        | some n =>
          if minor < 25 then .ok (.simple n, j)
          else if minor == 25 then .ok (.float (Binary64.ofBinary16Bits n), j)
          else if minor == 26 then .ok (.float (Binary64.ofBinary32Bits n), j)
          else .ok (.float ⟨n.toUInt64⟩, j)

end Courier.Cbor
