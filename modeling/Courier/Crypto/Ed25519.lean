import Courier.Crypto.Sha512

/-!
# Ed25519 signatures

Ed25519 of RFC 8032 over the twisted Edwards curve `-x² + y² = 1 + d x² y²` modulo
`p = 2^255 - 19`, with points in affine coordinates and the complete addition law.

A 32-byte seed is hashed with SHA-512: the first half, clamped, is the secret scalar `a`, the
second half seeds the nonces. The public key is `[a]B` compressed: `y` little-endian with the
parity of `x` in the top bit. A signature of `M` is `R ‖ S` with `r = H(prefix ‖ M)`,
`R = [r]B`, `k = H(R ‖ A ‖ M)` and `S = r + k a` modulo the group order `ℓ`.

Multiples of the base point are sums of table entries `j · 16^i · B`, one for each hexadecimal
digit of the scalar; other multiples double and add over the bits.

A public key is accepted when its bytes decompress to a curve point; `y` need not be reduced.
Verification refuses an `S` of `ℓ` or more and otherwise accepts exactly when `[S]B - [k]A`
compresses to the bytes of `R`, where `k` hashes the key's bytes as they were given.
-/

namespace Courier.Crypto.Ed25519

/-- The field prime `2^255 - 19`. -/
def prime : Nat := Nat.pow 2 255 - 19

/-- The order of the base point. -/
def order : Nat := Nat.pow 2 252 + 27742317777372353535851937790883648493

/-- Remainder modulo the field prime. -/
def fe (n : Nat) : Nat := n % prime

/-- The bits of a number, the most significant first. -/
def bitsDown (n : Nat) : List Bool := (List.range (Nat.log2 n + 1)).reverse.map n.testBit

/-- `b ^ e` modulo `m`, by squaring over the bits of `e`. -/
def powMod (b e m : Nat) : Nat :=
  (bitsDown e).foldl (fun acc bit => let sq := acc * acc % m; if bit then sq * b % m else sq)
    (1 % m)

/-- The inverse modulo the field prime (zero has none and gives zero). -/
def inv (n : Nat) : Nat := powMod n (prime - 2) prime

/-- The difference `a - b` modulo the field prime. -/
def sub (a b : Nat) : Nat := fe (a + prime - fe b)

/-- The curve constant `d = -121665 / 121666`. -/
def curveD : Nat := fe ((prime - 121665) * inv 121666)

/-- A square root of `-1` modulo the field prime. -/
def sqrtMinusOne : Nat := powMod 2 ((prime - 1) / 4) prime

/-- A point of the curve in affine coordinates. -/
structure Point where
  x : Nat
  y : Nat
  deriving DecidableEq, Repr, Inhabited

namespace Point

/-- The neutral point `(0, 1)`. -/
def zero : Point := ⟨0, 1⟩

/-- The complete addition law. -/
def add (P Q : Point) : Point :=
  let t := fe (curveD * fe (P.x * Q.x) % prime * fe (P.y * Q.y))
  ⟨fe (fe (P.x * Q.y + Q.x * P.y) * inv (fe (1 + t))),
    fe (fe (P.y * Q.y + P.x * Q.x) * inv (sub 1 t))⟩

/-- The negated point `(-x, y)`. -/
def neg (P : Point) : Point := ⟨sub 0 P.x, P.y⟩

end Point

/-- A point in extended coordinates `(X : Y : Z : T)`, standing for `(X/Z, Y/Z)` with
`T = XY/Z`; sums need no inversion. -/
structure Extended where
  X : Nat
  Y : Nat
  Z : Nat
  T : Nat

namespace Extended

/-- The complete addition law in extended coordinates. -/
def add (P Q : Extended) : Extended :=
  let a := fe (sub P.Y P.X * sub Q.Y Q.X)
  let b := fe ((P.Y + P.X) * (Q.Y + Q.X))
  let c := fe (fe (P.T * 2 * curveD) * Q.T)
  let d := fe (P.Z * 2 * Q.Z)
  let e := sub b a
  let f := sub d c
  let g := fe (d + c)
  let h := fe (b + a)
  ⟨fe (e * f), fe (g * h), fe (f * g), fe (e * h)⟩

/-- The affine point it stands for. -/
def affine (P : Extended) : Point :=
  let zi := inv P.Z
  ⟨fe (P.X * zi), fe (P.Y * zi)⟩

end Extended

namespace Point

/-- The point in extended coordinates. -/
def extend (P : Point) : Extended := ⟨P.x, P.y, 1, fe (P.x * P.y)⟩

/-- `[k]P`, by doubling and adding over the bits of `k`. -/
def smul (k : Nat) (P : Point) : Point :=
  let e := P.extend
  ((bitsDown k).foldl (fun acc bit => let d := acc.add acc; if bit then d.add e else d)
    zero.extend).affine

/-- The square root of `u / v` with even representative, if `u / v` is a square. -/
def sqrtRatio (u v : Nat) : Option Nat :=
  let w := fe (u * inv v)
  let r := powMod w ((prime + 3) / 8) prime
  let r := if fe (r * r) == w then some r
    else if fe (r * r) == sub 0 w then some (fe (r * sqrtMinusOne)) else none
  r.map fun r => if r % 2 == 0 then r else sub 0 r

/-- The base point, with `y = 4/5` and even `x`. -/
def base : Point :=
  let y := fe (4 * inv 5)
  ⟨(sqrtRatio (sub (y * y) 1) (fe (curveD * y % prime * y + 1))).getD 0, y⟩

/-- The multiples `j · 16^i · B` of the base point for `j < 16`, one row for each `i < 64`,
in extended coordinates. -/
def baseTable : Array (Array Extended) :=
  let row (P : Extended) : Array Extended :=
    ((List.range 15).foldl (fun (acc, cur) _ => (acc.push (cur.add P), cur.add P))
      (#[zero.extend], zero.extend)).1
  let times16 (P : Extended) : Extended :=
    let P2 := P.add P
    let P4 := P2.add P2
    let P8 := P4.add P4
    P8.add P8
  ((List.range 64).foldl (fun (rows, P) _ => (rows.push (row P), times16 P))
    (#[], base.extend)).1

/-- `[k]B` for `k < 2^256`, as a sum of one table entry for each hexadecimal digit of `k`. -/
def baseMul (k : Nat) : Point :=
  ((List.range 64).foldl (fun acc i =>
    acc.add (((baseTable[i]?).bind (·[k / Nat.pow 16 i % 16]?)).getD zero.extend))
      zero.extend).affine

/-- The 32 little-endian bytes of a number. -/
def littleEndian (n : Nat) : ByteArray :=
  ⟨((List.range 32).map fun k => (n / Nat.pow 256 k % 256).toUInt8).toArray⟩

/-- The number of little-endian bytes. -/
def ofLittleEndian (b : ByteArray) : Nat :=
  b.toList.foldr (fun byte acc => acc * 256 + byte.toNat) 0

/-- The compressed form: `y` with the parity of `x` in the top bit. -/
def compress (P : Point) : ByteArray := littleEndian (P.y + (P.x % 2) * Nat.pow 2 255)

/-- The point of a compressed form, if the bytes name one; `y` is taken modulo the prime. -/
def decompress (b : ByteArray) : Option Point :=
  let n := ofLittleEndian b
  let y := fe (n % Nat.pow 2 255)
  let negative := n / Nat.pow 2 255 % 2 == 1
  let yy := fe (y * y)
  (sqrtRatio (sub yy 1) (fe (curveD * yy + 1))).map fun x =>
    ⟨if negative then sub 0 x else x, y⟩

end Point

/-- A number of 64 little-endian bytes, reduced modulo the group order. -/
def scalarOfHash (h : ByteArray) : Nat := Point.ofLittleEndian h % order

/-- The secret scalar of a seed: the first half of its hash, clamped. -/
def secretScalar (seed : ByteArray) : Nat :=
  let h := (Sha512.hash seed).extract 0 32
  let n := Point.ofLittleEndian h
  (n - n % 8) % Nat.pow 2 254 + Nat.pow 2 254

/-- The public key bytes of a seed. -/
def publicKey (seed : ByteArray) : ByteArray :=
  (Point.baseMul (secretScalar seed)).compress

/-- The signature of a message under a seed whose public key bytes are `pub`. -/
def signWith (seed pub msg : ByteArray) : ByteArray :=
  let a := secretScalar seed
  let pre := (Sha512.hash seed).extract 32 64
  let r := scalarOfHash (Sha512.hash (pre ++ msg))
  let bigR := (Point.baseMul r).compress
  let k := scalarOfHash (Sha512.hash (bigR ++ pub ++ msg))
  bigR ++ Point.littleEndian ((r + k * a) % order)

/-- The signature of a message under a seed. -/
def sign (seed msg : ByteArray) : ByteArray := signWith seed (publicKey seed) msg

/-- Whether a 64-byte signature of a message checks out under a public key given by its bytes
and its point. -/
def verify (keyBytes : ByteArray) (key : Point) (msg sig : ByteArray) : Bool :=
  let bigR := sig.extract 0 32
  let s := Point.ofLittleEndian (sig.extract 32 64)
  if order ≤ s then false
  else
    let k := scalarOfHash (Sha512.hash (bigR ++ keyBytes ++ msg))
    ((Point.baseMul s).add (key.neg.smul k)).compress == bigR

end Courier.Crypto.Ed25519
