/-!
# SHA-512

The SHA-512 hash of FIPS 180-4: the message is padded with a one bit, zeros and its length in
bits to a multiple of 128 bytes, and each block is mixed into eight 64-bit words by eighty
rounds; the hash is the final words, big-endian.
-/

namespace Courier.Crypto.Sha512

/-- The round constants. -/
def roundConstants : Array UInt64 := #[
  0x428a2f98d728ae22, 0x7137449123ef65cd, 0xb5c0fbcfec4d3b2f,
  0xe9b5dba58189dbbc, 0x3956c25bf348b538, 0x59f111f1b605d019,
  0x923f82a4af194f9b, 0xab1c5ed5da6d8118, 0xd807aa98a3030242,
  0x12835b0145706fbe, 0x243185be4ee4b28c, 0x550c7dc3d5ffb4e2,
  0x72be5d74f27b896f, 0x80deb1fe3b1696b1, 0x9bdc06a725c71235,
  0xc19bf174cf692694, 0xe49b69c19ef14ad2, 0xefbe4786384f25e3,
  0x0fc19dc68b8cd5b5, 0x240ca1cc77ac9c65, 0x2de92c6f592b0275,
  0x4a7484aa6ea6e483, 0x5cb0a9dcbd41fbd4, 0x76f988da831153b5,
  0x983e5152ee66dfab, 0xa831c66d2db43210, 0xb00327c898fb213f,
  0xbf597fc7beef0ee4, 0xc6e00bf33da88fc2, 0xd5a79147930aa725,
  0x06ca6351e003826f, 0x142929670a0e6e70, 0x27b70a8546d22ffc,
  0x2e1b21385c26c926, 0x4d2c6dfc5ac42aed, 0x53380d139d95b3df,
  0x650a73548baf63de, 0x766a0abb3c77b2a8, 0x81c2c92e47edaee6,
  0x92722c851482353b, 0xa2bfe8a14cf10364, 0xa81a664bbc423001,
  0xc24b8b70d0f89791, 0xc76c51a30654be30, 0xd192e819d6ef5218,
  0xd69906245565a910, 0xf40e35855771202a, 0x106aa07032bbd1b8,
  0x19a4c116b8d2d0c8, 0x1e376c085141ab53, 0x2748774cdf8eeb99,
  0x34b0bcb5e19b48a8, 0x391c0cb3c5c95a63, 0x4ed8aa4ae3418acb,
  0x5b9cca4f7763e373, 0x682e6ff3d6b2b8a3, 0x748f82ee5defb2fc,
  0x78a5636f43172f60, 0x84c87814a1f0ab72, 0x8cc702081a6439ec,
  0x90befffa23631e28, 0xa4506cebde82bde9, 0xbef9a3f7b2c67915,
  0xc67178f2e372532b, 0xca273eceea26619c, 0xd186b8c721c0c207,
  0xeada7dd6cde0eb1e, 0xf57d4f7fee6ed178, 0x06f067aa72176fba,
  0x0a637dc5a2c898a6, 0x113f9804bef90dae, 0x1b710b35131c471b,
  0x28db77f523047d84, 0x32caab7b40c72493, 0x3c9ebe0a15c9bebc,
  0x431d67c49c100d4c, 0x4cc5d4becb3e42b6, 0x597f299cfc657e2a,
  0x5fcb6fab3ad6faec, 0x6c44198c4a475817]

/-- The initial hash value. -/
def initial : Array UInt64 := #[
  0x6a09e667f3bcc908, 0xbb67ae8584caa73b, 0x3c6ef372fe94f82b,
  0xa54ff53a5f1d36f1, 0x510e527fade682d1, 0x9b05688c2b3e6c1f,
  0x1f83d9abfb41bd6b, 0x5be0cd19137e2179]

/-- Rotation to the right. -/
def rotr (x : UInt64) (n : UInt64) : UInt64 := (x >>> n) ||| (x <<< (64 - n))

/-- The big-endian word of eight bytes from offset `i`. -/
def wordAt (b : ByteArray) (i : Nat) : UInt64 :=
  (List.range 8).foldl (fun acc k => (acc <<< 8) ||| (b[i + k]?.getD 0).toUInt64) 0

/-- The eighty words of the message schedule of the block at offset `i`. -/
def schedule (b : ByteArray) (i : Nat) : Array UInt64 :=
  let first := (List.range 16).map fun t => wordAt b (i + 8 * t)
  (List.range 64).foldl (fun (w : Array UInt64) t =>
    let w2 := w[t + 14]!
    let w15 := w[t + 1]!
    let s0 := rotr w15 1 ^^^ rotr w15 8 ^^^ (w15 >>> 7)
    let s1 := rotr w2 19 ^^^ rotr w2 61 ^^^ (w2 >>> 6)
    w.push (s1 + w[t + 9]! + s0 + w[t]!)) first.toArray

/-- One round over the working words `a … h` with schedule word `w` and constant `k`. -/
def round (v : Array UInt64) (k w : UInt64) : Array UInt64 :=
  let a := v[0]!; let b := v[1]!; let c := v[2]!; let d := v[3]!
  let e := v[4]!; let f := v[5]!; let g := v[6]!; let h := v[7]!
  let s1 := rotr e 14 ^^^ rotr e 18 ^^^ rotr e 41
  let ch := (e &&& f) ^^^ ((~~~ e) &&& g)
  let t1 := h + s1 + ch + k + w
  let s0 := rotr a 28 ^^^ rotr a 34 ^^^ rotr a 39
  let maj := (a &&& b) ^^^ (a &&& c) ^^^ (b &&& c)
  let t2 := s0 + maj
  #[t1 + t2, a, b, c, d + t1, e, f, g]

/-- Mixes the block at offset `i` into the hash words. -/
def compress (hash : Array UInt64) (b : ByteArray) (i : Nat) : Array UInt64 :=
  let w := schedule b i
  let v := (List.range 80).foldl (fun v t => round v roundConstants[t]! w[t]!) hash
  (List.range 8).toArray.map fun j => hash[j]! + v[j]!

/-- The padded message: a one bit, zeros, and the length in bits as 128 bits. -/
def pad (msg : ByteArray) : ByteArray :=
  let n := msg.size
  let zeros := (111 + 128 - n % 128) % 128
  let lenBytes := (List.range 16).reverse.map fun k => ((8 * n) / Nat.pow 256 k % 256).toUInt8
  msg ++ ⟨#[0x80]⟩ ++ ⟨(List.replicate zeros (0 : UInt8)).toArray⟩ ++ ⟨lenBytes.toArray⟩

/-- The SHA-512 hash of a message. -/
def hash (msg : ByteArray) : ByteArray :=
  let padded := pad msg
  let words :=
    (List.range (padded.size / 128)).foldl (fun h k => compress h padded (128 * k)) initial
  let bytes (w : UInt64) : List UInt8 :=
    (List.range 8).reverse.map fun k => (w >>> (8 * k).toUInt64).toUInt8
  ⟨(words.toList.flatMap bytes).toArray⟩

end Courier.Crypto.Sha512
