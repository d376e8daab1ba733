import Courier.Proofs.Encodings

/-!
# Signed envelopes

Verification reads the first identity and signature values of the headers, empty when absent.
It looks for a key first (`keyFor`): on the allowlist under the lowercased identity when there is
an allowlist, else the key the identity decodes to; then it checks the signature under that key
(`checkSignature`). `verify_cases` says once everything a verification can do, and the laws
below are read off it: the exact conditions under which it passes (`verify_eq_ok_iff`) and
under which it fails with each error, in the order of the checks (`verify_eq_error_iff`).

What a signer stamps verifies for the same payload at every receiver that keeps no allowlist or
lists the signer's identity (`stamped_envelope_verifies`), also after other headers change or
the identity changes case. This rests on hexadecimal and Base64 reading undoing writing, which
is proved, and on Ed25519 accepting the signer's own signature, which is assumed
(`Ed25519.accepts`).
-/

namespace Courier

open Crypto

/-! ## Keyed lists built by insertion -/

namespace Keyed

variable {α : Type}

theorem find?_insert_ne {key k : String} (v : α) (xs : List (String × α)) (hne : key ≠ k) :
    find? key (insert k v xs) = find? key xs := by
  induction xs with
  | nil => simp [insert, find?, Ne.symm hne]
  | cons e rest ih =>
    obtain ⟨k', w⟩ := e
    by_cases h : k = k'
    · subst h; simp [insert, find?, Ne.symm hne]
    · by_cases hl : k < k'
      · simp [insert, find?, h, hl, Ne.symm hne]
      · simp [insert, find?, h, hl, ih]

theorem insert_ne_nil (key : String) (v : α) (xs : List (String × α)) : insert key v xs ≠ [] := by
  cases xs with
  | nil => simp [insert]
  | cons e rest =>
    obtain ⟨k, w⟩ := e
    by_cases h1 : key = k
    · simp [insert, h1]
    · by_cases h2 : key < k <;> simp [insert, h1, h2]

theorem find?_foldl_insert_of_ne (f : String → String) {name : String} {xs : List (String × α)}
    (h : ∀ e ∈ xs, f e.1 ≠ name) (acc : List (String × α)) :
    find? name (xs.foldl (fun acc e => insert (f e.1) e.2 acc) acc) = find? name acc := by
  induction xs generalizing acc with
  | nil => rfl
  | cons e xs ih =>
    rw [List.foldl_cons, ih (fun e' he' => h e' (List.mem_cons_of_mem _ he')),
      find?_insert_ne _ _ (Ne.symm (h e List.mem_cons_self))]

/-- Inserting entries in turn, where some key maps to `name` and every such key comes with the
value `v`, makes `name` find `v`. -/
theorem find?_foldl_insert_of_all (f : String → String) {name : String} {v : α}
    {xs : List (String × α)} (hsome : ∃ e ∈ xs, f e.1 = name)
    (hall : ∀ e ∈ xs, f e.1 = name → e.2 = v) (acc : List (String × α)) :
    find? name (xs.foldl (fun acc e => insert (f e.1) e.2 acc) acc) = some v := by
  induction xs generalizing acc with
  | nil => simp at hsome
  | cons e xs ih =>
    rw [List.foldl_cons]
    by_cases hlater : ∃ e' ∈ xs, f e'.1 = name
    · exact ih hlater (fun e' he' => hall e' (List.mem_cons_of_mem _ he')) _
    · -- `e` is the last entry for `name`
      simp only [not_exists, not_and] at hlater
      obtain ⟨e', he', hname⟩ := hsome
      have he : f e.1 = name := by
        rcases List.mem_cons.mp he' with rfl | hmem
        · exact hname
        · exact absurd hname (hlater e' hmem)
      rw [find?_foldl_insert_of_ne f hlater, he, hall e List.mem_cons_self he, find?_insert_self]

theorem eq_nil_of_foldl_insert (f : String → String) {xs acc : List (String × α)}
    (h : xs.foldl (fun acc e => insert (f e.1) e.2 acc) acc = []) : xs = [] := by
  induction xs generalizing acc with
  | nil => rfl
  | cons e xs ih =>
    rw [List.foldl_cons] at h
    cases xs with
    | nil => exact absurd h (insert_ne_nil _ _ _)
    | cons e' xs => exact absurd (ih h) (List.cons_ne_nil _ _)

end Keyed

/-! ## Keys and signatures -/

namespace Crypto.Ed25519

theorem littleEndian_size (n : Nat) : (Point.littleEndian n).size = 32 := by
  simp [Point.littleEndian, ByteArray.size]

theorem compress_size (P : Point) : P.compress.size = 32 := littleEndian_size _

theorem publicKey_size (seed : ByteArray) : (publicKey seed).size = 32 := compress_size _

theorem signWith_size (seed pub msg : ByteArray) : (signWith seed pub msg).size = 64 := by
  simp [signWith, ByteArray.size_append, compress_size, littleEndian_size]

theorem sign_size (seed msg : ByteArray) : (sign seed msg).size = 64 := signWith_size _ _ _

/-- Whether a seed's signature of a message checks out under the seed's own public key, whose
bytes must name a curve point. -/
def accepts (seed msg : ByteArray) : Bool :=
  (Point.decompress (publicKey seed)).any fun P => verify (publicKey seed) P msg (sign seed msg)

theorem exists_of_accepts {seed msg : ByteArray} (h : accepts seed msg = true) :
    ∃ P, Point.decompress (publicKey seed) = some P ∧
      verify (publicKey seed) P msg (sign seed msg) = true :=
  (Option.any_eq_true _ _).mp h

end Crypto.Ed25519

/-! ## Header values -/

namespace Headers

theorem get?_insert_self (h : Headers) (key value : String) :
    (h.insert key value).get? key = some value := by
  simp [get?, getAll, insert, Keyed.find?_insert_self]

theorem getAll_insert_ne (h : Headers) {key key' : String} (value : String)
    (hne : key' ≠ key) : (h.insert key value).getAll key' = h.getAll key' := by
  simp [getAll, insert, Keyed.find?_insert_ne _ _ hne]

theorem get?_insert_ne (h : Headers) {key key' : String} (value : String) (hne : key' ≠ key) :
    (h.insert key value).get? key' = h.get? key' :=
  congrArg List.head? (getAll_insert_ne h value hne)

/-- The first identity value, empty when there is none. -/
def identityValue (h : Headers) : String := (h.get? identity).getD ""

/-- The first signature value, empty when there is none. -/
def signatureValue (h : Headers) : String := (h.get? signature).getD ""

end Headers

namespace Identity

/-! ## Signers -/

theorem make_known (sk : Option SigningKey) (known : List (String × VerifyingKey)) :
    (make sk known).known = known.foldl (fun acc e => Keyed.insert (asciiLower e.1) e.2 acc) [] :=
  rfl

theorem make_known_eq_nil {sk : Option SigningKey} {known : List (String × VerifyingKey)} :
    (make sk known).known = [] ↔ known = [] := by
  rw [make_known]
  exact ⟨Keyed.eq_nil_of_foldl_insert _, fun h => by subst h; rfl⟩

theorem make_sign (k : SigningKey) (known : List (String × VerifyingKey)) (p : ByteArray) :
    (make (some k) known).sign p =
      some (Text.hexEncode (Ed25519.publicKey k.seed), Text.base64Encode (Ed25519.sign k.seed p)) :=
  rfl

theorem stamp_identity (k : SigningKey) (known : List (String × VerifyingKey)) (h : Headers)
    (p : ByteArray) (now : Int) :
    ((make (some k) known).stamp h p now).get? Headers.identity =
      some (Text.hexEncode (Ed25519.publicKey k.seed)) := by
  have hit : Headers.identity ≠ Headers.timestamp := by decide
  have his : Headers.identity ≠ Headers.signature := by decide
  simp only [stamp, make_sign]
  rw [Headers.get?_insert_ne _ _ hit, Headers.get?_insert_ne _ _ his, Headers.get?_insert_self]

theorem stamp_signature (k : SigningKey) (known : List (String × VerifyingKey)) (h : Headers)
    (p : ByteArray) (now : Int) :
    ((make (some k) known).stamp h p now).get? Headers.signature =
      some (Text.base64Encode (Ed25519.sign k.seed p)) := by
  have hst : Headers.signature ≠ Headers.timestamp := by decide
  simp only [stamp, make_sign]
  rw [Headers.get?_insert_ne _ _ hst, Headers.get?_insert_self]

/-- A stamp sets the identity, the signature and the time of sending, and no other name. -/
theorem getAll_stamp (id : Identity) (h : Headers) (p : ByteArray) (t : Int) {key : String}
    (hi : key ≠ Headers.identity) (hs : key ≠ Headers.signature) (ht : key ≠ Headers.timestamp) :
    (id.stamp h p t).getAll key = h.getAll key := by
  unfold stamp
  rw [Headers.getAll_insert_ne _ _ ht]
  split
  · rw [Headers.getAll_insert_ne _ _ hs, Headers.getAll_insert_ne _ _ hi]
  · rfl

theorem get?_stamp (id : Identity) (h : Headers) (p : ByteArray) (t : Int) {key : String}
    (hi : key ≠ Headers.identity) (hs : key ≠ Headers.signature) (ht : key ≠ Headers.timestamp) :
    (id.stamp h p t).get? key = h.get? key :=
  congrArg List.head? (getAll_stamp id h p t hi hs ht)

/-! ## What verification does -/

/-- The key a claimed identity is checked against: its allowlist entry when there is an
allowlist, else the key the identity decodes to. -/
def keyFor (id : Identity) (who : String) : Option VerifyingKey :=
  if id.known.isEmpty then (decodeIdentity who).toOption else Keyed.find? (asciiLower who) id.known

/-- The check of a signature text for a payload under a key: canonical Base64 of 64 bytes that
check out. -/
def checkSignature (k : VerifyingKey) (sig : String) (payload : ByteArray) :
    Except ServiceError Unit :=
  match Text.base64Decode sig with
  | none => .error .malformedSignature
  | some bytes =>
    if bytes.size != 64 then .error .malformedSignature
    else if Ed25519.verify k.bytes k.point payload bytes then .ok () else .error .invalidSignature

theorem decodeIdentity_error {who : String} {e : ServiceError}
    (h : decodeIdentity who = .error e) : e = .invalidIdentity := by
  unfold decodeIdentity at h
  split at h
  · cases h; rfl
  · split at h
    · cases h
    · cases h; rfl

theorem decodeIdentity_empty : decodeIdentity "" = .error .invalidIdentity := by
  simp [decodeIdentity, Text.hexDecode, Text.bytes_toList, Text.hexPairs, Except.map,
    VerifyingKey.ofBytes?, ByteArray.size]

theorem decodeIdentity_of_asciiLower {w : String} {b : ByteArray} {P : Ed25519.Point}
    (hw : asciiLower w = Text.hexEncode b) (hs : b.size = 32)
    (hP : Ed25519.Point.decompress b = some P) : decodeIdentity w = .ok ⟨b, P⟩ := by
  simp [decodeIdentity, Text.hexDecode_of_asciiLower hw, VerifyingKey.ofBytes?, hs, hP]

theorem keyFor_empty_of_nil {id : Identity} (hk : id.known = []) : id.keyFor "" = none := by
  simp [keyFor, hk, decodeIdentity_empty, Except.toOption]

/-- What verification does: refuse an unknown name, pass unsigned headers, refuse an identity
that does not decode, or check the signature under the identity's key. -/
theorem verify_cases (id : Identity) (h : Headers) (p : ByteArray) :
    (id.known ≠ [] ∧ Keyed.find? (asciiLower h.identityValue) id.known = none ∧
        id.verify h p = .error (.unknownIdentity h.identityValue)) ∨
      (id.known = [] ∧ h.identityValue = "" ∧ h.signatureValue = "" ∧ id.verify h p = .ok ()) ∨
      (id.known = [] ∧ ¬(h.identityValue = "" ∧ h.signatureValue = "") ∧
        (decodeIdentity h.identityValue).toOption = none ∧
        id.verify h p = .error .invalidIdentity) ∨
      (∃ k, id.keyFor h.identityValue = some k ∧
        id.verify h p = checkSignature k h.signatureValue p) := by
  simp only [Headers.identityValue, Headers.signatureValue] at *
  by_cases hk : id.known = []
  · -- no allowlist: unsigned headers pass, else the identity must decode
    by_cases hu : (h.get? Headers.identity).getD "" = "" ∧ (h.get? Headers.signature).getD "" = ""
    · exact .inr (.inl ⟨hk, hu.1, hu.2, by simp [verify, hk, hu]⟩)
    · cases hd : decodeIdentity ((h.get? Headers.identity).getD "") with
      | error e =>
        refine .inr (.inr (.inl ⟨hk, hu, rfl, ?_⟩))
        simp [verify, hk, hu, hd, Except.map, decodeIdentity_error hd]
      | ok k =>
        refine .inr (.inr (.inr ⟨k, by simp [keyFor, hk, hd, Except.toOption], ?_⟩))
        cases hb : Text.base64Decode ((h.get? Headers.signature).getD "") <;>
          simp [verify, hk, hu, hd, hb, Except.map, checkSignature]
  · cases hf : Keyed.find? (asciiLower ((h.get? Headers.identity).getD "")) id.known with
    | none => exact .inl ⟨hk, rfl, by simp [verify, hk, hf]⟩
    | some k =>
      refine .inr (.inr (.inr ⟨k, by simp [keyFor, hk, hf], ?_⟩))
      cases hb : Text.base64Decode ((h.get? Headers.signature).getD "") <;>
        simp [verify, hk, hf, hb, checkSignature]

/-- Once a key is found for the identity, verification is the signature check under it. -/
theorem verify_of_keyFor {id : Identity} {h : Headers} {p : ByteArray} {k : VerifyingKey}
    (hk : id.keyFor h.identityValue = some k) :
    id.verify h p = checkSignature k h.signatureValue p := by
  rcases verify_cases id h p with ⟨hne, hf, -⟩ | ⟨hnil, hw, -, -⟩ | ⟨hnil, -, hd, -⟩ | ⟨k', hk', hv⟩
  · simp [keyFor, hne, hf] at hk
  · rw [hw, keyFor_empty_of_nil hnil] at hk
    cases hk
  · simp [keyFor, hnil, hd] at hk
  · rw [hk] at hk'
    obtain rfl := Option.some.inj hk'
    exact hv

theorem checkSignature_eq_ok_iff {k : VerifyingKey} {sig : String} {p : ByteArray} :
    checkSignature k sig p = .ok () ↔ ∃ bytes, Text.base64Decode sig = some bytes ∧
      bytes.size = 64 ∧ Ed25519.verify k.bytes k.point p bytes = true := by
  unfold checkSignature
  cases Text.base64Decode sig with
  | none => simp
  | some bytes =>
    by_cases hs : bytes.size = 64
    · cases hv : Ed25519.verify k.bytes k.point p bytes <;> simp [hs, hv]
    · simp [hs]

theorem checkSignature_eq_error_iff {k : VerifyingKey} {sig : String} {p : ByteArray}
    {e : ServiceError} : checkSignature k sig p = .error e ↔
      ((∀ bytes, Text.base64Decode sig = some bytes → bytes.size ≠ 64) ∧ e = .malformedSignature) ∨
      ((∃ bytes, Text.base64Decode sig = some bytes ∧ bytes.size = 64 ∧
        Ed25519.verify k.bytes k.point p bytes = false) ∧ e = .invalidSignature) := by
  unfold checkSignature
  cases Text.base64Decode sig with
  | none =>
    simp only [Except.error.injEq, reduceCtorEq, false_and, exists_false, or_false, false_implies,
      implies_true, true_and]
    exact eq_comm
  | some bytes =>
    by_cases hs : bytes.size = 64
    · cases hv : Ed25519.verify k.bytes k.point p bytes
      · simp only [hs, hv, bne_self_eq_false, Bool.false_eq_true, if_false, Except.error.injEq,
          Option.some.injEq, forall_eq', ne_eq, not_true_eq_false, false_and, false_or,
          exists_eq_left', and_self, true_and]
        exact eq_comm
      · simp [hs, hv]
    · have hs' : (bytes.size != 64) = true := by simpa using hs
      simp [hs', hs]
      exact eq_comm

theorem checkSignature_base64Encode {k : VerifyingKey} {sig p : ByteArray} (hs : sig.size = 64)
    (hv : Ed25519.verify k.bytes k.point p sig = true) :
    checkSignature k (Text.base64Encode sig) p = .ok () :=
  checkSignature_eq_ok_iff.mpr ⟨sig, Text.base64Decode_base64Encode sig, hs, hv⟩

/-! ## When verification passes, and why it fails -/

/-- Verification passes exactly for unsigned headers without an allowlist, and for a signature
that is canonical Base64 of 64 bytes checking out under the identity's key. -/
theorem verify_eq_ok_iff (id : Identity) (h : Headers) (p : ByteArray) :
    id.verify h p = .ok () ↔
      (id.known = [] ∧ h.identityValue = "" ∧ h.signatureValue = "") ∨
      ∃ k bytes, id.keyFor h.identityValue = some k ∧
        Text.base64Decode h.signatureValue = some bytes ∧
        bytes.size = 64 ∧ Ed25519.verify k.bytes k.point p bytes = true := by
  rcases verify_cases id h p with
    ⟨hne, hf, hv⟩ | ⟨hnil, hw, hs, hv⟩ | ⟨hnil, hu, hd, hv⟩ | ⟨k, hk, hv⟩
  · -- an unknown name: no key, and the allowlist is not empty
    have hnone : id.keyFor h.identityValue = none := by simp [keyFor, hne, hf]
    simp [hv, hne, hnone]
  · simp [hv, hnil, hw, hs]
  · have hnone : id.keyFor h.identityValue = none := by simp [keyFor, hnil, hd]
    simp [hv, hnone, hu]
  · -- a key was found, so the headers were not unsigned without an allowlist
    have hsigned : ¬(id.known = [] ∧ h.identityValue = "" ∧ h.signatureValue = "") := by
      rintro ⟨hnil, hw, -⟩
      rw [hw, keyFor_empty_of_nil hnil] at hk
      cases hk
    rw [hv, checkSignature_eq_ok_iff]
    simp [hsigned, hk]

/-- Verification fails in this order: an unknown name on the allowlist, an identity that names no
key, a signature that is not Base64 of 64 bytes, and a signature that does not check out. -/
theorem verify_eq_error_iff (id : Identity) (h : Headers) (p : ByteArray) (e : ServiceError) :
    id.verify h p = .error e ↔
      (id.known ≠ [] ∧ Keyed.find? (asciiLower h.identityValue) id.known = none ∧
        e = .unknownIdentity h.identityValue) ∨
      (id.known = [] ∧ ¬(h.identityValue = "" ∧ h.signatureValue = "") ∧
        (decodeIdentity h.identityValue).toOption = none ∧ e = .invalidIdentity) ∨
      ((∃ k, id.keyFor h.identityValue = some k) ∧
        (∀ bytes, Text.base64Decode h.signatureValue = some bytes → bytes.size ≠ 64) ∧
        e = .malformedSignature) ∨
      ((∃ k bytes, id.keyFor h.identityValue = some k ∧
        Text.base64Decode h.signatureValue = some bytes ∧ bytes.size = 64 ∧
        Ed25519.verify k.bytes k.point p bytes = false) ∧ e = .invalidSignature) := by
  rcases verify_cases id h p with
    ⟨hne, hf, hv⟩ | ⟨hnil, hw, hs, hv⟩ | ⟨hnil, hu, hd, hv⟩ | ⟨k, hk, hv⟩
  · have hnone : id.keyFor h.identityValue = none := by simp [keyFor, hne, hf]
    rw [hv, Except.error.injEq]
    simp [hne, hf, hnone]
    exact eq_comm
  · simp [hv, hnil, hw, hs, keyFor_empty_of_nil hnil]
  · have hnone : id.keyFor h.identityValue = none := by simp [keyFor, hnil, hd]
    rw [hv, Except.error.injEq]
    simp [hnil, hu, hd, hnone]
    exact eq_comm
  · -- a key was found, so neither of the first two checks failed
    have hlisted : ¬(id.known ≠ [] ∧ Keyed.find? (asciiLower h.identityValue) id.known = none ∧
        e = .unknownIdentity h.identityValue) := by
      rintro ⟨hne, hf, -⟩
      simp [keyFor, hne, hf] at hk
    have hdecoded : ¬(id.known = [] ∧ ¬(h.identityValue = "" ∧ h.signatureValue = "") ∧
        (decodeIdentity h.identityValue).toOption = none ∧ e = .invalidIdentity) := by
      rintro ⟨hnil, -, hd, -⟩
      simp [keyFor, hnil, hd] at hk
    rw [hv, checkSignature_eq_error_iff, or_iff_right hlisted, or_iff_right hdecoded]
    simp [hk]

/-! ## Stamped envelopes verify -/

/-- The key a receiver finds for a signer's identity, written in any ASCII case: the allowlist's
entry for it, or the key the identity decodes to when there is no allowlist. -/
theorem keyFor_signer {seed : ByteArray} {P : Ed25519.Point}
    (hP : Ed25519.Point.decompress (Ed25519.publicKey seed) = some P) {rsk : Option SigningKey}
    {known : List (String × VerifyingKey)}
    (hknown : known = [] ∨
      ((∃ e ∈ known, asciiLower e.1 = Text.hexEncode (Ed25519.publicKey seed)) ∧
        ∀ e ∈ known, asciiLower e.1 = Text.hexEncode (Ed25519.publicKey seed) →
          e.2 = SigningKey.verifyingKey ⟨seed⟩))
    {w : String} (hw : asciiLower w = Text.hexEncode (Ed25519.publicKey seed)) :
    (make rsk known).keyFor w = some ⟨Ed25519.publicKey seed, P⟩ := by
  rcases hknown with rfl | ⟨hsome, hall⟩
  · have hd := decodeIdentity_of_asciiLower hw (Ed25519.publicKey_size seed) hP
    simp [keyFor, make_known, hd, Except.toOption]
  · have hne : (make rsk known).known ≠ [] := by
      rw [Ne, make_known_eq_nil]
      rintro rfl
      simp at hsome
    simp only [keyFor, List.isEmpty_iff, hne, if_false]
    rw [make_known, hw, Keyed.find?_foldl_insert_of_all _ hsome hall]
    simp [SigningKey.verifyingKey, hP]

/-- Headers stamped by a signer verify for the same payload at every receiver that keeps no
allowlist or lists the signer, also once other headers change and the identity changes case. -/
theorem stamped_envelope_verifies {seed p : ByteArray} {sknown known : List (String × VerifyingKey)}
    {rsk : Option SigningKey} {h h' : Headers} {now : Int}
    (hacc : Ed25519.accepts seed p = true)
    (hknown : known = [] ∨
      ((∃ e ∈ known, asciiLower e.1 = Text.hexEncode (Ed25519.publicKey seed)) ∧
        ∀ e ∈ known, asciiLower e.1 = Text.hexEncode (Ed25519.publicKey seed) →
          e.2 = SigningKey.verifyingKey ⟨seed⟩))
    (hid : (h'.get? Headers.identity).map asciiLower =
      (((make (some ⟨seed⟩) sknown).stamp h p now).get? Headers.identity).map asciiLower)
    (hsig : h'.get? Headers.signature =
      ((make (some ⟨seed⟩) sknown).stamp h p now).get? Headers.signature) :
    (make rsk known).verify h' p = .ok () := by
  obtain ⟨P, hP, hver⟩ := Ed25519.exists_of_accepts hacc
  -- the identity `h'` carries is the signer's, in some ASCII case
  obtain ⟨w, hw, hlow⟩ : ∃ w, h'.get? Headers.identity = some w ∧
      asciiLower w = Text.hexEncode (Ed25519.publicKey seed) := by
    rw [stamp_identity, Option.map_some, Text.asciiLower_hexEncode, Option.map_eq_some_iff] at hid
    exact hid
  have hkey : (make rsk known).keyFor w = some ⟨Ed25519.publicKey seed, P⟩ :=
    keyFor_signer hP hknown hlow
  have hidv : h'.identityValue = w := by simp [Headers.identityValue, hw]
  have hsigv : h'.signatureValue = Text.base64Encode (Ed25519.sign seed p) := by
    simp [Headers.signatureValue, hsig, stamp_signature]
  rw [← hidv] at hkey
  rw [verify_of_keyFor hkey, hsigv]
  exact checkSignature_base64Encode (Ed25519.sign_size seed p) hver

theorem seed_one_envelope_verifies :
    Ed25519.accepts (SigningKey.ofByte 1).seed "ping".toUTF8 = true ∧
      (make none []).verify ((make (some (SigningKey.ofByte 1)) []).stamp {} "ping".toUTF8 0)
        "ping".toUTF8 = .ok () := by
  have hacc : Ed25519.accepts (SigningKey.ofByte 1).seed "ping".toUTF8 = true := by decide +kernel
  exact ⟨hacc, stamped_envelope_verifies hacc (.inl rfl) rfl rfl⟩

end Identity

end Courier
