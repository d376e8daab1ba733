import Courier.Proofs.ScopedVars

/-!
# The allowlist and the order of its entries

An identity keeps its allowlist under lowercased names, folding the configured entries in one
after another. Two names equal up to ASCII case fold into one entry, and the entry folded in
last wins: the key kept under a lowercased name is the key of the last entry with that name
(`find?_make_known`).

So the allowlist, and every verification against it, is the same for every order of the
entries as long as names equal up to case carry the same key (`make_perm`), as they do when each
name is its key's own identity. When two such names carry different keys, the order decides
which key is kept, and a signature may pass in one order and fail in the other
(`case_folded_allowlist_depends_on_order`).
-/

namespace Courier

open Crypto

namespace Keyed

variable {α : Type}

/-- Entries inserted in turn under mapped keys: a key finds the value of the last entry whose key
maps to it, or else what it found before. -/
theorem find?_foldl_insert_map (f : String → String) (xs : List (String × α))
    (acc : List (String × α)) (n : String) :
    find? n (xs.foldl (fun acc e => insert (f e.1) e.2 acc) acc) =
      ((xs.reverse.find? fun e => f e.1 == n).map Prod.snd).or (find? n acc) := by
  induction xs generalizing acc with
  | nil => simp
  | cons e xs ih =>
    rw [List.foldl_cons, ih, List.reverse_cons, List.find?_append]
    by_cases he : f e.1 = n
    · -- `e` is the last entry so far for `n`, unless a later one is
      rw [← he, find?_insert_self]
      cases xs.reverse.find? (fun e' => f e'.1 == f e.1) <;> simp
    · rw [find?_insert_ne _ _ (Ne.symm he)]
      cases xs.reverse.find? (fun e' => f e'.1 == n) <;> simp [he]

theorem ordered_foldl_insert_map (f : String → String) (xs : List (String × α))
    {acc : List (String × α)} (h : Ordered acc) :
    Ordered (xs.foldl (fun acc e => insert (f e.1) e.2 acc) acc) := by
  have hmap := ordered_foldl_insert (xs.map fun e => (f e.1, e.2)) h
  rwa [List.foldl_map] at hmap

end Keyed

namespace Identity

/-- Names that are equal up to ASCII case carry the same key. -/
def CaseConsistent (known : List (String × VerifyingKey)) : Prop :=
  ∀ e ∈ known, ∀ e' ∈ known, asciiLower e.1 = asciiLower e'.1 → e.2 = e'.2

/-- The key kept under a lowercased name is the key of the last entry with that name. -/
theorem find?_make_known (sk : Option SigningKey) (known : List (String × VerifyingKey))
    (n : String) :
    Keyed.find? n (make sk known).known =
      (known.reverse.find? fun e => asciiLower e.1 == n).map Prod.snd := by
  rw [make_known, Keyed.find?_foldl_insert_map]
  cases (known.reverse.find? fun e => asciiLower e.1 == n) <;> rfl

/-- Without conflicting names, the last entry with a name carries the key that every entry with
that name carries. -/
theorem last_key_eq_some_iff {known : List (String × VerifyingKey)} (hc : CaseConsistent known)
    (n : String) (k : VerifyingKey) :
    (known.reverse.find? fun e => asciiLower e.1 == n).map Prod.snd = some k ↔
      ∃ e ∈ known, asciiLower e.1 = n ∧ e.2 = k := by
  constructor
  · intro h
    obtain ⟨e, he, rfl⟩ := Option.map_eq_some_iff.mp h
    exact ⟨e, List.mem_reverse.mp (List.mem_of_find?_eq_some he),
      by simpa using List.find?_some he, rfl⟩
  · rintro ⟨e, he, hn, rfl⟩
    cases hfind : known.reverse.find? fun e => asciiLower e.1 == n with
    | none =>
      have := List.find?_eq_none.mp hfind e (List.mem_reverse.mpr he)
      simp [hn] at this
    | some e' =>
      have hn' : asciiLower e'.1 = n := by simpa using List.find?_some hfind
      have he' := List.mem_reverse.mp (List.mem_of_find?_eq_some hfind)
      simp [hc e' he' e he (hn'.trans hn.symm)]

/-- The allowlist does not depend on the order of its entries when names equal up to ASCII case
carry the same key. -/
theorem make_perm (sk : Option SigningKey) {known known' : List (String × VerifyingKey)}
    (hp : known'.Perm known) (hc : CaseConsistent known) : make sk known' = make sk known := by
  have hc' : CaseConsistent known' := fun e he e' he' => hc e (hp.subset he) e' (hp.subset he')
  have hord : ∀ K : List (String × VerifyingKey), Keyed.Ordered (make sk K).known := fun K =>
    Keyed.ordered_foldl_insert_map asciiLower K List.Pairwise.nil
  -- an entry of an allowlist is a lowercased name with the key its entries carry
  have hmem : ∀ K : List (String × VerifyingKey), CaseConsistent K → ∀ n k,
      (n, k) ∈ (make sk K).known ↔ ∃ e ∈ K, asciiLower e.1 = n ∧ e.2 = k := by
    intro K hK n k
    rw [← Keyed.find?_eq_some_iff (hord K).nodup_keys, find?_make_known, last_key_eq_some_iff hK]
  have hknown : (make sk known').known = (make sk known).known := by
    apply Keyed.eq_of_mem_iff (hord known') (hord known)
    rintro ⟨n, k⟩
    rw [hmem known' hc', hmem known hc]
    exact exists_congr fun e => and_congr_left' hp.mem_iff
  simp only [make, Identity.mk.injEq, true_and]
  exact hknown

/-- The allowlist keeps, under each lowercased name, the key of the last entry folded in with
that name. So whenever names equal up to ASCII case carry the same key, verification gives the
same result for every order of the configured entries. -/
theorem allowlist_last_folded_wins (sk : Option SigningKey) (known : List (String × VerifyingKey)) :
    (∀ n, Keyed.find? n (make sk known).known =
      (known.reverse.find? fun e => asciiLower e.1 == n).map Prod.snd) ∧
    ∀ known', known'.Perm known → CaseConsistent known →
      ∀ (h : Headers) (p : ByteArray), (make sk known').verify h p = (make sk known).verify h p :=
  ⟨find?_make_known sk known, fun _ hp hc h p => by rw [make_perm sk hp hc]⟩

/-- With an allowlist, a claimed identity is checked against the key of the last entry whose
name equals it up to ASCII case. -/
theorem keyFor_of_ne_nil (sk : Option SigningKey) {known : List (String × VerifyingKey)}
    (hk : known ≠ []) (who : String) :
    (make sk known).keyFor who =
      (known.reverse.find? fun e => asciiLower e.1 == asciiLower who).map Prod.snd := by
  have hne : (make sk known).known ≠ [] := fun h => hk (make_known_eq_nil.mp h)
  simp only [keyFor, List.isEmpty_iff, hne, if_false]
  exact find?_make_known sk known (asciiLower who)

/-- Two differently named keys, listed in either order. -/
theorem allowlist_in_either_order :
    let known := [("alice", (SigningKey.ofByte 1).verifyingKey),
      ("bob", (SigningKey.ofByte 2).verifyingKey)]
    known.reverse.Perm known ∧ CaseConsistent known ∧
      ((∀ n, Keyed.find? n (make none known).known =
        (known.reverse.find? fun e => asciiLower e.1 == n).map Prod.snd) ∧
      ∀ known', known'.Perm known → CaseConsistent known →
        ∀ (h : Headers) (p : ByteArray), (make none known').verify h p = (make none known).verify h p) := by
  intro known
  have hab : asciiLower "alice" ≠ asciiLower "bob" := by decide +kernel
  have hc : CaseConsistent known := by
    intro e he e' he' hl
    simp only [known, List.mem_cons, List.mem_nil_iff, or_false] at he he'
    rcases he with rfl | rfl <;> rcases he' with rfl | rfl
    · rfl
    · exact absurd hl hab
    · exact absurd hl.symm hab
    · rfl
  exact ⟨List.reverse_perm known, hc, allowlist_last_folded_wins none known⟩

theorem ping_signature_checks :
    (Ed25519.accepts (SigningKey.ofByte 1).seed "ping".toUTF8 &&
      !Ed25519.verify (SigningKey.ofByte 2).verifyingKey.bytes
        (SigningKey.ofByte 2).verifyingKey.point "ping".toUTF8
        (Ed25519.sign (SigningKey.ofByte 1).seed "ping".toUTF8)) = true := by
  decide +kernel

/-- The names `A` and `a` fold into one allowlist entry. Listed with seed 2's key under `A`
first, seed 1's signature verifies for the claimed identity `a`; listed the other way round, it
does not. -/
theorem case_folded_allowlist_depends_on_order :
    let sig := Text.base64Encode (Ed25519.sign (SigningKey.ofByte 1).seed "ping".toUTF8)
    let h := (({} : Headers).insert Headers.identity "a").insert Headers.signature sig
    let known := [("A", (SigningKey.ofByte 2).verifyingKey), ("a", (SigningKey.ofByte 1).verifyingKey)]
    (known.map Prod.fst).Nodup ∧ known.reverse.Perm known ∧
      (make none known).verify h "ping".toUTF8 = .ok () ∧
      (make none known.reverse).verify h "ping".toUTF8 = .error .invalidSignature := by
  intro sig h known
  obtain ⟨hacc, hrej⟩ := Bool.and_eq_true_iff.mp ping_signature_checks
  obtain ⟨P, hP, hver⟩ := Ed25519.exists_of_accepts hacc
  have hk₁ : (SigningKey.ofByte 1).verifyingKey = ⟨Ed25519.publicKey (SigningKey.ofByte 1).seed, P⟩ := by
    simp [SigningKey.verifyingKey, hP]
  have hid : h.identityValue = "a" := by
    have hne : Headers.identity ≠ Headers.signature := by decide
    simp [h, Headers.identityValue, Headers.get?_insert_ne _ _ hne, Headers.get?_insert_self]
  have hsig : h.signatureValue = sig := by
    simp [h, Headers.signatureValue, Headers.get?_insert_self]
  have hA : asciiLower "A" = "a" := by decide +kernel
  have ha : asciiLower "a" = "a" := by decide +kernel
  -- either order keeps the key of the entry folded in last
  have hkey₁ : (make none known).keyFor h.identityValue = some (SigningKey.ofByte 1).verifyingKey := by
    rw [keyFor_of_ne_nil none (List.cons_ne_nil _ _), hid, ha]
    simp [ha]
  have hkey₂ : (make none known.reverse).keyFor h.identityValue =
      some (SigningKey.ofByte 2).verifyingKey := by
    rw [keyFor_of_ne_nil none (by simp [known]), hid, ha]
    simp [known, hA]
  have hnodup : (["A", "a"] : List String).Nodup := by decide
  refine ⟨hnodup, List.reverse_perm known, ?_, ?_⟩
  · rw [verify_of_keyFor hkey₁, hsig, hk₁]
    exact checkSignature_base64Encode (Ed25519.sign_size _ _) hver
  · rw [verify_of_keyFor hkey₂, hsig, checkSignature_eq_error_iff]
    exact .inr ⟨⟨_, Text.base64Decode_base64Encode _, Ed25519.sign_size _ _, by simpa using hrej⟩, rfl⟩

end Identity

end Courier
