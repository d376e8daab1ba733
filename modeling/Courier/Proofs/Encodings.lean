import Courier.Identity

/-!
# Reading back hexadecimal and Base64 text

Reading undoes writing for both texts of bytes: `hexDecode_hexEncode` and
`base64Decode_base64Encode`. Hexadecimal reading takes digits of either case, so a text that
equals written hexadecimal up to ASCII case reads as the same bytes
(`hexDecode_of_asciiLower`), and written hexadecimal is already lowercase
(`asciiLower_hexEncode`).

The text of a byte array is read through its bytes; `bytes_toList` says that a byte array's list
is its data's list.
-/

namespace Courier.Text

/-! ## Bytes of text -/

/-- A byte array lists the bytes of its data. -/
theorem bytes_toList (b : ByteArray) : b.toList = b.data.toList := by
  have loop : ∀ i r, ByteArray.toList.loop b i r = r.reverse ++ b.data.toList.drop i := by
    intro i r
    induction i, r using ByteArray.toList.loop.induct b with
    | case1 i r hi ih =>
      rw [ByteArray.toList.loop, if_pos hi, ih]
      have hi' : i < b.data.toList.length := by simpa using hi
      rw [List.drop_eq_getElem_cons hi']
      simp [ByteArray.get!, hi]
    | case2 i r hi =>
      rw [ByteArray.toList.loop, if_neg hi]
      have hle : b.data.toList.length ≤ i := by simpa using Nat.le_of_not_lt hi
      simp [List.drop_eq_nil_of_le hle]
  unfold ByteArray.toList
  simpa using loop 0 []

/-- ASCII lowercase of one character. -/
def lowerAscii (c : Char) : Char := if 'A' ≤ c && c ≤ 'Z' then Char.ofNat (c.toNat + 32) else c

theorem asciiLower_eq_map (s : String) : asciiLower s = s.map lowerAscii := rfl

theorem toUTF8_toList_of_ascii {cs : List Char} (h : ∀ c ∈ cs, c.val ≤ 127) :
    (String.ofList cs).toUTF8.toList = cs.map (·.val.toUInt8) := by
  show (String.ofList cs).toByteArray.toList = _
  rw [String.toByteArray_ofList, bytes_toList, List.utf8Encode, List.toList_data_toByteArray]
  induction cs with
  | nil => rfl
  | cons c cs ih =>
    rw [List.flatMap_cons, String.utf8EncodeChar_eq_singleton
      (Char.utf8Size_eq_one_iff.mpr (h c List.mem_cons_self)),
      ih fun c hc => h c (List.mem_cons_of_mem _ hc)]
    rfl

/-! ## Hexadecimal -/

/-- The digits of one byte. -/
def hexPair (x : UInt8) : List Char := [hexDigit (x.toNat / 16), hexDigit (x.toNat % 16)]

theorem length_flatMap_hexPair (xs : List UInt8) : (xs.flatMap hexPair).length = 2 * xs.length := by
  induction xs with
  | nil => rfl
  | cons x xs ih => simp [hexPair, ih]; omega

theorem hexEncode_toList (b : ByteArray) : (hexEncode b).toList = b.toList.flatMap hexPair := by
  simp [hexEncode]
  rfl

theorem hexDigitValue_of_lowerAscii : ∀ m : Fin 128, ∀ k : Fin 16,
    lowerAscii (Char.ofNat m) = hexDigit k →
      hexDigitValue (Char.ofNat m).val.toUInt8 = some k := by
  decide

theorem hexDigit_ascii : ∀ k : Fin 16, (hexDigit k).val ≤ 127 := by decide

theorem digit_of_lowerAscii {c : Char} {n : Nat} (hn : n < 16) (h : lowerAscii c = hexDigit n) :
    c.val ≤ 127 ∧ hexDigitValue c.val.toUInt8 = some n := by
  by_cases hc : c.val ≤ 127
  · refine ⟨hc, ?_⟩
    have hlt : c.toNat < 128 := by
      have := UInt32.le_iff_toNat_le.mp hc
      have h127 : (127 : UInt32).toNat = 127 := rfl
      simp only [Char.toNat]
      omega
    have hofNat : Char.ofNat (⟨c.toNat, hlt⟩ : Fin 128).val = c := Char.ofNat_toNat c
    have := hexDigitValue_of_lowerAscii ⟨c.toNat, hlt⟩ ⟨n, hn⟩ (by rw [hofNat]; exact h)
    rwa [hofNat] at this
  · -- a character past ASCII is its own lowercase, and no digit is past ASCII
    exfalso
    have hZ : ¬ c ≤ 'Z' := fun hle => hc (UInt32.le_trans hle (by decide))
    have hself : lowerAscii c = c := by simp [lowerAscii, hZ]
    exact hc (hself ▸ h ▸ hexDigit_ascii ⟨n, hn⟩)

theorem hexPairs_of_lowerAscii (xs : List UInt8) {cs : List Char}
    (h : cs.map lowerAscii = xs.flatMap hexPair) (i : Nat) :
    hexPairs (cs.map (·.val.toUInt8)) i = .ok xs := by
  induction xs generalizing cs i with
  | nil =>
    have : cs = [] := by simpa using h
    subst this
    rfl
  | cons x xs ih =>
    -- the first two characters are the digits of `x`, the rest those of `xs`
    obtain ⟨c₁, c₂, rest, rfl, h₁, h₂, hrest⟩ :
        ∃ c₁ c₂ rest, cs = c₁ :: c₂ :: rest ∧ lowerAscii c₁ = hexDigit (x.toNat / 16) ∧
          lowerAscii c₂ = hexDigit (x.toNat % 16) ∧ rest.map lowerAscii = xs.flatMap hexPair := by
      match cs, h with
      | [], h => simp [hexPair] at h
      | [_], h => simp [hexPair] at h
      | c₁ :: c₂ :: rest, h =>
        simp only [List.map_cons, List.flatMap_cons, hexPair, List.cons_append, List.nil_append,
          List.cons.injEq] at h
        exact ⟨c₁, c₂, rest, rfl, h.1, h.2.1, h.2.2⟩
    have hx : x.toNat < 256 := x.toNat_lt_size
    have hv₁ := (digit_of_lowerAscii (by omega) h₁).2
    have hv₂ := (digit_of_lowerAscii (by omega) h₂).2
    simp only [List.map_cons, hexPairs, hv₁, hv₂, ih hrest, Except.map]
    congr 2
    rw [Nat.div_add_mod']
    exact UInt8.ofNat_toNat

theorem lowerAscii_hexDigit : ∀ k : Fin 16, lowerAscii (hexDigit k) = hexDigit k := by decide

theorem map_lowerAscii_hexPair (xs : List UInt8) :
    (xs.flatMap hexPair).map lowerAscii = xs.flatMap hexPair := by
  induction xs with
  | nil => rfl
  | cons x xs ih =>
    have hx : x.toNat < 256 := x.toNat_lt_size
    simp only [List.flatMap_cons, List.map_append, ih, hexPair, List.map_cons, List.map_nil]
    rw [lowerAscii_hexDigit ⟨_, by omega⟩, lowerAscii_hexDigit ⟨x.toNat % 16, by omega⟩]

/-- Written hexadecimal text is its own ASCII lowercase. -/
theorem asciiLower_hexEncode (b : ByteArray) : asciiLower (hexEncode b) = hexEncode b := by
  apply String.ext
  rw [asciiLower_eq_map, String.toList_map, hexEncode_toList, map_lowerAscii_hexPair]

/-- A text that is, up to ASCII case, the hexadecimal text of some bytes reads as them. -/
theorem hexDecode_of_asciiLower {w : String} {b : ByteArray} (h : asciiLower w = hexEncode b) :
    hexDecode w = .ok b := by
  have hmap : w.toList.map lowerAscii = b.toList.flatMap hexPair := by
    rw [← hexEncode_toList, ← h, asciiLower_eq_map, String.toList_map]
  -- every character is ASCII, so the text's bytes are its character codes
  have hascii : ∀ c ∈ w.toList, c.val ≤ 127 := by
    intro c hc
    have hmem : lowerAscii c ∈ b.toList.flatMap hexPair := hmap ▸ List.mem_map_of_mem hc
    obtain ⟨x, -, hx⟩ := List.mem_flatMap.mp hmem
    have hx256 : x.toNat < 256 := x.toNat_lt_size
    simp only [hexPair, List.mem_cons, List.not_mem_nil, or_false] at hx
    rcases hx with hx | hx
    · exact (digit_of_lowerAscii (by omega) hx).1
    · exact (digit_of_lowerAscii (by omega) hx).1
  have hbytes : w.toUTF8.toList = w.toList.map (·.val.toUInt8) := by
    have := toUTF8_toList_of_ascii hascii
    rwa [String.ofList_toList] at this
  have hlen : (w.toList.map (·.val.toUInt8)).length % 2 = 0 := by
    have := congrArg List.length hmap
    rw [List.length_map, length_flatMap_hexPair] at this
    rw [List.length_map, this]
    omega
  simp only [hexDecode, hbytes, hlen, bne_self_eq_false, Bool.false_eq_true, if_false,
    hexPairs_of_lowerAscii _ hmap, Except.map]
  rw [bytes_toList, Array.toArray_toList]

/-- Reading hexadecimal text gives back the bytes it was written from. -/
theorem hexDecode_hexEncode (b : ByteArray) : hexDecode (hexEncode b) = .ok b :=
  hexDecode_of_asciiLower (asciiLower_hexEncode b)

/-! ## Base64 -/

theorem base64Value_letter_fin : ∀ n : Fin 64, base64Value (base64Letter n) = some n := by decide

theorem base64Letter_ne_pad_fin : ∀ n : Fin 64, base64Letter n ≠ '=' := by decide +kernel

theorem base64Value_letter {n : Nat} (h : n < 64) : base64Value (base64Letter n) = some n :=
  base64Value_letter_fin ⟨n, h⟩

theorem base64Letter_ne_pad {n : Nat} (h : n < 64) : base64Letter n ≠ '=' :=
  base64Letter_ne_pad_fin ⟨n, h⟩

theorem toUInt8_of_eq {x : UInt8} {n : Nat} (h : n = x.toNat) : n.toUInt8 = x := by
  subst h
  exact UInt8.ofNat_toNat

theorem base64Groups_encode (l : List UInt8) :
    base64Groups ((groupsOfThree l).flatMap base64Group) = some l := by
  fun_induction groupsOfThree l with
  | case1 a b c rest ih =>
    -- a full group: four letters, none of them padding
    have ha : a.toNat < 256 := a.toNat_lt_size
    have hb : b.toNat < 256 := b.toNat_lt_size
    have hc : c.toNat < 256 := c.toNat_lt_size
    have v₁ := base64Value_letter
      (n := (a.toNat * 65536 + b.toNat * 256 + c.toNat) / 262144) (by omega)
    have v₂ := base64Value_letter
      (n := (a.toNat * 65536 + b.toNat * 256 + c.toNat) / 4096 % 64) (by omega)
    have v₃ := base64Value_letter
      (n := (a.toNat * 65536 + b.toNat * 256 + c.toNat) / 64 % 64) (by omega)
    have v₄ := base64Value_letter
      (n := (a.toNat * 65536 + b.toNat * 256 + c.toNat) % 64) (by omega)
    have hpad := base64Letter_ne_pad
      (n := (a.toNat * 65536 + b.toNat * 256 + c.toNat) % 64) (by omega)
    simp only [List.flatMap_cons, base64Group, List.map_cons, List.map_nil, List.cons_append,
      List.nil_append]
    rw [base64Groups.eq_4 _ _ _ _ _ (fun _ h _ => hpad h) (fun h _ => hpad h)]
    simp only [v₁, v₂, v₃, v₄, ih, Option.bind_eq_bind, Option.bind_some, List.cons_append,
      List.nil_append]
    rw [toUInt8_of_eq (x := a) (by omega), toUInt8_of_eq (x := b) (by omega),
      toUInt8_of_eq (x := c) (by omega)]
  | case2 => rfl
  | case3 rest h₁ h₂ =>
    -- a last group of one or two bytes, padded
    match rest, h₁, h₂ with
    | [], _, h₂ => exact absurd rfl h₂
    | [a], _, _ =>
      have ha : a.toNat < 256 := a.toNat_lt_size
      have v₁ := base64Value_letter (n := a.toNat * 65536 / 262144) (by omega)
      have v₂ := base64Value_letter (n := a.toNat * 65536 / 4096 % 64) (by omega)
      simp only [List.flatMap_cons, List.flatMap_nil, base64Group, List.map_cons, List.map_nil,
        List.cons_append, List.nil_append, List.append_nil, base64Groups.eq_2, v₁, v₂,
        Option.bind_eq_bind, Option.bind_some]
      have hz : a.toNat * 65536 / 4096 % 64 % 16 = 0 := by omega
      simp only [hz, bne_self_eq_false, Bool.false_eq_true, if_false]
      rw [toUInt8_of_eq (x := a) (by omega)]
    | [a, b], _, _ =>
      have ha : a.toNat < 256 := a.toNat_lt_size
      have hb : b.toNat < 256 := b.toNat_lt_size
      have v₁ := base64Value_letter (n := (a.toNat * 65536 + b.toNat * 256) / 262144) (by omega)
      have v₂ := base64Value_letter
        (n := (a.toNat * 65536 + b.toNat * 256) / 4096 % 64) (by omega)
      have v₃ := base64Value_letter (n := (a.toNat * 65536 + b.toNat * 256) / 64 % 64) (by omega)
      have hpad := base64Letter_ne_pad
        (n := (a.toNat * 65536 + b.toNat * 256) / 64 % 64) (by omega)
      simp only [List.flatMap_cons, List.flatMap_nil, base64Group, List.map_cons, List.map_nil,
        List.cons_append, List.nil_append, List.append_nil]
      rw [base64Groups.eq_3 _ _ _ hpad]
      have hz : (a.toNat * 65536 + b.toNat * 256) / 64 % 64 % 4 = 0 := by omega
      simp only [v₁, v₂, v₃, Option.bind_eq_bind, Option.bind_some, hz, bne_self_eq_false,
        Bool.false_eq_true, if_false]
      rw [toUInt8_of_eq (x := a) (by omega), toUInt8_of_eq (x := b) (by omega)]
    | _ :: _ :: _ :: _, h₁, _ => exact absurd rfl (h₁ _ _ _ _)

/-- Reading Base64 text gives back the bytes it was written from. -/
theorem base64Decode_base64Encode (b : ByteArray) : base64Decode (base64Encode b) = some b := by
  rw [base64Decode, base64Encode, String.toList_ofList, base64Groups_encode, Option.map_some,
    bytes_toList, Array.toArray_toList]

end Courier.Text
