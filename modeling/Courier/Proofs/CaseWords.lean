import Courier.Proofs.Tokens
import Courier.Rpc.Derive

/-!
# The words of a name in capitalized words

A name such as `PKGFarAway` is read as words in two steps: normalizing folds the inside of a
leading run of capitals, and splitting cuts before every capital after the first character and
lowercases the pieces. Main statement (`words_cut_before_capitals`): on ASCII names the two steps
together cut the lowercased name before each capital that is not the first character and comes at
or after the last capital of the leading run; a name without lowercase letters is one word. The
cut is stated without the algorithm (`CutBefore`): nonempty pieces that join to the text and start
exactly at the chosen positions.

On ASCII the case tables agree with the ASCII case of the standard library: a capital is `A` to
`Z`, and lowercasing moves it to `a` to `z` (`isUppercase_of_ascii`, `lowerChar_of_ascii`).
-/

namespace Courier.Text

/-! ## Case of ASCII characters -/

theorem ascii_forall {P : Char → Prop} (h : ∀ n : Fin 128, P (Char.ofNat n)) {c : Char}
    (hc : c.isAscii) : P c := by
  have hlt : c.toNat < 128 := by simpa [Char.isAscii] using hc
  simpa using h ⟨c.toNat, hlt⟩

theorem inRun_of_lt_first {n : Nat} {r : Nat × Nat × Nat} (h : n < r.1) : inRun n r = false := by
  obtain ⟨first, count, step⟩ := r
  have : ¬ first ≤ n := by simpa using h
  simp [inRun, this]

/-- The image of an ASCII character under a mapping whose first run is the only one, and whose
special entries are the only ones, below `0x80`. -/
theorem mapChar_of_ascii {runs : List (Nat × Nat × Nat × Int)} {special : List (Nat × List Nat)}
    {first count step : Nat} {d : Int} {tail : List (Nat × Nat × Nat × Int)}
    (hruns : runs = (first, count, step, d) :: tail) (htail : ∀ r ∈ tail, 0x80 ≤ r.1)
    (hspecial : ∀ e ∈ special, 0x80 ≤ e.1) {c : Char} (hc : c.isAscii) :
    mapChar runs special c =
      if inRun c.toNat (first, count, step) then [Char.ofNat ((c.toNat : Int) + d).toNat] else [c] := by
  have hlt : c.toNat < 0x80 := by simpa [Char.isAscii] using hc
  have hlookup : special.lookup c.toNat = none := by
    rw [List.lookup_eq_none_iff]
    intro e he
    have := hspecial e he
    exact bne_iff_ne.2 (by omega)
  unfold mapChar
  -- the runs of the tail start at `0x80` or above, so the search stops at the first run
  rw [hlookup, hruns, List.find?_cons, List.find?_eq_none.2 ?tail]
  · cases h : inRun c.toNat (first, count, step) <;> simp [h]
  case tail =>
    intro r hr
    obtain ⟨f, k, s, e⟩ := r
    simpa using inRun_of_lt_first (r := (f, k, s)) (lt_of_lt_of_le hlt (htail _ hr))

theorem uppercaseRuns_cons : uppercaseRuns = (0x41, 26, 1) :: uppercaseRuns.tail := rfl

theorem uppercaseRuns_tail_ge : ∀ r ∈ uppercaseRuns.tail, 0x80 ≤ r.1 := by decide +kernel

theorem lowercaseRuns_cons : lowercaseRuns = (0x41, 26, 1, 32) :: lowercaseRuns.tail := rfl

theorem lowercaseRuns_tail_ge : ∀ r ∈ lowercaseRuns.tail, 0x80 ≤ r.1 := by decide +kernel

theorem lowercaseSpecial_ge : ∀ e ∈ lowercaseSpecial, 0x80 ≤ e.1 := by decide +kernel

theorem uppercaseMapRuns_cons : uppercaseMapRuns = (0x61, 26, 1, -32) :: uppercaseMapRuns.tail :=
  rfl

theorem uppercaseMapRuns_tail_ge : ∀ r ∈ uppercaseMapRuns.tail, 0x80 ≤ r.1 := by decide +kernel

theorem uppercaseSpecial_ge : ∀ e ∈ uppercaseSpecial, 0x80 ≤ e.1 := by decide +kernel

/-- An ASCII character is a capital exactly when it is `A` to `Z`. -/
theorem isUppercase_of_ascii {c : Char} (hc : c.isAscii) : isUppercase c = c.isUpper := by
  have hlt : c.toNat < 0x80 := by simpa [Char.isAscii] using hc
  have hrest : uppercaseRuns.tail.any (inRun c.toNat) = false :=
    List.any_eq_false.2 fun r hr => by
      simp [inRun_of_lt_first (lt_of_lt_of_le hlt (uppercaseRuns_tail_ge r hr))]
  rw [isUppercase, uppercaseRuns_cons, List.any_cons, hrest, Bool.or_false]
  exact @ascii_forall (fun c => inRun c.toNat (0x41, 26, 1) = c.isUpper) (by decide) c hc

/-- Lowercasing an ASCII character moves `A` to `Z` to `a` to `z` and keeps the rest. -/
theorem lowerChar_of_ascii {c : Char} (hc : c.isAscii) : lowerChar c = [c.toLower] := by
  rw [lowerChar, mapChar_of_ascii lowercaseRuns_cons lowercaseRuns_tail_ge lowercaseSpecial_ge hc]
  exact @ascii_forall (fun c => (if inRun c.toNat (0x41, 26, 1) then
    [Char.ofNat ((c.toNat : Int) + 32).toNat] else [c]) = [c.toLower]) (by decide) c hc

theorem upperChar_of_ascii {c : Char} (hc : c.isAscii) : upperChar c = [c.toUpper] := by
  rw [upperChar, mapChar_of_ascii uppercaseMapRuns_cons uppercaseMapRuns_tail_ge
    uppercaseSpecial_ge hc]
  exact @ascii_forall (fun c => (if inRun c.toNat (0x61, 26, 1) then
    [Char.ofNat ((c.toNat : Int) + -32).toNat] else [c]) = [c.toUpper]) (by decide) c hc

theorem isUpper_toLower {c : Char} (hc : c.isAscii) : c.toLower.isUpper = false :=
  @ascii_forall (fun c => c.toLower.isUpper = false) (by decide) c hc

theorem isAscii_toLower {c : Char} (hc : c.isAscii) : c.toLower.isAscii :=
  @ascii_forall (fun c => c.toLower.isAscii) (by decide) c hc

theorem toLower_toLower {c : Char} (hc : c.isAscii) : c.toLower.toLower = c.toLower :=
  @ascii_forall (fun c => c.toLower.toLower = c.toLower) (by decide) c hc

theorem toLower_of_not_isUpper {c : Char} (hc : c.isAscii) (h : c.isUpper = false) :
    c.toLower = c :=
  @ascii_forall (fun c => c.isUpper = false → c.toLower = c) (by decide) c hc h

theorem toUpper_eq_self_iff {c : Char} (hc : c.isAscii) : c.toUpper = c ↔ c.isLower = false :=
  @ascii_forall (fun c => c.toUpper = c ↔ c.isLower = false) (by decide) c hc

theorem ne_capital_sigma {c : Char} (hc : c.isAscii) : c ≠ 'Σ' :=
  @ascii_forall (fun c => c ≠ 'Σ') (by decide) c hc

/-! ## Case of ASCII texts -/

theorem lowerFrom_of_ascii (before : List Char) {cs : List Char} (h : ∀ c ∈ cs, c.isAscii) :
    lowerFrom before cs = cs.map Char.toLower := by
  induction cs generalizing before with
  | nil => rfl
  | cons c rest ih =>
    have hc := h c List.mem_cons_self
    have hsigma : (c == 'Σ') = false := beq_false_of_ne (ne_capital_sigma hc)
    simp [lowerFrom, hsigma, lowerChar_of_ascii hc, ih _ fun x hx => h x (List.mem_cons_of_mem c hx)]

/-- An ASCII text is lowercased character by character, as the standard library does. -/
theorem lower_toList_of_ascii {s : String} (h : ∀ c ∈ s.toList, c.isAscii) :
    (lower s).toList = s.toList.map Char.toLower := by
  simp [lower, lowerFrom_of_ascii [] h]

/-- An ASCII text is uppercased character by character, as the standard library does. -/
theorem upper_toList_of_ascii {s : String} (h : ∀ c ∈ s.toList, c.isAscii) :
    (upper s).toList = s.toList.map Char.toUpper := by
  rw [upper, String.toList_ofList, List.flatMap_congr fun c hc => upperChar_of_ascii (h c hc),
    List.map_eq_flatMap]

/-! ## Cutting a list before positions -/

section Cut

variable {α β : Type}

/-- The positions where the pieces start once they are joined. -/
def offsets : List (List α) → List Nat
  | [] => []
  | p :: rest => 0 :: (offsets rest).map (p.length + ·)

/-- `pieces` are `cs` cut immediately before each position `i` with `B i`, and nowhere else:
nonempty pieces that join to `cs`, one starting at `0` and one at each such position. -/
structure CutBefore (B : Nat → Prop) (cs : List α) (pieces : List (List α)) : Prop where
  flatten_eq : pieces.flatten = cs
  ne_nil : ∀ p ∈ pieces, p ≠ []
  mem_offsets : ∀ i, i ∈ offsets pieces ↔ i < cs.length ∧ (i = 0 ∨ B i)

theorem offsets_map (f : α → β) (pieces : List (List α)) :
    offsets (pieces.map (List.map f)) = offsets pieces := by
  induction pieces with
  | nil => rfl
  | cons p rest ih => simp [offsets, ih]

theorem mem_offsets_cons {p : List α} {rest : List (List α)} {i : Nat} :
    i ∈ offsets (p :: rest) ↔ i = 0 ∨ ∃ j ∈ offsets rest, i = p.length + j := by
  simp [offsets, eq_comm]

namespace CutBefore

variable {B B' : Nat → Prop} {cs : List α} {pieces : List (List α)}

theorem congr (h : CutBefore B cs pieces) (hB : ∀ i, 0 < i → i < cs.length → (B i ↔ B' i)) :
    CutBefore B' cs pieces where
  flatten_eq := h.flatten_eq
  ne_nil := h.ne_nil
  mem_offsets i := by
    rw [h.mem_offsets]
    by_cases hi : i = 0
    · simp [hi]
    · exact ⟨fun ⟨hlt, hB'⟩ => ⟨hlt, .inr ((hB i (Nat.pos_of_ne_zero hi) hlt).1 (hB'.resolve_left hi))⟩,
        fun ⟨hlt, hB'⟩ => ⟨hlt, .inr ((hB i (Nat.pos_of_ne_zero hi) hlt).2 (hB'.resolve_left hi))⟩⟩

theorem map (f : α → β) (h : CutBefore B cs pieces) :
    CutBefore B (cs.map f) (pieces.map (List.map f)) where
  flatten_eq := by rw [← List.map_flatten, h.flatten_eq]
  ne_nil p hp := by
    obtain ⟨q, hq, rfl⟩ := List.mem_map.1 hp
    simpa using h.ne_nil q hq
  mem_offsets i := by rw [offsets_map, h.mem_offsets, List.length_map]

theorem cons (h : CutBefore B cs pieces) {p : List α} (hp : p ≠ []) (hcs : cs ≠ []) :
    CutBefore (fun i => p.length ≤ i ∧ (i = p.length ∨ B (i - p.length))) (p ++ cs)
      (p :: pieces) where
  flatten_eq := by rw [List.flatten_cons, h.flatten_eq]
  ne_nil q hq := by
    rcases List.mem_cons.1 hq with rfl | hq
    · exact hp
    · exact h.ne_nil q hq
  mem_offsets i := by
    have hplen : 0 < p.length := List.length_pos_iff.2 hp
    have hcslen : 0 < cs.length := List.length_pos_iff.2 hcs
    rw [mem_offsets_cons, List.length_append]
    constructor
    · rintro (rfl | ⟨j, hj, rfl⟩)
      · exact ⟨by omega, .inl rfl⟩
      · obtain ⟨hjlt, hj0 | hjB⟩ := (h.mem_offsets j).1 hj
        · exact ⟨by omega, .inr ⟨by omega, .inl (by omega)⟩⟩
        · exact ⟨by omega, .inr ⟨by omega, .inr (by simpa using hjB)⟩⟩
    · rintro ⟨hlt, rfl | ⟨hle, hB⟩⟩
      · exact .inl rfl
      · refine .inr ⟨i - p.length, (h.mem_offsets _).2 ⟨by omega, ?_⟩, by omega⟩
        rcases hB with heq | hB
        · exact .inl (by omega)
        · exact .inr hB

theorem eq_nil (h : CutBefore B [] pieces) : pieces = [] := by
  cases pieces with
  | nil => rfl
  | cons p rest =>
    have hp : p = [] := List.flatten_eq_nil_iff.1 h.flatten_eq p List.mem_cons_self
    exact absurd hp (h.ne_nil p List.mem_cons_self)

theorem mem_of_mem (h : CutBefore B cs pieces) {p : List α} (hp : p ∈ pieces) {a : α}
    (ha : a ∈ p) : a ∈ cs :=
  h.flatten_eq ▸ List.mem_flatten.2 ⟨p, hp, ha⟩

end CutBefore

end Cut

end Courier.Text

namespace Courier.Derive

open Text

/-! ## Words at capitals -/

/-- Splitting at capitals cuts the characters before every capital after the word it starts
from. -/
theorem splitAtCapitals_cut (cur rest : List Char) (hcur : cur ≠ []) :
    CutBefore (fun i => cur.length ≤ i ∧ ((cur ++ rest)[i]?).any isUppercase) (cur ++ rest)
      (splitAtCapitals cur rest) := by
  induction rest generalizing cur with
  | nil =>
    have hlen := List.length_pos_iff.2 hcur
    refine ⟨by simp [splitAtCapitals], fun p hp => ?_, fun i => ?_⟩
    · rw [splitAtCapitals, List.mem_singleton] at hp
      exact hp ▸ hcur
    · simp [splitAtCapitals, offsets]
      omega
  | cons c rest ih =>
    by_cases hc : isUppercase c
    · -- a capital closes the word collected so far and opens the next one
      rw [splitAtCapitals, if_pos hc]
      refine ((ih [c] (List.cons_ne_nil c [])).cons hcur (List.cons_ne_nil c rest)).congr ?_
      intro i _ _
      by_cases hle : cur.length ≤ i
      · rw [List.getElem?_append_right hle]
        by_cases heq : i = cur.length
        · subst heq
          simp [hc]
        · have h1 : 1 ≤ i - cur.length := by omega
          simp [heq, h1, hle]
      · simp [hle]
    · -- any other character joins the word collected so far
      rw [splitAtCapitals, if_neg hc]
      have hcut := ih (cur ++ [c]) (by simp)
      rw [List.append_assoc, List.singleton_append] at hcut
      refine hcut.congr ?_
      intro i _ _
      by_cases heq : i = cur.length
      · subst heq
        simp [hc]
      · have : cur.length + 1 ≤ i ↔ cur.length ≤ i := by omega
        simp [this]

/-! ## Normalized names -/

theorem takeWhile_isUppercase_of_ascii {cs : List Char} (h : ∀ c ∈ cs, c.isAscii) :
    cs.takeWhile isUppercase = cs.takeWhile Char.isUpper := by
  induction cs with
  | nil => rfl
  | cons c rest ih =>
    rw [List.takeWhile_cons, List.takeWhile_cons, isUppercase_of_ascii (h c List.mem_cons_self),
      ih fun x hx => h x (List.mem_cons_of_mem c hx)]

theorem upper_eq_self_iff {w : String} (hw : ∀ c ∈ w.toList, c.isAscii) :
    upper w = w ↔ ∀ c ∈ w.toList, c.isLower = false := by
  rw [← String.toList_inj, upper_toList_of_ascii hw]
  constructor
  · intro h c hc
    exact (toUpper_eq_self_iff (hw c hc)).1
      (List.map_inj_left.1 (h.trans (List.map_id w.toList).symm) c hc)
  · intro h
    exact (List.map_congr_left fun c hc => (toUpper_eq_self_iff (hw c hc)).2 (h c hc)).trans
      (List.map_id w.toList)

theorem normalizePascalCase_of_no_lower {w : String} (hw : ∀ c ∈ w.toList, c.isAscii)
    (h : ∀ c ∈ w.toList, c.isLower = false) : normalizePascalCase w = lower w := by
  rw [normalizePascalCase, if_pos (beq_iff_eq.2 ((upper_eq_self_iff hw).2 h))]

/-- A name with a lowercase letter keeps its first character and the characters from the last
capital of its leading run on, and lowercases those between. -/
theorem normalizePascalCase_toList {w : String} (hw : ∀ c ∈ w.toList, c.isAscii)
    (h : ∃ c ∈ w.toList, c.isLower) :
    (normalizePascalCase w).toList = w.toList.mapIdx fun i c =>
      if i = 0 ∨ (w.toList.takeWhile Char.isUpper).length - 1 ≤ i then c else c.toLower := by
  have hne : ¬ (upper w == w) = true := by
    rw [beq_iff_eq, upper_eq_self_iff hw]
    obtain ⟨c, hc, hl⟩ := h
    exact fun hall => by simp [hall c hc] at hl
  rw [normalizePascalCase, if_neg hne]
  simp only [takeWhile_isUppercase_of_ascii hw]
  split_ifs with hrun
  · -- a run of at most one capital: the name stays as it is
    refine List.ext_getElem (by simp) fun i _ _ => ?_
    rw [List.getElem_mapIdx, if_pos (by omega)]
  · rw [String.toList_ofList, List.mapIdx_eq_zipIdx_map, List.map_eq_flatMap]
    refine List.flatMap_congr fun ⟨c, i⟩ hci => ?_
    have hc := hw c (List.fst_mem_of_mem_zipIdx hci)
    by_cases hkeep : i = 0 ∨ (w.toList.takeWhile Char.isUpper).length - 1 ≤ i
    · have hkeep' : (i == 0 || decide ((w.toList.takeWhile Char.isUpper).length - 1 ≤ i)) = true := by
        simpa using hkeep
      simp only [hkeep', hkeep, if_true]
    · have hkeep' : (i == 0 || decide ((w.toList.takeWhile Char.isUpper).length - 1 ≤ i)) = false := by
        simpa using hkeep
      simp only [hkeep', hkeep, if_false, lowerChar_of_ascii hc, Bool.false_eq_true]

theorem normalizePascalCase_eq_mapIdx {w : String} (hw : ∀ c ∈ w.toList, c.isAscii) :
    ∃ keep : Nat → Bool,
      (normalizePascalCase w).toList = w.toList.mapIdx fun i c => if keep i then c else c.toLower := by
  by_cases h : ∃ c ∈ w.toList, c.isLower
  · refine ⟨fun i => decide (i = 0 ∨ (w.toList.takeWhile Char.isUpper).length - 1 ≤ i), ?_⟩
    rw [normalizePascalCase_toList hw h]
    simp
  · simp only [not_exists, not_and, Bool.not_eq_true] at h
    refine ⟨fun _ => false, ?_⟩
    rw [normalizePascalCase_of_no_lower hw h, lower_toList_of_ascii hw]
    exact List.ext_getElem (by simp) fun i _ _ => by simp

theorem ascii_normalizePascalCase {w : String} (hw : ∀ c ∈ w.toList, c.isAscii) :
    ∀ c ∈ (normalizePascalCase w).toList, c.isAscii := by
  obtain ⟨keep, hkeep⟩ := normalizePascalCase_eq_mapIdx hw
  intro c hc
  rw [hkeep, List.mem_mapIdx] at hc
  obtain ⟨i, hi, rfl⟩ := hc
  have := hw _ (List.getElem_mem hi)
  split
  · exact this
  · exact isAscii_toLower this

theorem map_toLower_normalizePascalCase {w : String} (hw : ∀ c ∈ w.toList, c.isAscii) :
    (normalizePascalCase w).toList.map Char.toLower = w.toList.map Char.toLower := by
  obtain ⟨keep, hkeep⟩ := normalizePascalCase_eq_mapIdx hw
  rw [hkeep]
  refine List.ext_getElem (by simp) fun i _ _ => ?_
  simp only [List.getElem_map, List.getElem_mapIdx]
  split
  · rfl
  · exact toLower_toLower (hw _ (List.getElem_mem _))

/-! ## Words of a name -/

theorem splitPascalCase_toList {w : String} {c : Char} {rest : List Char}
    (hn : (normalizePascalCase w).toList = c :: rest) (hascii : ∀ x ∈ c :: rest, x.isAscii) :
    (splitPascalCase w).map String.toList =
      (splitAtCapitals [c] rest).map (List.map Char.toLower) := by
  have hcut := splitAtCapitals_cut [c] rest (List.cons_ne_nil c [])
  -- no piece is empty, so none is dropped
  have hkept : (splitAtCapitals [c] rest).filterMap
      (fun w => if w.isEmpty then none else some (lower (String.ofList w))) =
        (splitAtCapitals [c] rest).map fun p => lower (String.ofList p) := by
    rw [← List.filterMap_eq_map']
    exact List.filterMap_congr fun p hp => by simp [hcut.ne_nil p hp]
  unfold splitPascalCase
  rw [hn]
  dsimp only
  rw [hkept, List.map_map]
  refine List.map_congr_left fun p hp => ?_
  have hp : ∀ x ∈ (String.ofList p).toList, x.isAscii := by
    intro x hx
    rw [String.toList_ofList] at hx
    have hmem : x ∈ (splitAtCapitals [c] rest).flatten := List.mem_flatten.2 ⟨p, hp, hx⟩
    rw [hcut.flatten_eq] at hmem
    exact hascii x hmem
  simpa using lower_toList_of_ascii hp

theorem splitAtCapitals_of_no_capital (cur : List Char) {rest : List Char}
    (h : ∀ x ∈ rest, isUppercase x = false) : splitAtCapitals cur rest = [cur ++ rest] := by
  induction rest generalizing cur with
  | nil => simp [splitAtCapitals]
  | cons c rest ih =>
    rw [splitAtCapitals, if_neg (by simp [h c List.mem_cons_self]),
      ih _ fun x hx => h x (List.mem_cons_of_mem c hx)]
    simp

theorem normalizePascalCase_of_no_upper {t : String}
    (ht : ∀ c ∈ t.toList, c.isAscii ∧ c.isUpper = false) : normalizePascalCase t = t := by
  have hascii : ∀ c ∈ t.toList, c.isAscii := fun c hc => (ht c hc).1
  by_cases hl : ∃ c ∈ t.toList, c.isLower
  · -- the leading run of capitals is empty, so every character is kept
    have hrun : t.toList.takeWhile Char.isUpper = [] := by
      cases hcs : t.toList with
      | nil => rfl
      | cons c rest => simp [(ht c (hcs ▸ List.mem_cons_self)).2]
    apply String.toList_inj.mp
    rw [normalizePascalCase_toList hascii hl, hrun]
    exact List.ext_getElem (by simp) fun i _ _ => by simp
  · simp only [not_exists, not_and, Bool.not_eq_true] at hl
    apply String.toList_inj.mp
    rw [normalizePascalCase_of_no_lower hascii hl, lower_toList_of_ascii hascii]
    exact (List.map_congr_left fun c hc => toLower_of_not_isUpper (ht c hc).1 (ht c hc).2).trans
      (List.map_id _)

theorem splitPascalCase_of_no_upper {t : String}
    (ht : ∀ c ∈ t.toList, c.isAscii ∧ c.isUpper = false) (hne : t ≠ "") :
    splitPascalCase t = [t] := by
  obtain ⟨c, rest, hcs⟩ := List.exists_cons_of_ne_nil (by simpa using hne : t.toList ≠ [])
  have hn : (normalizePascalCase t).toList = c :: rest := by
    rw [normalizePascalCase_of_no_upper ht, hcs]
  have hwords := splitPascalCase_toList hn fun x hx => (ht x (hcs ▸ hx)).1
  rw [splitAtCapitals_of_no_capital [c] fun x hx =>
      by rw [isUppercase_of_ascii (ht x (hcs ▸ List.mem_cons_of_mem c hx)).1,
        (ht x (hcs ▸ List.mem_cons_of_mem c hx)).2]] at hwords
  obtain ⟨t', hsplit, ht'⟩ := List.map_eq_singleton_iff.1 hwords
  rw [hsplit, List.singleton_inj]
  apply String.toList_inj.mp
  rw [ht', List.singleton_append, ← hcs]
  exact (List.map_congr_left fun x hx => toLower_of_not_isUpper (ht x hx).1 (ht x hx).2).trans
    (List.map_id _)

theorem splitPascalCase_congr {w w' : String} (h : normalizePascalCase w = normalizePascalCase w') :
    splitPascalCase w = splitPascalCase w' := by
  unfold splitPascalCase
  rw [h]

/-- The words of an ASCII name are its lowercase cut before every capital of its normal form
after the first character. -/
theorem splitPascalCase_cut {w : String} (hw : ∀ c ∈ w.toList, c.isAscii) :
    CutBefore (fun i => ((normalizePascalCase w).toList[i]?).any isUppercase)
      (w.toList.map Char.toLower) ((splitPascalCase w).map String.toList) := by
  rw [← map_toLower_normalizePascalCase hw]
  cases hn : (normalizePascalCase w).toList with
  | nil =>
    have hwords : splitPascalCase w = [] := by
      unfold splitPascalCase
      rw [hn]
    rw [hwords]
    exact ⟨rfl, by simp, by simp [offsets]⟩
  | cons c rest =>
    have hascii : ∀ x ∈ c :: rest, x.isAscii := hn ▸ ascii_normalizePascalCase hw
    rw [splitPascalCase_toList hn hascii]
    refine ((splitAtCapitals_cut [c] rest (List.cons_ne_nil c [])).map Char.toLower).congr ?_
    intro i hi _
    simp [Nat.one_le_iff_ne_zero.2 (Nat.pos_iff_ne_zero.1 hi)]

/-- Inside a name with a lowercase letter, a character of the normal form is a capital exactly
when it is a capital of the name at or after the last capital of the leading run. -/
theorem normalized_capital_iff {w : String} (hw : ∀ c ∈ w.toList, c.isAscii)
    (hl : ∃ c ∈ w.toList, c.isLower) (i : Nat) (hi : 0 < i) :
    ((normalizePascalCase w).toList[i]?).any isUppercase = true ↔
      (w.toList.takeWhile Char.isUpper).length - 1 ≤ i ∧ (w.toList[i]?).any Char.isUpper = true := by
  rw [normalizePascalCase_toList hw hl, List.getElem?_mapIdx]
  cases hwi : w.toList[i]? with
  | none => simp
  | some c =>
    have hc : c.isAscii := hw c (List.mem_of_getElem? hwi)
    by_cases hr : (w.toList.takeWhile Char.isUpper).length - 1 ≤ i
    · simp [hr, isUppercase_of_ascii hc]
    · simp [hr, Nat.pos_iff_ne_zero.1 hi, isUppercase_of_ascii (isAscii_toLower hc),
        isUpper_toLower hc]

theorem toLower_toList (w : String) : w.toLower.toList = w.toList.map Char.toLower :=
  String.toList_map

theorem toLower_eq_empty_iff {w : String} : w.toLower = "" ↔ w = "" := by
  rw [← String.toList_inj, toLower_toList, String.toList_empty, List.map_eq_nil_iff,
    ← String.toList_inj, String.toList_empty]

theorem ascii_not_upper_of_mem_toLower {w : String} (hw : ∀ c ∈ w.toList, c.isAscii) :
    ∀ c ∈ w.toLower.toList, c.isAscii ∧ c.isUpper = false := by
  intro c hc
  rw [toLower_toList, List.mem_map] at hc
  obtain ⟨x, hx, rfl⟩ := hc
  exact ⟨isAscii_toLower (hw x hx), isUpper_toLower (hw x hx)⟩

/-- A nonempty ASCII name without lowercase letters is one word, lowercased: its normal form is
already the lowercased name, which has no capital to cut before. -/
theorem splitPascalCase_of_no_lower {w : String} (hw : ∀ c ∈ w.toList, c.isAscii) (hne : w ≠ "")
    (hnl : ∀ c ∈ w.toList, c.isLower = false) : splitPascalCase w = [w.toLower] := by
  have hn : normalizePascalCase w = w.toLower := by
    rw [normalizePascalCase_of_no_lower hw hnl]
    exact String.toList_inj.mp (by rw [lower_toList_of_ascii hw, toLower_toList])
  have hlow := ascii_not_upper_of_mem_toLower hw
  rw [splitPascalCase_congr (hn.trans (normalizePascalCase_of_no_upper hlow).symm),
    splitPascalCase_of_no_upper hlow (mt toLower_eq_empty_iff.1 hne)]

/-- The words of an ASCII name. The empty name has none; a name without lowercase letters is one
word, lowercased; otherwise the words are the lowercased name cut before every capital that is
not its first character and comes at or after the last capital of its leading run. In every
case the words are nonempty, hold no capital, join to the lowercased name, and are each their
own only word. -/
theorem words_cut_before_capitals (w : String) (hw : ∀ c ∈ w.toList, c.isAscii) :
    (w = "" → splitPascalCase w = []) ∧
    (w ≠ "" → (∀ c ∈ w.toList, c.isLower = false) → splitPascalCase w = [w.toLower]) ∧
    ((∃ c ∈ w.toList, c.isLower) →
      CutBefore (fun i => 1 ≤ i ∧ (w.toList.takeWhile Char.isUpper).length - 1 ≤ i ∧
          (w.toList[i]?).any Char.isUpper = true)
        w.toLower.toList ((splitPascalCase w).map String.toList)) ∧
    (∀ t ∈ splitPascalCase w, t ≠ "" ∧ (∀ c ∈ t.toList, c.isUpper = false) ∧
      splitPascalCase t = [t]) ∧
    String.join (splitPascalCase w) = w.toLower := by
  have hcut := splitPascalCase_cut hw
  rw [← toLower_toList] at hcut
  -- every character of a word is a character of the lowercased name
  have hchar : ∀ t ∈ splitPascalCase w, ∀ c ∈ t.toList, c.isAscii ∧ c.isUpper = false :=
    fun t ht c hc =>
      ascii_not_upper_of_mem_toLower hw c (hcut.mem_of_mem (List.mem_map_of_mem ht) hc)
  refine ⟨fun hempty => ?_, splitPascalCase_of_no_lower hw, fun hl => ?_, fun t ht => ?_, ?_⟩
  · subst hempty
    rw [show ("" : String).toLower = "" from toLower_eq_empty_iff.2 rfl] at hcut
    simpa using hcut.eq_nil
  · refine hcut.congr fun i hi _ => ?_
    rw [normalized_capital_iff hw hl i hi]
    simp [Nat.one_le_iff_ne_zero.2 (Nat.pos_iff_ne_zero.1 hi)]
  · have hne : t ≠ "" := fun h => hcut.ne_nil t.toList (List.mem_map_of_mem ht) (by simp [h])
    exact ⟨hne, fun c hc => (hchar t ht c hc).2, splitPascalCase_of_no_upper (hchar t ht) hne⟩
  · apply String.toList_inj.mp
    rw [String.toList_join, ← hcut.flatten_eq]
    rfl

example : splitPascalCase "PKGFarAway" = ["pkg", "far", "away"] ∧
    splitPascalCase "XSimplename" = ["x", "simplename"] ∧ splitPascalCase "RPC" = ["rpc"] := by
  decide +kernel

/-- The name `PKGFarAway`, with an acronym before two capitalized words. -/
theorem acronym_name_words :
    let w := "PKGFarAway"
    (∀ c ∈ w.toList, c.isAscii) ∧
    ((w = "" → splitPascalCase w = []) ∧
    (w ≠ "" → (∀ c ∈ w.toList, c.isLower = false) → splitPascalCase w = [w.toLower]) ∧
    ((∃ c ∈ w.toList, c.isLower) →
      CutBefore (fun i => 1 ≤ i ∧ (w.toList.takeWhile Char.isUpper).length - 1 ≤ i ∧
          (w.toList[i]?).any Char.isUpper = true)
        w.toLower.toList ((splitPascalCase w).map String.toList)) ∧
    (∀ t ∈ splitPascalCase w, t ≠ "" ∧ (∀ c ∈ t.toList, c.isUpper = false) ∧
      splitPascalCase t = [t]) ∧
    String.join (splitPascalCase w) = w.toLower) := by
  intro w
  have hw : ∀ c ∈ w.toList, c.isAscii := by simp [w, Char.isAscii]
  exact ⟨hw, words_cut_before_capitals w hw⟩

end Courier.Derive
