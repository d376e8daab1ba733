/-!
# Keyed lists

A keyed list is a list of entries `(key, value)` with string keys, kept in increasing key
order with one entry per key. This is the form of header maps, of free-form JSON objects and
of every table whose answers are listed by key. `insert` replaces the value of a present key
in place and otherwise puts the entry before the first greater key; `find?` reads the value
of a key; `erase` drops its entry.
-/

namespace Courier.Keyed

variable {α : Type}

/-- Sets the value of `key`: replaced in place when present, otherwise inserted before the
first greater key. -/
def insert (key : String) (v : α) : List (String × α) → List (String × α)
  | [] => [(key, v)]
  | (k, w) :: rest =>
    if key == k then (key, v) :: rest
    else if key < k then (key, v) :: (k, w) :: rest
    else (k, w) :: insert key v rest

/-- The value of `key`, if present. -/
def find? (key : String) : List (String × α) → Option α
  | [] => none
  | (k, w) :: rest => if k == key then some w else find? key rest

/-- Drops the entry of `key`. -/
def erase (key : String) : List (String × α) → List (String × α)
  | [] => []
  | (k, w) :: rest => if k == key then rest else (k, w) :: erase key rest

/-- Whether `key` has an entry. -/
def contains (key : String) (xs : List (String × α)) : Bool := (find? key xs).isSome

/-- The keyed list of some entries, inserted in order: the last value of a key wins. -/
def ofList (entries : List (String × α)) : List (String × α) :=
  entries.foldl (fun acc (k, v) => insert k v acc) []

@[simp]
theorem find?_nil (key : String) : find? key ([] : List (String × α)) = none := rfl

theorem find?_insert_self (key : String) (v : α) (xs : List (String × α)) :
    find? key (insert key v xs) = some v := by
  induction xs with
  | nil => simp [insert, find?]
  | cons e rest ih =>
    obtain ⟨k, w⟩ := e
    by_cases h : key = k
    · subst h; simp [insert, find?]
    · by_cases hl : key < k
      · simp [insert, find?, h, hl]
      · have hk : (k == key) = false := by simp; exact fun e => h e.symm
        simp [insert, find?, h, hl, hk, ih]

theorem mem_of_find?_eq_some {key : String} {v : α} {xs : List (String × α)}
    (h : find? key xs = some v) : (key, v) ∈ xs := by
  induction xs with
  | nil => simp at h
  | cons e rest ih =>
    obtain ⟨k, w⟩ := e
    by_cases hk : k = key
    · subst hk
      simp only [find?, beq_self_eq_true, ↓reduceIte, Option.some.injEq] at h
      simp [h]
    · have hne : (k == key) = false := by simpa using hk
      simp only [find?, hne, Bool.false_eq_true, ↓reduceIte] at h
      exact List.mem_cons_of_mem _ (ih h)

/-! ## Keys in increasing order -/

/-- The keys of a keyed list in increasing order. -/
def Ordered (xs : List (String × α)) : Prop := xs.Pairwise (fun a b => a.1 < b.1)

theorem ordered_nil : Ordered ([] : List (String × α)) := List.Pairwise.nil

theorem mem_insert {key : String} {v : α} {xs : List (String × α)} {e : String × α}
    (h : e ∈ insert key v xs) : e = (key, v) ∨ e ∈ xs := by
  induction xs with
  | nil => simpa [insert] using h
  | cons x rest ih =>
    obtain ⟨k, w⟩ := x
    unfold insert at h
    split at h
    · rcases List.mem_cons.1 h with rfl | h
      · exact .inl rfl
      · exact .inr (List.mem_cons_of_mem _ h)
    · split at h
      · rcases List.mem_cons.1 h with rfl | h
        · exact .inl rfl
        · exact .inr h
      · rcases List.mem_cons.1 h with rfl | h
        · exact .inr List.mem_cons_self
        · exact (ih h).imp id (List.mem_cons_of_mem _)

theorem ordered_insert (key : String) (v : α) {xs : List (String × α)} (h : Ordered xs) :
    Ordered (insert key v xs) := by
  induction xs with
  | nil => simp [Ordered, insert]
  | cons x rest ih =>
    obtain ⟨k, w⟩ := x
    have hrest : ∀ e ∈ rest, k < e.1 := fun e he => List.rel_of_pairwise_cons h he
    unfold insert
    split
    · rename_i hk
      have hk : key = k := by simpa using hk
      subst hk
      exact List.pairwise_cons.2 ⟨hrest, h.of_cons⟩
    · split
      · rename_i hlt
        refine List.pairwise_cons.2 ⟨fun e he => ?_, h⟩
        rcases List.mem_cons.1 he with rfl | he
        · exact hlt
        · exact String.lt_trans hlt (hrest e he)
      · rename_i hne hlt
        -- the key goes after `k`, among the greater keys
        have hgt : k < key := String.not_le.1 fun hle =>
          hne (by simp [String.le_antisymm hle (String.not_lt.1 hlt)])
        refine List.pairwise_cons.2 ⟨fun e he => ?_, ih h.of_cons⟩
        rcases mem_insert he with rfl | he
        · exact hgt
        · exact hrest e he

theorem ordered_foldl_insert (xs : List (String × α)) {acc : List (String × α)}
    (h : Ordered acc) : Ordered (xs.foldl (fun acc e => insert e.1 e.2 acc) acc) := by
  induction xs generalizing acc with
  | nil => exact h
  | cons x rest ih => exact ih (ordered_insert x.1 x.2 h)

theorem erase_sublist (key : String) : ∀ xs : List (String × α), (erase key xs).Sublist xs
  | [] => .slnil
  | (k, w) :: rest => by
    unfold erase
    split
    · exact List.sublist_cons_self _ _
    · exact (erase_sublist key rest).cons₂ _

theorem ordered_erase (key : String) {xs : List (String × α)} (h : Ordered xs) :
    Ordered (erase key xs) :=
  List.Pairwise.sublist (erase_sublist key xs) h

end Courier.Keyed
