import Courier.Nats.Headers
import Courier.Proofs.ScopedVars

/-!
# Headers through the NATS client and back

The conversions append values one at a time, so each is read through the values it lists under
every name (`valuesUnder`). Appending every value of every name in turn is appending the pairs of
names and values in turn (`appendAll_eq_foldl`). A map that lists a value last under its name and
leaves the other names alone when the value is appended lists, after the pairs, the values of
each name in order (`view_foldl`); the bus's headers are such a map (`Headers.getAll_append`).

For the client library's map this is assumed, not proved: `HeaderStore.Lawful` says that a map
made by appending pairs lists under each name exactly the values appended under it, in order,
whatever order it lists the names in. A header map, whose names are in increasing order, is
given back by its values under every name once no name is left without a value
(`Headers.Filled.eq_of_getAll`).

Main statement: `nats_header_round_trip`, from `fromNats_toNatsHeaders`, which says what the
round trip does to every header map: names without values are dropped.
-/

namespace Courier

/-! ## Values under a name -/

/-- The values listed under a name, in the order listed. -/
def valuesUnder (es : List (String × List String)) (k : String) : List String :=
  es.flatMap fun e => if e.1 = k then e.2 else []

/-- Every value of every name, as pairs of a name and a value, in turn. -/
def pairsOf (es : List (String × List String)) : List (String × String) :=
  es.flatMap fun e => e.2.map fun v => (e.1, v)

/-- The values of the pairs with a name, in order. -/
def valuesOf (ops : List (String × String)) (k : String) : List String :=
  ops.filterMap fun o => if o.1 = k then some o.2 else none

@[simp] theorem valuesUnder_nil (k : String) : valuesUnder [] k = [] := rfl

@[simp] theorem valuesUnder_cons (e : String × List String) (es : List (String × List String))
    (k : String) : valuesUnder (e :: es) k = (if e.1 = k then e.2 else []) ++ valuesUnder es k :=
  List.flatMap_cons

theorem valuesOf_cons (o : String × String) (ops : List (String × String)) (k : String) :
    valuesOf (o :: ops) k = (if o.1 = k then [o.2] else []) ++ valuesOf ops k := by
  by_cases ho : o.1 = k <;> simp [valuesOf, ho]

theorem pairsOf_cons (e : String × List String) (es : List (String × List String)) :
    pairsOf (e :: es) = e.2.map (fun v => (e.1, v)) ++ pairsOf es :=
  List.flatMap_cons

theorem valuesOf_append (ops ops' : List (String × String)) (k : String) :
    valuesOf (ops ++ ops') k = valuesOf ops k ++ valuesOf ops' k :=
  List.filterMap_append

theorem valuesOf_pairsOf (es : List (String × List String)) (k : String) :
    valuesOf (pairsOf es) k = valuesUnder es k := by
  induction es with
  | nil => rfl
  | cons e es ih =>
    have hhead : valuesOf (e.2.map fun v => (e.1, v)) k = if e.1 = k then e.2 else [] := by
      by_cases he : e.1 = k <;> simp [valuesOf, he]
    rw [pairsOf_cons, valuesOf_append, hhead, ih, valuesUnder_cons]

theorem valuesUnder_of_not_mem {es : List (String × List String)} {k : String}
    (h : k ∉ es.map Prod.fst) : valuesUnder es k = [] := by
  induction es with
  | nil => rfl
  | cons e es ih =>
    simp only [List.map_cons, List.mem_cons, not_or] at h
    simp [Ne.symm h.1, ih h.2]

theorem valuesUnder_of_nodup {es : List (String × List String)} (h : (es.map Prod.fst).Nodup)
    (k : String) : valuesUnder es k = (Keyed.find? k es).getD [] := by
  induction es with
  | nil => rfl
  | cons e es ih =>
    obtain ⟨k₀, vs⟩ := e
    simp only [List.map_cons, List.nodup_cons] at h
    by_cases hk : k₀ = k
    · subst hk
      simp [valuesUnder_of_not_mem h.1, Keyed.find?]
    · have hne : (k₀ == k) = false := by simpa using hk
      simp [hk, hne, Keyed.find?, ih h.2]

theorem valuesUnder_filter (es : List (String × List String)) (k : String) :
    valuesUnder (es.filter fun e => !e.2.isEmpty) k = valuesUnder es k := by
  induction es with
  | nil => rfl
  | cons e es ih =>
    by_cases he : e.2 = [] <;> simp [he, ih]

/-! ## Appending in turn -/

namespace Nats

/-- Appending every value of every name in turn is appending the pairs in turn. -/
theorem appendAll_eq_foldl {α : Type} (append : α → String → String → α)
    (es : List (String × List String)) (m : α) :
    appendAll append es m = (pairsOf es).foldl (fun m o => append m o.1 o.2) m := by
  induction es generalizing m with
  | nil => rfl
  | cons e es ih =>
    rw [pairsOf_cons, List.foldl_append, List.foldl_map, ← ih]
    rfl

/-- A map that, when a value is appended, lists it last under its name and leaves the other
names alone, lists after the pairs what it listed before, then each name's values in order. The
appends need behave so only on maps with a property `inv` that they keep. -/
theorem view_foldl {α : Type} (append : α → String → String → α)
    (view : α → String → List String) (inv : α → Prop)
    (happ : ∀ m k v, inv m → inv (append m k v) ∧
      ∀ k', view (append m k v) k' = view m k' ++ if k' = k then [v] else [])
    (ops : List (String × String)) (m : α) (hm : inv m) (k : String) :
    view (ops.foldl (fun m o => append m o.1 o.2) m) k = view m k ++ valuesOf ops k := by
  induction ops generalizing m with
  | nil => simp [valuesOf]
  | cons o ops ih =>
    obtain ⟨hm', hview⟩ := happ m o.1 o.2 hm
    rw [List.foldl_cons, ih _ hm', hview, valuesOf_cons]
    by_cases ho : o.1 = k
    · simp [ho]
    · simp [ho, Ne.symm ho]

end Nats

/-! ## Header maps held in name order -/

namespace Headers

theorem getAll_append (h : Headers) (k v k' : String) :
    (h.append k v).getAll k' = h.getAll k' ++ if k' = k then [v] else [] := by
  by_cases hk : k' = k
  · subst hk
    simp [append, getAll, Keyed.find?_insert_self]
  · simp [append, getAll, Keyed.find?_insert_ne _ _ hk, hk]

/-- Headers as they are held: each name with at least one value. -/
structure Filled (h : Headers) : Prop where
  values_ne_nil : ∀ e ∈ h.entries, e.2 ≠ []

theorem filled_empty : Filled {} := ⟨fun _ he => by cases he⟩

theorem Filled.append {h : Headers} (hf : h.Filled) (k v : String) : (h.append k v).Filled where
  values_ne_nil e he := by
    rcases Keyed.mem_insert he with rfl | he
    · simp
    · exact hf.values_ne_nil e he

theorem Filled.appendAll {h : Headers} (hf : h.Filled) (es : List (String × List String)) :
    (Nats.appendAll Headers.append es h).Filled := by
  rw [Nats.appendAll_eq_foldl]
  induction pairsOf es generalizing h with
  | nil => exact hf
  | cons o ops ih => exact ih (hf.append o.1 o.2)

theorem getAll_eq_valuesUnder (h : Headers) (k : String) :
    h.getAll k = valuesUnder h.entries k :=
  (valuesUnder_of_nodup h.ordered.nodup_keys k).symm

theorem Filled.mem_iff {h : Headers} (hf : h.Filled) (k : String) (vs : List String) :
    (k, vs) ∈ h.entries ↔ h.getAll k = vs ∧ vs ≠ [] := by
  rw [← Keyed.find?_eq_some_iff h.ordered.nodup_keys, getAll]
  constructor
  · intro hfind
    exact ⟨by rw [hfind, Option.getD_some],
      hf.values_ne_nil _ (Keyed.mem_of_find?_eq_some hfind)⟩
  · rintro ⟨hget, hne⟩
    cases hfind : Keyed.find? k h.entries with
    | none =>
      rw [hfind, Option.getD_none] at hget
      exact absurd hget.symm hne
    | some ws =>
      rw [hfind, Option.getD_some] at hget
      rw [hget]

/-- Headers held in name order are given by their values under every name. -/
theorem Filled.eq_of_getAll {h h' : Headers} (hf : h.Filled) (hf' : h'.Filled)
    (hget : ∀ k, h.getAll k = h'.getAll k) : h = h' := by
  have hentries : h.entries = h'.entries := by
    apply Keyed.eq_of_mem_iff h.ordered h'.ordered
    rintro ⟨k, vs⟩
    rw [hf.mem_iff, hf'.mem_iff, hget]
  cases h
  cases h'
  cases hentries
  rfl

end Headers

/-! ## The client library's map -/

namespace Nats.HeaderStore

variable {σ : Type}

/-- The values a map lists under a name, in the order it lists them. -/
def listed (store : HeaderStore σ) (m : σ) (k : String) : List String :=
  valuesUnder (store.entries m) k

/-- The client library's map as the conversions rely on it, a multimap that keeps every name as
given and the order values were appended in: a map made from the empty one by appending pairs
lists under each name exactly the values appended under that name, in order. The order in which
it lists the names is its own. -/
def Lawful (store : HeaderStore σ) : Prop :=
  ∀ (ops : List (String × String)) (k : String),
    store.listed (ops.foldl (fun m o => store.append m o.1 o.2) store.empty) k = valuesOf ops k

theorem listed_toNatsHeaders {store : HeaderStore σ} (hs : store.Lawful) (h : Headers)
    (k : String) : store.listed (toNatsHeaders store h) k = valuesUnder h.entries k := by
  rw [toNatsHeaders, appendAll_eq_foldl, hs, valuesOf_pairsOf]

end Nats.HeaderStore

/-! ## The round trip -/

namespace Nats

variable {σ : Type}

/-- The values under a name of the headers received with a library map: those the map lists. -/
theorem getAll_received (store : HeaderStore σ) (nh : σ) (k : String) :
    (appendAll Headers.append (store.entries nh) {}).getAll k = store.listed nh k := by
  rw [appendAll_eq_foldl, view_foldl Headers.append Headers.getAll (fun _ => True)
    (fun m k v _ => ⟨trivial, Headers.getAll_append m k v⟩) _ _ trivial, valuesOf_pairsOf]
  rfl

/-- Headers sent through the client library and received back: every name with values comes
back with its values in order, a name without values is dropped, and subject, reply subject and
payload are carried over. -/
theorem fromNats_toNatsHeaders {store : HeaderStore σ} (hs : store.Lawful) (h : Headers)
    (subject : String) (reply : Option String) (payload : ByteArray) :
    fromNats store ⟨subject, reply, payload, some (toNatsHeaders store h)⟩ =
      ⟨⟨subject⟩, reply.map Subject.mk, payload,
        ⟨h.entries.filter fun e => !e.2.isEmpty, h.ordered.filter _⟩⟩ := by
  have hkept : Headers.Filled ⟨h.entries.filter fun e => !e.2.isEmpty, h.ordered.filter _⟩ :=
    ⟨fun e he => by simpa using (List.mem_filter.mp he).2⟩
  have hheaders : appendAll Headers.append (store.entries (toNatsHeaders store h)) {} =
      ⟨h.entries.filter fun e => !e.2.isEmpty, h.ordered.filter _⟩ := by
    apply (Headers.filled_empty.appendAll _).eq_of_getAll hkept
    intro k
    rw [getAll_received, HeaderStore.listed_toNatsHeaders hs, Headers.getAll_eq_valuesUnder,
      valuesUnder_filter]
  simp only [fromNats, hheaders]

/-- NATS header conversion round-trips: headers with a value under every name come back equal
after conversion to the client library's map and back, with subject, reply subject and payload
carried over, for any library map that is a multimap keeping each name and the order of its
values. -/
theorem nats_header_round_trip {store : HeaderStore σ} (hs : store.Lawful) {h : Headers}
    (hne : ∀ e ∈ h.entries, e.2 ≠ []) (subject : String) (reply : Option String)
    (payload : ByteArray) :
    fromNats store ⟨subject, reply, payload, some (toNatsHeaders store h)⟩ =
      ⟨⟨subject⟩, reply.map Subject.mk, payload, h⟩ := by
  have hall : (h.entries.filter fun e => !e.2.isEmpty) = h.entries :=
    List.filter_eq_self.2 fun e he => by simpa using hne e he
  rw [fromNats_toNatsHeaders hs h]
  congr 1
  cases h
  simp only [hall]

/-! ## A library map in another order -/

/-- Appends a value to the first entry of its name. -/
def pushValue (k v : String) : List (String × List String) → List (String × List String)
  | [] => []
  | e :: es => if e.1 = k then (e.1, e.2 ++ [v]) :: es else e :: pushValue k v es

/-- A multimap kept as names with their values: a known name's values grow in place and a new
name goes first, so names are listed newest first. -/
def frontStore : HeaderStore (List (String × List String)) where
  empty := []
  append m k v := if k ∈ m.map Prod.fst then pushValue k v m else (k, [v]) :: m
  entries m := m

theorem pushValue_keys (k v : String) (m : List (String × List String)) :
    (pushValue k v m).map Prod.fst = m.map Prod.fst := by
  induction m with
  | nil => rfl
  | cons e es ih => by_cases he : e.1 = k <;> simp [pushValue, he, ih]

theorem valuesUnder_pushValue {k v : String} {m : List (String × List String)}
    (hm : (m.map Prod.fst).Nodup) (hk : k ∈ m.map Prod.fst) (k' : String) :
    valuesUnder (pushValue k v m) k' = valuesUnder m k' ++ if k' = k then [v] else [] := by
  induction m with
  | nil => cases hk
  | cons e es ih =>
    simp only [List.map_cons, List.nodup_cons] at hm
    by_cases he : e.1 = k
    · -- the name's only entry takes the value; later entries have other names
      have hrest : valuesUnder es k = [] := valuesUnder_of_not_mem (he ▸ hm.1)
      by_cases hk' : k' = k
      · subst hk'
        simp [pushValue, he, hrest]
      · simp [pushValue, he, hk', Ne.symm hk']
    · have hk : k ∈ es.map Prod.fst := by
        simp only [List.map_cons, List.mem_cons] at hk
        exact hk.resolve_left (Ne.symm he)
      simp [pushValue, he, ih hm.2 hk]

theorem frontStore_step {m : List (String × List String)} (hm : (m.map Prod.fst).Nodup)
    (k v : String) :
    ((frontStore.append m k v).map Prod.fst).Nodup ∧ ∀ k',
      frontStore.listed (frontStore.append m k v) k' =
        frontStore.listed m k' ++ if k' = k then [v] else [] := by
  simp only [frontStore, HeaderStore.listed]
  split
  · next hk => exact ⟨pushValue_keys k v m ▸ hm, valuesUnder_pushValue hm hk⟩
  · next hk =>
    refine ⟨List.nodup_cons.2 ⟨hk, hm⟩, fun k' => ?_⟩
    by_cases hk' : k' = k
    · subst hk'
      simp [valuesUnder_of_not_mem hk]
    · simp [hk', Ne.symm hk']

theorem frontStore_lawful : frontStore.Lawful := by
  intro ops k
  -- maps made by appends keep one entry per name, where each append acts as a multimap's
  rw [view_foldl frontStore.append frontStore.listed (fun m => (m.map Prod.fst).Nodup)
    (fun _ k v hm => frontStore_step hm k v) ops frontStore.empty List.nodup_nil k]
  rfl

/-- The headers of the client library's own test, through a map that lists names newest
first. -/
theorem test_headers_round_trip :
    let h := Headers.ofPairs [("identity", "abc"), ("multi", "1"), ("multi", "2")]
    frontStore.Lawful ∧ (∀ e ∈ h.entries, e.2 ≠ []) ∧
      fromNats frontStore ⟨"a.b", some "_INBOX.x", "payload".toUTF8,
          some (toNatsHeaders frontStore h)⟩ =
        ⟨⟨"a.b"⟩, some ⟨"_INBOX.x"⟩, "payload".toUTF8, h⟩ := by
  intro h
  have hne : ∀ e ∈ h.entries, e.2 ≠ [] := by decide
  exact ⟨frontStore_lawful, hne,
    nats_header_round_trip frontStore_lawful hne "a.b" (some "_INBOX.x") "payload".toUTF8⟩

end Nats

end Courier
