import Courier.Proofs.Routing
import Mathlib.Data.Int.CardIntervalMod

/-!
# Sharing a queue group's load

Every message moves the bus's queue cursor once for each queue group it reaches, and group `g`
takes the member whose index is the cursor, moved on by the groups before `g` in name order,
modulo the number of its members (`count_targets_member`). The cursor is one for the whole bus,
so a group's turn depends on how many groups every earlier message reached
(`publishAll_counts`).

While a run of `k` messages reaches group `g`, through the same `n` members, and no other group,
each member gets `⌊k / n⌋` or `⌈k / n⌉` of them (`publishAll_share_even`). When other groups are
reached too, the turns of `g` move by their number and need not come round: when that number is a
multiple of the size of `g`, one member of `g` gets every message (`publishAll_one_member`).
-/

namespace Courier.Bus

theorem ceil_div_eq (k : Nat) {n : Nat} (hn : 0 < n) :
    (k + n - 1) / n = k / n + if k % n = 0 then 0 else 1 := by
  have hk := Nat.div_add_mod k n
  have hr := Nat.mod_lt k hn
  apply Nat.div_eq_of_lt_le
  · split_ifs <;> rw [Nat.add_mul] <;> rw [Nat.mul_comm] <;> omega
  · split_ifs <;> rw [Nat.add_mul, Nat.add_mul] <;> rw [Nat.mul_comm] <;> omega

/-- Of `k` consecutive cursor values from `c`, those at residue `j` modulo `n` number
`⌊k / n⌋` or `⌈k / n⌉`. -/
theorem count_residue_window (c k : Nat) {n j : Nat} (hj : j < n) :
    k / n ≤ Nat.count (fun i => (c + i) % n = j) k ∧
      Nat.count (fun i => (c + i) % n = j) k ≤ (k + n - 1) / n := by
  have hn : 0 < n := Nat.lt_of_le_of_lt (Nat.zero_le j) hj
  -- shifting by `c` turns residue `j` of `c + i` into a residue of `i`
  have hcv : c + (j + (n - c % n)) ≡ j [MOD n] := by
    have : c + (j + (n - c % n)) = j + n * (c / n + 1) := by
      have := Nat.div_add_mod c n
      have := Nat.mod_lt c hn
      rw [Nat.mul_add, Nat.mul_one]
      omega
    rw [this]
    exact Nat.add_mul_mod_self_left j n _
  have hshift (i : Nat) : (c + i) % n = j ↔ i ≡ j + (n - c % n) [MOD n] := by
    constructor
    · intro h
      exact Nat.ModEq.add_left_cancel' c ((show c + i ≡ j [MOD n] by
        unfold Nat.ModEq; rw [h, Nat.mod_eq_of_lt hj]).trans hcv.symm)
    · intro h
      have := (Nat.ModEq.add_left c h).trans hcv
      unfold Nat.ModEq at this
      rw [this, Nat.mod_eq_of_lt hj]
  have hcount : Nat.count (fun i => (c + i) % n = j) k =
      Nat.count (· ≡ j + (n - c % n) [MOD n]) k := by
    simp only [Nat.count_eq_card_filter_range, hshift]
  rw [hcount, Nat.count_modEq_card _ hn, ceil_div_eq k hn]
  constructor
  · exact Nat.le_add_right _ _
  · split_ifs <;> omega

namespace Table

variable {α : Type}

/-- The members of queue group `g` among some routes, in route order. -/
def members (rs : List (Route α)) (g : String) : List (Route α) := rs.filter (·.group == some g)

theorem pick_eq (rs : List (Route α)) (g : String) (c : Nat) :
    pick rs g c = (members rs g)[c % (members rs g).length]? := rfl

theorem mem_members {rs : List (Route α)} {g : String} {r : Route α} :
    r ∈ members rs g ↔ r ∈ rs ∧ r.group = some g := by
  simp [members]

/-- With distinct ids, the pick at a cursor value is the member of index `j` exactly when the
value is `j` modulo the number of members. -/
theorem pick_id_eq_iff {rs : List (Route α)} (hrs : (rs.map (·.id)).Nodup) {g : String} {c j : Nat}
    (hj : j < (members rs g).length) :
    (pick rs g c).map (·.id) = some (members rs g)[j].id ↔ c % (members rs g).length = j := by
  have hnd : ((members rs g).map (·.id)).Nodup := hrs.sublist (List.filter_sublist.map _)
  have hlt : c % (members rs g).length < (members rs g).length := Nat.mod_lt _ (by omega)
  rw [pick_eq, List.getElem?_eq_getElem hlt, Option.map_some, Option.some.injEq]
  have key := @List.Nodup.getElem_inj_iff _ _ hnd _ (by simpa using hlt) _ (by simpa using hj)
  rwa [List.getElem_map, List.getElem_map] at key

section Picks

variable {rs : List (Route α)} (hrs : (rs.map (·.id)).Nodup)
include hrs

/-- Among the picks for groups taken once each, a route of group `g` appears once if it is the
pick at the cursor value of `g`'s turn, and otherwise not at all. -/
theorem count_picks {g : String} {r : Route α} (hr : r ∈ rs) (hg : r.group = some g) :
    ∀ {c : Nat} {gs : List String}, gs.Nodup →
      (picks rs c gs).count r.id =
        if g ∈ gs ∧ (pick rs g (c + gs.idxOf g)).map (·.id) = some r.id then 1 else 0
  | _, [], _ => by simp [picks]
  | c, g' :: gs, hgs => by
    have hrest := count_picks hr hg (c := c + 1) (List.nodup_cons.mp hgs).2
    simp only [picks, List.count_append, hrest]
    by_cases hg' : g' = g
    · subst hg'
      -- the head group is `g`, and no later turn is `g`'s
      have hhead : ((pick rs g' c).map (·.id)).toList.count r.id =
          if (pick rs g' c).map (·.id) = some r.id then 1 else 0 := by
        cases pick rs g' c <;> simp [List.count_cons]
      simp [hhead, (List.nodup_cons.mp hgs).1]
    · -- another group's pick is not `r`, and `g`'s turn comes one later
      have hhead : ((pick rs g' c).map (·.id)).toList.count r.id = 0 := by
        cases hp : pick rs g' c with
        | none => simp
        | some p =>
          have hid : p.id ≠ r.id := fun h => hg' (Option.some.inj
            ((pick_mem hp).2.symm.trans (List.inj_on_of_nodup_map hrs (pick_mem hp).1 hr h ▸ hg)))
          simp [hid]
      have hidx : (g' :: gs).idxOf g = gs.idxOf g + 1 := by
        have hne : (g' == g) = false := by simpa using hg'
        simp [List.idxOf_cons, hne]
      simp [hhead, hidx, Ne.symm hg', Nat.add_assoc, Nat.add_comm 1]

end Picks

/-! ## One cursor for all groups -/

/-- A message moves the queue cursor once for each queue group it reaches. -/
theorem targets_cursor (b : Table α) (s : Subject) :
    (b.targets s).1.cursor = b.cursor + (groupNames (b.covering s)).length := by
  rw [targets_eq]

/-- The member of index `j` of a group that a message reaches gets it once when the cursor,
moved on by the groups before `g` in name order, is `j` modulo the group's size, and otherwise
not at all. -/
theorem count_targets_member {b : Table α} (hb : b.WellFormed) {s : Subject} {g : String} {j : Nat}
    (hj : j < (members (b.covering s) g).length) :
    (b.targets s).2.count (members (b.covering s) g)[j].id =
      if (b.cursor + (groupNames (b.covering s)).idxOf g) % (members (b.covering s) g).length = j
      then 1 else 0 := by
  have hc := covering_ids_nodup s hb
  have hmem := (mem_members.mp (List.getElem_mem hj))
  have hplain : (((b.covering s).filter (·.group.isNone)).map (·.id)).count
      (members (b.covering s) g)[j].id = 0 := by
    -- a member of a group has no group-less route's id
    refine List.count_eq_zero.mpr fun h => ?_
    obtain ⟨p, hp, hid⟩ := List.mem_map.mp h
    obtain ⟨hpc, hnone⟩ := List.mem_filter.mp hp
    have := List.inj_on_of_nodup_map hc hpc hmem.1 hid
    subst this
    simp [hmem.2] at hnone
  rw [targets_eq, List.count_append, hplain, Nat.zero_add,
    count_picks hc hmem.1 hmem.2 (groupNames_nodup _)]
  simp only [pick_id_eq_iff hc hj, mem_groupNames.mpr ⟨_, hmem.1, hmem.2⟩, true_and]

theorem foldl_modify_cursor (f : Route α → Route α) (ids : List Nat) (b : Table α) :
    (ids.foldl (fun b id => b.modify id f) b).cursor = b.cursor := by
  induction ids generalizing b with
  | nil => rfl
  | cons id ids ih => exact ih _

theorem deliver_cursor (b : Table α) (m : Message) :
    (b.deliver m).1.cursor = b.cursor + (groupNames (b.covering m.subject)).length := by
  simp only [deliver]
  rw [foldl_modify_cursor, targets_cursor]

theorem publish_of_publishable {b : Table α} {m : Message} (h : publishable m.subject = .ok ()) :
    b.publish m =
      .ok (Table.deliver { b with stats := { b.stats with published := b.stats.published + 1 } } m) := by
  simp [publish, h, Except.map]

/-! ## Channels that only grow route alike -/

theorem Grows.covering {b b' : Table α} (h : Grows b b') (s : Subject) :
    ∃ f : Route α → Route α, (∀ r, (f r).id = r.id ∧ (f r).group = r.group) ∧
      b'.covering s = (b.covering s).map f := by
  obtain ⟨-, more, hmore⟩ := h
  refine ⟨fun r => { r with channel := r.channel ++ more r }, fun _ => ⟨rfl, rfl⟩, ?_⟩
  simp only [Table.covering, hmore, List.filter_map]
  rfl

theorem Grows.groupNames {b b' : Table α} (h : Grows b b') (s : Subject) :
    Table.groupNames (b'.covering s) = Table.groupNames (b.covering s) := by
  obtain ⟨f, hf, hcov⟩ := h.covering s
  simp only [Table.groupNames, hcov, List.filterMap_map]
  congr 3
  funext r
  simp [(hf r).2]

theorem Grows.members_ids {b b' : Table α} (h : Grows b b') (s : Subject) (g : String) :
    (members (b'.covering s) g).map (·.id) = (members (b.covering s) g).map (·.id) := by
  obtain ⟨f, hf, hcov⟩ := h.covering s
  simp only [members, hcov, List.filter_map, List.map_map]
  have hp : ((fun r : Route α => r.group == some g) ∘ f) = fun r => r.group == some g := by
    funext r; simp [(hf r).2]
  rw [hp]
  apply List.map_congr_left
  intro r _
  simp [(hf r).1]

/-! ## A run of publications -/

/-- Publishes messages in turn; the last table and every target, in order, come back, or the
first refusal. -/
def publishAll (b : Table α) : List Message → Except BusError (Table α × List Nat)
  | [] => .ok (b, [])
  | m :: ms =>
    match b.publish m with
    | .error e => .error e
    | .ok (b, ids) =>
      match publishAll b ms with
      | .error e => .error e
      | .ok (b, rest) => .ok (b, ids ++ rest)

/-- One publication reaching the groups `gs`: the cursor moves by their number, and the member
of index `j` of group `g` gets the message when the cursor, moved on by the groups before `g`, is
`j` modulo the group's size. -/
theorem publish_groups {b : Table α} (hb : b.WellFormed) {m : Message}
    (hm : publishable m.subject = .ok ()) {g : String} :
    ∃ b' ids, b.publish m = .ok (b', ids) ∧ Grows b b' ∧
      b'.cursor = b.cursor + (groupNames (b.covering m.subject)).length ∧
      ∀ j (hj : j < (members (b.covering m.subject) g).length),
        ids.count (members (b.covering m.subject) g)[j].id =
          if (b.cursor + (groupNames (b.covering m.subject)).idxOf g) %
            (members (b.covering m.subject) g).length = j then 1 else 0 := by
  -- the counted table routes as the table itself
  let b₁ : Table α := { b with stats := { b.stats with published := b.stats.published + 1 } }
  have hb₁ : b₁.WellFormed := ⟨hb.ids_nodup, hb.ids_lt⟩
  have hpub := publish_of_publishable (b := b) hm
  refine ⟨(b₁.deliver m).1, (b₁.deliver m).2, hpub, grows_publish hpub, ?_, fun j hj => ?_⟩
  · exact deliver_cursor b₁ m
  · rw [deliver_targets]
    exact count_targets_member hb₁ hj

/-- A run of publications that each reach the same queue groups `gs`, and group `g` through the
same members `M`: the member of index `j` gets the `i`-th message when the cursor, moved by `gs`
for each earlier message and by the groups before `g` for this one, is `j` modulo the group's
size. -/
theorem publishAll_counts {b : Table α} (hb : b.WellFormed) {g : String} {gs : List String}
    {M : List Nat} {ms : List Message} (hpub : ∀ m ∈ ms, publishable m.subject = .ok ())
    (hnames : ∀ m ∈ ms, groupNames (b.covering m.subject) = gs)
    (hM : ∀ m ∈ ms, (members (b.covering m.subject) g).map (·.id) = M) :
    ∃ b' ids, b.publishAll ms = .ok (b', ids) ∧ Grows b b' ∧
      b'.cursor = b.cursor + gs.length * ms.length ∧
      ∀ j (hj : j < M.length), ids.count M[j] =
        Nat.count (fun i => (b.cursor + gs.length * i + gs.idxOf g) % M.length = j) ms.length := by
  induction ms generalizing b with
  | nil => exact ⟨b, [], rfl, Grows.refl b, by simp, fun _ _ => by simp⟩
  | cons m ms ih =>
    obtain ⟨b₁, ids₁, hp₁, hg₁, hc₁, hcount₁⟩ := publish_groups hb (hpub m (by simp)) (g := g)
    -- later messages reach the same groups and members on the grown table
    obtain ⟨b', rest, hrun, hg', hc', hcount'⟩ := ih (hg₁.wellFormed hb)
      (fun m' h => hpub m' (by simp [h]))
      (fun m' h => (hg₁.groupNames _).trans (hnames m' (by simp [h])))
      (fun m' h => (hg₁.members_ids _ _).trans (hM m' (by simp [h])))
    have hnm := hnames m (by simp)
    have hMm := hM m (by simp)
    refine ⟨b', ids₁ ++ rest, by simp [publishAll, hp₁, hrun], hg₁.trans hg', ?_, fun j hj => ?_⟩
    · rw [hc', hc₁, hnm, List.length_cons, Nat.mul_succ]
      omega
    · subst hMm
      have hj' : j < (members (b.covering m.subject) g).length := by simpa using hj
      rw [List.count_append, hcount' j hj, List.getElem_map, hcount₁ j hj', hc₁, hnm,
        List.length_cons, Nat.count_succ', Nat.add_comm]
      -- the first message is the one at cursor offset zero; the rest start one turn later
      congr 1
      · congr 1
        funext i
        rw [Nat.mul_succ, Nat.add_assoc b.cursor, Nat.add_comm (gs.length * i)]
      · simp

/-- A queue group's members share a run of publications evenly while the group is the only
one the run reaches: each of the `n` members gets `⌊k / n⌋` or `⌈k / n⌉` of the `k` messages. -/
theorem publishAll_share_even {b : Table α} (hb : b.WellFormed) {g : String} {M : List Nat}
    {ms : List Message} (hpub : ∀ m ∈ ms, publishable m.subject = .ok ())
    (halone : ∀ m ∈ ms, groupNames (b.covering m.subject) = [g])
    (hM : ∀ m ∈ ms, (members (b.covering m.subject) g).map (·.id) = M) :
    ∃ b' ids, b.publishAll ms = .ok (b', ids) ∧
      ∀ j (hj : j < M.length), ms.length / M.length ≤ ids.count M[j] ∧
        ids.count M[j] ≤ (ms.length + M.length - 1) / M.length := by
  obtain ⟨b', ids, hrun, -, -, hcount⟩ := publishAll_counts hb hpub halone hM
  refine ⟨b', ids, hrun, fun j hj => ?_⟩
  rw [hcount j hj]
  simpa using count_residue_window b.cursor ms.length hj

/-- When every message of a run reaches a number of queue groups that is a multiple of the size
of group `g`, one member of `g` gets every message and the others none. -/
theorem publishAll_one_member {b : Table α} (hb : b.WellFormed) {g : String} {gs : List String}
    {M : List Nat} {ms : List Message} (hpub : ∀ m ∈ ms, publishable m.subject = .ok ())
    (hnames : ∀ m ∈ ms, groupNames (b.covering m.subject) = gs)
    (hM : ∀ m ∈ ms, (members (b.covering m.subject) g).map (·.id) = M)
    (hdvd : M.length ∣ gs.length) :
    ∃ b' ids, b.publishAll ms = .ok (b', ids) ∧
      ∀ j (hj : j < M.length), ids.count M[j] =
        if (b.cursor + gs.idxOf g) % M.length = j then ms.length else 0 := by
  obtain ⟨b', ids, hrun, -, -, hcount⟩ := publishAll_counts hb hpub hnames hM
  refine ⟨b', ids, hrun, fun j hj => ?_⟩
  -- every turn of `g` falls on the same residue
  have hturn (i : Nat) : (b.cursor + gs.length * i + gs.idxOf g) % M.length =
      (b.cursor + gs.idxOf g) % M.length := by
    obtain ⟨q, hq⟩ := hdvd
    rw [hq, Nat.add_right_comm, Nat.mul_assoc, Nat.add_mul_mod_self_left]
  rw [hcount j hj]
  simp only [hturn]
  by_cases h : (b.cursor + gs.idxOf g) % M.length = j <;> simp [Nat.count_eq_card_filter_range, h]

end Table

end Courier.Bus
