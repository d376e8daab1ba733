import Courier.Bus.Memory
import Mathlib.Data.List.Nodup
import Mathlib.Data.List.Sort

/-!
# Routing on the in-memory bus

A message to a subject goes to every live route whose pattern covers the subject and that has
no queue group, and to exactly one covering live member of each queue group; nothing else gets
it, and a route that was removed gets nothing (`Routed`, proved of `targets` by
`targets_routed`). Delivering it appends one copy to the end of each target's channel and leaves
every other channel as it was (`deliver_route?`); publishing does both (`publish_spec`).

All of this needs the route ids of a table to be distinct, which every table the bus builds
satisfies (`WellFormed`, kept by each operation of the table).
-/

namespace Courier.Bus

namespace Table

variable {α : Type}

/-! ## Well-formed tables -/

/-- A table whose route ids are distinct and below the next id it hands out. -/
structure WellFormed (b : Table α) : Prop where
  ids_nodup : (b.routes.map (·.id)).Nodup
  ids_lt : ∀ r ∈ b.routes, r.id < b.nextId

theorem wellFormed_empty : WellFormed ({} : Table α) where
  ids_nodup := List.nodup_nil
  ids_lt := by simp

theorem modify_ids (b : Table α) (id : Nat) {f : Route α → Route α} (hf : ∀ r, (f r).id = r.id) :
    (b.modify id f).routes.map (·.id) = b.routes.map (·.id) := by
  simp only [modify, List.map_map]
  apply List.map_congr_left
  intro r _
  by_cases h : r.id = id <;> simp [h, hf]

theorem WellFormed.modify {b : Table α} (hb : b.WellFormed) (id : Nat) {f : Route α → Route α}
    (hf : ∀ r, (f r).id = r.id) : (b.modify id f).WellFormed where
  ids_nodup := by rw [modify_ids b id hf]; exact hb.ids_nodup
  ids_lt := by
    intro r hr
    simp only [Table.modify, List.mem_map] at hr ⊢
    obtain ⟨r₀, h₀, rfl⟩ := hr
    by_cases h : r₀.id = id
    · simpa [h, hf] using hb.ids_lt r₀ h₀
    · simpa [h] using hb.ids_lt r₀ h₀

theorem add_ok {b b' : Table α} {p : Subject} {g : Option String} {x : α} {id : Nat}
    (h : b.add p g x = .ok (b', id)) :
    id = b.nextId ∧ b' = { b with
      routes := b.routes ++ [{ id := b.nextId, pattern := p, group := g, handler := x }]
      nextId := b.nextId + 1 } := by
  unfold add at h
  split at h
  · cases h
  · cases h
    exact ⟨rfl, rfl⟩

theorem WellFormed.add {b b' : Table α} (hb : b.WellFormed) {p : Subject} {g : Option String}
    {x : α} {id : Nat} (h : b.add p g x = .ok (b', id)) : b'.WellFormed := by
  obtain ⟨-, rfl⟩ := add_ok h
  constructor
  · have hfresh : b.nextId ∉ b.routes.map (·.id) := by
      simp only [List.mem_map, not_exists, not_and]
      intro r hr heq
      exact absurd (heq ▸ hb.ids_lt r hr) (Nat.lt_irrefl _)
    simpa [List.nodup_append, hb.ids_nodup] using hfresh
  · intro r hr
    simp only [List.mem_append, List.mem_singleton] at hr
    rcases hr with hr | rfl
    · exact Nat.lt_succ_of_lt (hb.ids_lt r hr)
    · exact Nat.lt_succ_self b.nextId

theorem WellFormed.remove {b : Table α} (hb : b.WellFormed) (id : Nat) :
    (b.remove id).1.WellFormed := by
  unfold Table.remove
  split
  · exact hb.modify id fun _ => rfl
  · exact hb

theorem WellFormed.unsubscribe {b : Table α} (hb : b.WellFormed) (id : Nat) :
    (b.unsubscribe id).WellFormed := by
  have hr := hb.remove id
  unfold Table.unsubscribe
  cases h : b.remove id with
  | mk b' was =>
    rw [h] at hr
    cases was
    · exact hr
    · exact ⟨hr.ids_nodup, hr.ids_lt⟩

theorem WellFormed.countSubscribe {b : Table α} (hb : b.WellFormed) :
    b.countSubscribe.WellFormed :=
  ⟨hb.ids_nodup, hb.ids_lt⟩

theorem WellFormed.countRequest {b : Table α} (hb : b.WellFormed) : b.countRequest.WellFormed :=
  ⟨hb.ids_nodup, hb.ids_lt⟩

/-! ## Routes by id -/

theorem mem_of_route? {b : Table α} {id : Nat} {r : Route α} (h : b.route? id = some r) :
    r ∈ b.routes ∧ r.id = id :=
  ⟨List.mem_of_find?_eq_some h, by simpa using List.find?_some h⟩

theorem route?_of_mem {b : Table α} (hb : b.WellFormed) {r : Route α} (hr : r ∈ b.routes) :
    b.route? r.id = some r := by
  have hsome : (b.route? r.id).isSome := by
    simp only [route?, List.find?_isSome, beq_iff_eq]
    exact ⟨r, hr, rfl⟩
  obtain ⟨r', hr'⟩ := Option.isSome_iff_exists.mp hsome
  obtain ⟨hmem, hid⟩ := mem_of_route? hr'
  rw [hr', List.inj_on_of_nodup_map hb.ids_nodup hmem hr hid]

theorem route?_modify_self (b : Table α) (id : Nat) {f : Route α → Route α}
    (hf : ∀ r, (f r).id = r.id) : (b.modify id f).route? id = (b.route? id).map f := by
  simp only [route?, modify, List.find?_map]
  have hp : ((fun r : Route α => r.id == id) ∘ fun r => if r.id == id then f r else r) =
      fun r => r.id == id := by
    funext r
    by_cases h : r.id = id <;> simp [h, hf]
  rw [hp]
  cases hfind : b.routes.find? (·.id == id) with
  | none => rfl
  | some r => simp [(mem_of_route? hfind).2]

theorem route?_modify_ne (b : Table α) {id id' : Nat} (hne : id' ≠ id) {f : Route α → Route α}
    (hf : ∀ r, (f r).id = r.id) : (b.modify id f).route? id' = b.route? id' := by
  simp only [route?, modify, List.find?_map]
  have hp : ((fun r : Route α => r.id == id') ∘ fun r => if r.id == id then f r else r) =
      fun r => r.id == id' := by
    funext r
    by_cases h : r.id = id <;> simp [h, hf]
  rw [hp]
  cases hfind : b.routes.find? (·.id == id') with
  | none => rfl
  | some r =>
    have : r.id ≠ id := (mem_of_route? hfind).2 ▸ hne
    simp [this]

/-! ## Queue groups -/

theorem foldl_keepFirst (l : List String) {acc : List String} (hacc : acc.Nodup) :
    (l.foldl (fun acc g => if acc.contains g then acc else acc ++ [g]) acc).Nodup ∧
      ∀ x, x ∈ l.foldl (fun acc g => if acc.contains g then acc else acc ++ [g]) acc ↔
        x ∈ acc ∨ x ∈ l := by
  induction l generalizing acc with
  | nil => simp [hacc]
  | cons g l ih =>
    -- the step keeps the names without repetition and adds `g`
    have hstep : (if acc.contains g then acc else acc ++ [g]).Nodup ∧
        ∀ x, x ∈ (if acc.contains g then acc else acc ++ [g]) ↔ x ∈ acc ∨ x = g := by
      by_cases hg : g ∈ acc
      · simp only [List.contains_iff_mem, hg, if_true]
        exact ⟨hacc, fun x => ⟨Or.inl, fun h => h.elim id (· ▸ hg)⟩⟩
      · simp only [List.contains_iff_mem, hg, if_false]
        refine ⟨List.nodup_append.mpr ⟨hacc, List.nodup_singleton g, ?_⟩, by simp⟩
        rintro a ha b hb rfl
        exact hg (List.mem_singleton.mp hb ▸ ha)
    obtain ⟨hnd, hmem⟩ := ih hstep.1
    refine ⟨hnd, fun x => ?_⟩
    rw [List.foldl_cons, hmem, hstep.2]
    simp only [List.mem_cons]
    tauto

theorem groupNames_nodup (rs : List (Route α)) : (groupNames rs).Nodup :=
  (List.mergeSort_perm _ _).nodup_iff.mpr (foldl_keepFirst _ List.nodup_nil).1

theorem mem_groupNames {rs : List (Route α)} {g : String} :
    g ∈ groupNames rs ↔ ∃ r ∈ rs, r.group = some g := by
  rw [groupNames, (List.mergeSort_perm _ _).mem_iff, (foldl_keepFirst _ List.nodup_nil).2]
  simp [List.mem_filterMap]

/-- The member of queue group `g` among some routes that a cursor value picks. -/
def pick (rs : List (Route α)) (g : String) (c : Nat) : Option (Route α) :=
  (rs.filter (·.group == some g))[c % (rs.filter (·.group == some g)).length]?

/-- The ids picked for some queue groups in turn, the cursor moving once per group. -/
def picks (rs : List (Route α)) : Nat → List String → List Nat
  | _, [] => []
  | c, g :: gs => ((pick rs g c).map (·.id)).toList ++ picks rs (c + 1) gs

theorem pick_mem {rs : List (Route α)} {g : String} {c : Nat} {r : Route α}
    (h : pick rs g c = some r) : r ∈ rs ∧ r.group = some g := by
  obtain ⟨_, hr⟩ := List.getElem?_eq_some_iff.mp h
  have := hr ▸ List.getElem_mem _
  simpa using this

theorem pick_isSome {rs : List (Route α)} {g : String} (c : Nat) (h : ∃ r ∈ rs, r.group = some g) :
    ∃ r, pick rs g c = some r := by
  have hpos : 0 < (rs.filter (·.group == some g)).length := by
    obtain ⟨r, hr, hg⟩ := h
    exact List.length_pos_of_mem (List.mem_filter.mpr ⟨hr, by simp [hg]⟩)
  exact ⟨_, List.getElem?_eq_getElem (Nat.mod_lt _ hpos)⟩

theorem foldl_picks (rs : List (Route α)) {F : Nat × List Nat → String → Nat × List Nat}
    (hF : ∀ c acc g, F (c, acc) g = (c + 1, acc ++ ((pick rs g c).map (·.id)).toList))
    (gs : List String) (c : Nat) (acc : List Nat) :
    gs.foldl F (c, acc) = (c + gs.length, acc ++ picks rs c gs) := by
  induction gs generalizing c acc with
  | nil => simp [picks]
  | cons g gs ih =>
    rw [List.foldl_cons, hF, ih]
    simp only [picks, List.length_cons, List.append_assoc, Prod.mk.injEq, and_true]
    omega

theorem mem_picks {rs : List (Route α)} {c : Nat} {gs : List String} {id : Nat}
    (h : id ∈ picks rs c gs) : ∃ r ∈ rs, r.id = id ∧ ∃ g ∈ gs, r.group = some g := by
  induction gs generalizing c with
  | nil => simp [picks] at h
  | cons g gs ih =>
    simp only [picks, List.mem_append, Option.mem_toList, Option.map_eq_some_iff] at h
    rcases h with ⟨r, hr, rfl⟩ | h
    · obtain ⟨hmem, hg⟩ := pick_mem hr
      exact ⟨r, hmem, rfl, g, List.mem_cons_self, hg⟩
    · obtain ⟨r, hmem, hid, g', hg', hgr⟩ := ih h
      exact ⟨r, hmem, hid, g', List.mem_cons_of_mem _ hg', hgr⟩

theorem picks_complete {rs : List (Route α)} {c : Nat} {gs : List String} {g : String}
    (hg : g ∈ gs) (h : ∃ r ∈ rs, r.group = some g) :
    ∃ r ∈ rs, r.group = some g ∧ r.id ∈ picks rs c gs := by
  induction gs generalizing c with
  | nil => simp at hg
  | cons g' gs ih =>
    rcases List.mem_cons.mp hg with rfl | hg
    · obtain ⟨r, hr⟩ := pick_isSome c h
      obtain ⟨hmem, hgr⟩ := pick_mem hr
      exact ⟨r, hmem, hgr, by simp [picks, hr]⟩
    · obtain ⟨r, hmem, hgr, hid⟩ := ih (c := c + 1) hg
      exact ⟨r, hmem, hgr, by simp [picks, hid]⟩

section Unique

variable {rs : List (Route α)} (hrs : (rs.map (·.id)).Nodup)
include hrs

/-- A route of group `g` picked for a list of groups is the pick of the head group, which is
then `g`, or is picked for a later group, `g` being one of them. -/
theorem picked_cases {c : Nat} {g g' : String} {gs : List String} {r : Route α} (hr : r ∈ rs)
    (hg : r.group = some g) (h : r.id ∈ picks rs c (g' :: gs)) :
    (g = g' ∧ pick rs g' c = some r) ∨ (g ∈ gs ∧ r.id ∈ picks rs (c + 1) gs) := by
  simp only [picks, List.mem_append, Option.mem_toList, Option.map_eq_some_iff] at h
  rcases h with ⟨p, hp, hid⟩ | h
  · have hpr : p = r := List.inj_on_of_nodup_map hrs (pick_mem hp).1 hr hid
    subst hpr
    exact .inl ⟨Option.some.inj (hg.symm.trans (pick_mem hp).2), hp⟩
  · obtain ⟨r', hr', hid, g'', hg'', hgr⟩ := mem_picks h
    have hrr : r' = r := List.inj_on_of_nodup_map hrs hr' hr hid
    subst hrr
    exact .inr ⟨Option.some.inj (hg.symm.trans hgr) ▸ hg'', h⟩

theorem picks_unique {c : Nat} {gs : List String} (hgs : gs.Nodup) {g : String}
    {r₁ r₂ : Route α} (h₁ : r₁ ∈ rs) (h₂ : r₂ ∈ rs) (hg₁ : r₁.group = some g)
    (hg₂ : r₂.group = some g) (hp₁ : r₁.id ∈ picks rs c gs) (hp₂ : r₂.id ∈ picks rs c gs) :
    r₁ = r₂ := by
  induction gs generalizing c with
  | nil => simp [picks] at hp₁
  | cons g' gs ih =>
    have hg' : g' ∉ gs := (List.nodup_cons.mp hgs).1
    -- both are the head group's pick, or both are picked later: the head group is no later one
    rcases picked_cases hrs h₁ hg₁ hp₁ with ⟨he₁, hp₁'⟩ | ⟨hin₁, ht₁⟩ <;>
      rcases picked_cases hrs h₂ hg₂ hp₂ with ⟨he₂, hp₂'⟩ | ⟨hin₂, ht₂⟩
    · exact Option.some.inj (hp₁'.symm.trans hp₂')
    · exact absurd (he₁ ▸ hin₂) hg'
    · exact absurd (he₂ ▸ hin₁) hg'
    · exact ih (List.nodup_cons.mp hgs).2 ht₁ ht₂

theorem picks_nodup (c : Nat) {gs : List String} (hgs : gs.Nodup) : (picks rs c gs).Nodup := by
  induction gs generalizing c with
  | nil => exact List.nodup_nil
  | cons g gs ih =>
    have hg : g ∉ gs := (List.nodup_cons.mp hgs).1
    refine List.nodup_append.mpr ⟨?_, ih _ (List.nodup_cons.mp hgs).2, ?_⟩
    · cases pick rs g c <;> simp
    · intro a ha b hb hab
      simp only [Option.mem_toList, Option.map_eq_some_iff] at ha
      obtain ⟨p, hp, rfl⟩ := ha
      obtain ⟨r, hr, hid, g', hg', hgr⟩ := mem_picks (hab ▸ hb)
      have := List.inj_on_of_nodup_map hrs hr (pick_mem hp).1 hid
      subst this
      exact hg (Option.some.inj (hgr.symm.trans (pick_mem hp).2) ▸ hg')

end Unique

/-! ## Targets -/

/-- The live routes whose patterns cover a subject, in route order. -/
def covering (b : Table α) (s : Subject) : List (Route α) :=
  b.routes.filter fun r => r.live && r.pattern.covers s

theorem mem_covering {b : Table α} {s : Subject} {r : Route α} :
    r ∈ b.covering s ↔ r ∈ b.routes ∧ r.live = true ∧ r.pattern.covers s = true := by
  simp [covering]

/-- The targets of a subject: the covering routes without a group, then one pick per group,
groups in name order. -/
theorem targets_eq (b : Table α) (s : Subject) :
    b.targets s = ({ b with cursor := b.cursor + (groupNames (b.covering s)).length },
      ((b.covering s).filter (·.group.isNone)).map (·.id) ++
        picks (b.covering s) b.cursor (groupNames (b.covering s))) := by
  simp only [targets]
  rw [foldl_picks (b.covering s) (fun c acc g => by
    simp only [pick, covering]
    split <;> rename_i h <;> rw [h] <;> simp)]
  rfl

section Targets

variable {b : Table α} (s : Subject)

theorem covering_of_mem_targets {id : Nat} (h : id ∈ (b.targets s).2) :
    ∃ r ∈ b.covering s, r.id = id := by
  rw [targets_eq] at h
  rcases List.mem_append.mp h with h | h
  · obtain ⟨r, hr, rfl⟩ := List.mem_map.mp h
    exact ⟨r, (List.mem_filter.mp hr).1, rfl⟩
  · obtain ⟨r, hr, hid, -⟩ := mem_picks h
    exact ⟨r, hr, hid⟩

theorem mem_targets_of_plain {r : Route α} (hr : r ∈ b.covering s) (hg : r.group = none) :
    r.id ∈ (b.targets s).2 := by
  rw [targets_eq]
  exact List.mem_append_left _ (List.mem_map_of_mem (List.mem_filter.mpr ⟨hr, by simp [hg]⟩))

variable (hb : b.WellFormed)
include hb

theorem covering_ids_nodup : ((b.covering s).map (·.id)).Nodup :=
  hb.ids_nodup.sublist (List.filter_sublist.map _)

theorem targets_nodup : (b.targets s).2.Nodup := by
  have hc := covering_ids_nodup s hb
  rw [targets_eq]
  refine List.nodup_append.mpr ⟨hc.sublist (List.filter_sublist.map _),
    picks_nodup hc _ (groupNames_nodup _), ?_⟩
  -- a route without a group is no group's pick
  intro a ha c hc' hac
  subst hac
  simp only [List.mem_map, List.mem_filter, Option.isNone_iff_eq_none] at ha
  obtain ⟨r, ⟨hr, hnone⟩, rfl⟩ := ha
  obtain ⟨r', hr', hid, g, -, hg⟩ := mem_picks hc'
  have := List.inj_on_of_nodup_map hc hr' hr hid
  subst this
  simp [hnone] at hg

/-- A group with a covering member has exactly one covering member among the targets. -/
theorem existsUnique_group_target {g : String} (h : ∃ r ∈ b.covering s, r.group = some g) :
    ∃! r, r ∈ b.covering s ∧ r.group = some g ∧ r.id ∈ (b.targets s).2 := by
  have hc := covering_ids_nodup s hb
  obtain ⟨r, hr, hgr, hid⟩ := picks_complete (c := b.cursor) (mem_groupNames.mpr h) h
  refine ⟨r, ⟨hr, hgr, by rw [targets_eq]; exact List.mem_append_right _ hid⟩, ?_⟩
  rintro r' ⟨hr', hgr', hid'⟩
  rw [targets_eq] at hid'
  rcases List.mem_append.mp hid' with hplain | hpick
  · -- a member of a group is no route without a group
    obtain ⟨x, hx, hxid⟩ := List.mem_map.mp hplain
    obtain ⟨hxc, hxnone⟩ := List.mem_filter.mp hx
    have := List.inj_on_of_nodup_map hc hxc hr' hxid
    subst this
    simp [hgr'] at hxnone
  · exact picks_unique hc (groupNames_nodup _) hr' hr hgr' hgr hpick hid

end Targets

theorem targets_routes (b : Table α) (s : Subject) : (b.targets s).1.routes = b.routes := by
  rw [targets_eq]

/-! ## Delivery -/

/-- Appending a message to the channels of some ids, one id at a time, gives each route one copy
per occurrence of its id, after what it already held. -/
theorem foldl_append_routes (m : Message) (ids : List Nat) (b : Table α) :
    (ids.foldl (fun b id => b.modify id fun r => { r with channel := r.channel ++ [m] }) b).routes =
      b.routes.map fun r => { r with channel := r.channel ++ List.replicate (ids.count r.id) m } := by
  induction ids generalizing b with
  | nil => simp
  | cons id ids ih =>
    rw [List.foldl_cons, ih]
    simp only [modify, List.map_map]
    apply List.map_congr_left
    intro r _
    by_cases h : r.id = id
    · simp [h, List.replicate_succ]
    · simp [h, Ne.symm h]

theorem deliver_targets (b : Table α) (m : Message) : (b.deliver m).2 = (b.targets m.subject).2 :=
  rfl

theorem deliver_routes (b : Table α) (m : Message) :
    (b.deliver m).1.routes = b.routes.map fun r =>
      { r with channel := r.channel ++ List.replicate ((b.deliver m).2.count r.id) m } := by
  simp only [deliver]
  rw [foldl_append_routes, targets_routes]

theorem deliver_nextId (b : Table α) (m : Message) : (b.deliver m).1.nextId = b.nextId := by
  have key : ∀ (ids : List Nat) (b : Table α),
      (ids.foldl (fun b id => b.modify id fun r => { r with channel := r.channel ++ [m] }) b).nextId =
        b.nextId := by
    intro ids
    induction ids with
    | nil => intro b; rfl
    | cons id ids ih => intro b; rw [List.foldl_cons, ih]; rfl
  simp only [deliver]
  rw [key, targets_eq]

theorem WellFormed.deliver {b : Table α} (hb : b.WellFormed) (m : Message) :
    (b.deliver m).1.WellFormed where
  ids_nodup := by
    rw [deliver_routes, List.map_map]
    exact hb.ids_nodup
  ids_lt := by
    rw [deliver_routes, deliver_nextId]
    intro r hr
    obtain ⟨r₀, h₀, rfl⟩ := List.mem_map.mp hr
    exact hb.ids_lt r₀ h₀

/-- After a delivery, a target holds one more copy at the end of its channel and every other
route is unchanged. -/
theorem deliver_route? {b : Table α} (hb : b.WellFormed) (m : Message) {r : Route α}
    (hr : r ∈ b.routes) :
    (b.deliver m).1.route? r.id =
      some { r with channel := r.channel ++ if r.id ∈ (b.deliver m).2 then [m] else [] } := by
  have hmem : { r with channel := r.channel ++ List.replicate ((b.deliver m).2.count r.id) m } ∈
      (b.deliver m).1.routes := by
    rw [deliver_routes]
    exact List.mem_map_of_mem hr
  rw [route?_of_mem (hb.deliver m) hmem]
  have hnd : (b.deliver m).2.Nodup := targets_nodup m.subject hb
  by_cases h : r.id ∈ (b.deliver m).2
  · simp [h, List.count_eq_one_of_mem hnd h]
  · simp [h, List.count_eq_zero_of_not_mem h]

/-! ## Publishing -/

/-- The ids a message to `s` goes to, by the routing rules: each once, only live routes that
cover `s`, every such route without a queue group, and exactly one such member of each queue
group that has one. -/
structure Routed (b : Table α) (s : Subject) (ids : List Nat) : Prop where
  nodup : ids.Nodup
  covering : ∀ id ∈ ids, ∃ r ∈ b.covering s, r.id = id
  plain : ∀ r ∈ b.covering s, r.group = none → r.id ∈ ids
  group : ∀ g, (∃ r ∈ b.covering s, r.group = some g) →
    ∃! r, r ∈ b.covering s ∧ r.group = some g ∧ r.id ∈ ids

theorem targets_routed {b : Table α} (hb : b.WellFormed) (s : Subject) :
    Routed b s (b.targets s).2 where
  nodup := targets_nodup s hb
  covering _ := covering_of_mem_targets s
  plain _ := mem_targets_of_plain s
  group _ := existsUnique_group_target s hb

/-- Routing reads only the routes of a table. -/
theorem Routed.of_routes_eq {b b' : Table α} (h : b.routes = b'.routes) {s : Subject}
    {ids : List Nat} (hr : Routed b s ids) : Routed b' s ids := by
  have hc : b.covering s = b'.covering s := by simp only [Table.covering, h]
  exact ⟨hr.nodup, hc ▸ hr.covering, hc ▸ hr.plain, hc ▸ hr.group⟩

theorem Routed.not_mem_of_removed {b : Table α} {s : Subject} {ids : List Nat} (h : Routed b s ids)
    (hb : b.WellFormed) {r : Route α} (hr : r ∈ b.routes) (hdead : r.live = false) :
    r.id ∉ ids := by
  intro hid
  obtain ⟨r', hr', hid'⟩ := h.covering r.id hid
  obtain ⟨hmem, hlive, -⟩ := mem_covering.mp hr'
  have := List.inj_on_of_nodup_map hb.ids_nodup hmem hr hid'
  subst this
  simp [hdead] at hlive

/-- A subject covered by one live route alone is routed to that route alone, whether it is in a
queue group or not. -/
theorem Routed.eq_singleton {b : Table α} {s : Subject} {ids : List Nat} {id : Nat}
    (h : Routed b s ids) (hc : (b.covering s).map (·.id) = [id]) : ids = [id] := by
  obtain ⟨r, hr, rfl⟩ := List.mem_map.mp (hc ▸ List.mem_singleton_self id)
  have honly : ∀ r' ∈ b.covering s, r'.id = r.id := fun r' hr' => by
    have hmem : r'.id ∈ (b.covering s).map (·.id) := List.mem_map_of_mem hr'
    simpa [hc] using hmem
  -- the route's id is routed, and every routed id is the route's
  have hin : r.id ∈ ids := by
    cases hg : r.group with
    | none => exact h.plain r hr hg
    | some g =>
      obtain ⟨r', ⟨hr', -, hin⟩, -⟩ := h.group g ⟨r, hr, hg⟩
      exact honly r' hr' ▸ hin
  by_contra hne
  rcases (h.nodup.ne_singleton_iff r.id).mp hne with rfl | ⟨i, hi, hir⟩
  · simp at hin
  · obtain ⟨r', hr', rfl⟩ := h.covering i hi
    exact hir (honly r' hr')

theorem publish_eq {b : Table α} {m : Message} (hv : m.subject.validate = .ok ())
    (hw : m.subject.isWildcard = false) :
    b.publish m =
      .ok (Table.deliver { b with stats := { b.stats with published := b.stats.published + 1 } } m) := by
  simp [publish, publishable, hv, hw, Except.map]

/-- What a publication does to the routes: each target, chosen by the routing rules, gets one
copy at the end of its channel, and nothing else changes. -/
theorem publish_spec {b : Table α} (hb : b.WellFormed) {m : Message}
    (hv : m.subject.validate = .ok ()) (hw : m.subject.isWildcard = false) :
    ∃ b' ids, b.publish m = .ok (b', ids) ∧ b'.WellFormed ∧ Routed b m.subject ids ∧
      ∀ r ∈ b.routes,
        b'.route? r.id = some { r with channel := r.channel ++ if r.id ∈ ids then [m] else [] } := by
  -- the counted table has the same routes, so it routes the same
  let b₁ : Table α := { b with stats := { b.stats with published := b.stats.published + 1 } }
  have hb₁ : b₁.WellFormed := ⟨hb.ids_nodup, hb.ids_lt⟩
  refine ⟨(b₁.deliver m).1, (b₁.deliver m).2, publish_eq hv hw, hb₁.deliver m, ?_,
    fun r hr => deliver_route? hb₁ m hr⟩
  rw [deliver_targets]
  exact Routed.of_routes_eq (show b₁.routes = b.routes from rfl) (targets_routed hb₁ m.subject)

/-! ## Growing channels -/

/-- `b'` has the routes of `b`, in order, each as it was but with more messages at the end of
its channel, and the same next id. -/
def Grows (b b' : Table α) : Prop :=
  b'.nextId = b.nextId ∧ ∃ more : Route α → List Message,
    b'.routes = b.routes.map fun r => { r with channel := r.channel ++ more r }

@[refl, simp]
theorem Grows.refl (b : Table α) : Grows b b :=
  ⟨rfl, fun _ => [], by simp⟩

@[trans]
theorem Grows.trans {b₁ b₂ b₃ : Table α} (h₁ : Grows b₁ b₂) (h₂ : Grows b₂ b₃) : Grows b₁ b₃ := by
  obtain ⟨hn₁, f, hf⟩ := h₁
  obtain ⟨hn₂, g, hg⟩ := h₂
  refine ⟨hn₂.trans hn₁, fun r => f r ++ g { r with channel := r.channel ++ f r }, ?_⟩
  rw [hg, hf, List.map_map]
  apply List.map_congr_left
  intro r _
  simp

theorem Grows.wellFormed {b b' : Table α} (h : Grows b b') (hb : b.WellFormed) : b'.WellFormed := by
  obtain ⟨hn, f, hf⟩ := h
  constructor
  · rw [hf, List.map_map]
    exact hb.ids_nodup
  · intro r hr
    rw [hf] at hr
    obtain ⟨r₀, h₀, rfl⟩ := List.mem_map.mp hr
    exact hn ▸ hb.ids_lt r₀ h₀

theorem Grows.route? {b b' : Table α} (h : Grows b b') (hb : b.WellFormed) {id : Nat}
    {r : Route α} (hr : b.route? id = some r) :
    ∃ more, b'.route? id = some { r with channel := r.channel ++ more } := by
  obtain ⟨hmem, rfl⟩ := mem_of_route? hr
  obtain ⟨hn, f, hf⟩ := h
  have hmem' : { r with channel := r.channel ++ f r } ∈ b'.routes := by
    rw [hf]
    exact List.mem_map_of_mem hmem
  exact ⟨f r, route?_of_mem (Grows.wellFormed ⟨hn, f, hf⟩ hb) hmem'⟩

theorem grows_deliver (b : Table α) (m : Message) : Grows b (b.deliver m).1 :=
  ⟨deliver_nextId b m, _, deliver_routes b m⟩

theorem grows_publish {b b' : Table α} {m : Message} {ids : List Nat}
    (h : b.publish m = .ok (b', ids)) : Grows b b' := by
  unfold publish at h
  cases hp : publishable m.subject with
  | error e => simp [hp, Except.map] at h
  | ok u =>
    simp only [hp, Except.map, Except.ok.injEq] at h
    have := grows_deliver { b with stats := { b.stats with published := b.stats.published + 1 } } m
    rw [h] at this
    exact ⟨this.1, this.2⟩

end Table

/-! ## What routing reads -/

/-- A route's id, liveness and pattern: all that routing reads of it. -/
def Route.key {α : Type} (r : Route α) : Nat × Bool × Subject := (r.id, r.live, r.pattern)

namespace Table

variable {α : Type}

theorem covering_ids_eq {b b' : Table α} (h : b'.routes.map Route.key = b.routes.map Route.key)
    (s : Subject) : (b'.covering s).map (·.id) = (b.covering s).map (·.id) := by
  have hkey : ∀ l : List (Route α), (l.filter fun r => r.live && r.pattern.covers s).map (·.id) =
      ((l.map Route.key).filter fun k => k.2.1 && k.2.2.covers s).map (·.1) := by
    intro l
    induction l with
    | nil => rfl
    | cons r l ih =>
      by_cases hr : (r.live && r.pattern.covers s) = true <;>
        simp_all [Route.key]
  simp only [covering, hkey, h]

@[simp]
theorem covering_countRequest (b : Table α) (s : Subject) : b.countRequest.covering s = b.covering s :=
  rfl

/-- A route added covers what its pattern covers, after the routes that were there. -/
theorem covering_add {b b' : Table α} {p : Subject} {g : Option String} {x : α} {k : Nat}
    (h : b.add p g x = .ok (b', k)) (s : Subject) :
    (b'.covering s).map (·.id) = (b.covering s).map (·.id) ++ if p.covers s then [k] else [] := by
  obtain ⟨rfl, rfl⟩ := add_ok h
  cases hc : p.covers s <;> simp [covering, List.filter_append, hc]

theorem Grows.keys {b b' : Table α} (h : Grows b b') :
    b'.routes.map Route.key = b.routes.map Route.key := by
  obtain ⟨-, more, hr⟩ := h
  rw [hr, List.map_map]
  rfl

theorem modify_keys (b : Table α) (id : Nat) {f : Route α → Route α}
    (hf : ∀ r, (f r).key = r.key) : (b.modify id f).routes.map Route.key = b.routes.map Route.key := by
  simp only [modify, List.map_map]
  apply List.map_congr_left
  intro r _
  by_cases h : r.id = id <;> simp [h, hf]

end Table

end Courier.Bus
