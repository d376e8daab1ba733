import Courier.Proofs.Validation
import Courier.Proofs.Signatures
import Courier.Proofs.Refusals

/-!
# Variables scoped to a service

A service reads its subject variables from a map of names to values. A name `svc/var` is scoped
to the service `svc`; other names are unscoped. The service's variables are the unscoped ones,
then every name scoped to it, which overrides an unscoped name of the same variable. They come
out as a keyed list, in increasing key order.

Main statements:

* the variable `n` of a service `f` without `/` in its name takes the value of `f/n`, else of `n`
  when `n` has no `/`, and has no other values (`mem_serviceVars_iff`);
* the result is the same for every order of the map's entries (`serviceVars_perm`): two keyed
  lists in key order with the same entries are one list (`Keyed.eq_of_mem_iff`);
* each token is split at dots and trimmed before its variable is looked up
  (`parametrize_eq_pieces`).
-/

namespace Courier.Keyed

variable {α : Type}

/-! ## Keyed lists in key order -/

theorem Ordered.nodup_keys {xs : List (String × α)} (h : Ordered xs) :
    (xs.map Prod.fst).Nodup :=
  List.pairwise_map.2 (h.imp ne_of_lt)

theorem Ordered.nodup {xs : List (String × α)} (h : Ordered xs) : xs.Nodup :=
  h.imp fun hab he => by
    subst he
    exact lt_irrefl _ hab

theorem find?_eq_none_of_not_mem {key : String} {xs : List (String × α)}
    (h : key ∉ xs.map Prod.fst) : find? key xs = none := by
  induction xs with
  | nil => rfl
  | cons x rest ih =>
    obtain ⟨k, w⟩ := x
    simp only [List.map_cons, List.mem_cons, not_or] at h
    have hk : (k == key) = false := by simpa using Ne.symm h.1
    simp [find?, hk, ih h.2]

theorem find?_eq_some_iff {key : String} {v : α} {xs : List (String × α)}
    (h : (xs.map Prod.fst).Nodup) : find? key xs = some v ↔ (key, v) ∈ xs := by
  refine ⟨mem_of_find?_eq_some, fun hmem => ?_⟩
  induction xs with
  | nil => cases hmem
  | cons x rest ih =>
    obtain ⟨k, w⟩ := x
    simp only [List.map_cons, List.nodup_cons] at h
    rcases List.mem_cons.1 hmem with he | hmem
    · obtain ⟨rfl, rfl⟩ := Prod.mk.inj he
      simp [find?]
    · have hne : k ≠ key := fun hk => h.1 (hk ▸ List.mem_map.2 ⟨(key, v), hmem, rfl⟩)
      have hk : (k == key) = false := by simpa using hne
      simp [find?, hk, ih h.2 hmem]

/-- Two keyed lists in key order with the same entries are the same list. -/
theorem eq_of_mem_iff {xs ys : List (String × α)} (hx : Ordered xs) (hy : Ordered ys)
    (h : ∀ e, e ∈ xs ↔ e ∈ ys) : xs = ys := by
  have hperm : xs.Perm ys :=
    (List.perm_ext_iff_of_nodup hx.nodup hy.nodup).2 h
  exact hperm.eq_of_pairwise (fun a b _ _ hab hba => absurd (lt_trans hab hba) (lt_irrefl _))
    hx hy

/-- Inserting entries with one entry per key in turn: a key finds its entry's value, or else
what it found before. -/
theorem find?_foldl_insert {xs : List (String × α)} (h : (xs.map Prod.fst).Nodup)
    (acc : List (String × α)) (n : String) :
    find? n (xs.foldl (fun acc e => insert e.1 e.2 acc) acc) = (find? n xs).or (find? n acc) := by
  induction xs generalizing acc with
  | nil => simp
  | cons x rest ih =>
    obtain ⟨k, w⟩ := x
    simp only [List.map_cons, List.nodup_cons] at h
    rw [List.foldl_cons, ih h.2]
    by_cases hk : k = n
    · subst hk
      rw [find?_eq_none_of_not_mem h.1, find?_insert_self]
      simp [find?]
    · have hne : (k == n) = false := by simpa using hk
      rw [find?_insert_ne _ _ (Ne.symm hk)]
      simp [find?, hne]

theorem ofList_eq_foldl (xs : List (String × α)) :
    ofList xs = xs.foldl (fun acc e => insert e.1 e.2 acc) [] := rfl

theorem ordered_ofList (xs : List (String × α)) : Ordered (ofList xs) := by
  rw [ofList_eq_foldl]
  exact ordered_foldl_insert xs List.Pairwise.nil

theorem find?_ofList {xs : List (String × α)} (h : (xs.map Prod.fst).Nodup) (n : String) :
    find? n (ofList xs) = find? n xs := by
  rw [ofList_eq_foldl, find?_foldl_insert h]
  simp

theorem find?_filter_key (p : String → Bool) (xs : List (String × α)) (n : String) :
    find? n (xs.filter fun e => p e.1) = if p n then find? n xs else none := by
  induction xs with
  | nil => simp
  | cons x rest ih =>
    obtain ⟨k, w⟩ := x
    by_cases hk : k = n
    · subst hk
      by_cases hp : p k <;> simp [find?, hp, ih]
    · have hne : (k == n) = false := by simpa using hk
      by_cases hp : p k <;> simp [find?, hp, hne, ih]

theorem find?_perm {xs ys : List (String × α)} (h : (ys.map Prod.fst).Nodup) (hp : xs.Perm ys)
    (n : String) : find? n xs = find? n ys := by
  have hx : (xs.map Prod.fst).Nodup := (hp.map Prod.fst).nodup_iff.2 h
  cases hn : find? n ys with
  | none =>
    cases hm : find? n xs with
    | none => rfl
    | some v =>
      have := (find?_eq_some_iff h).2 (hp.subset (mem_of_find?_eq_some hm))
      rw [hn] at this
      cases this
  | some v => exact (find?_eq_some_iff hx).2 (hp.symm.subset (mem_of_find?_eq_some hn))

end Courier.Keyed

namespace Courier.Text

theorem intercalate_split (s : String) (c : Char) :
    (String.singleton c).intercalate (split s c) = s := by
  apply String.toList_inj.mp
  simp [split, Function.comp_def, List.intercalate_splitOn]

theorem split_ne_nil (s : String) (c : Char) : split s c ≠ [] := by
  simp [split, List.splitOn_ne_nil]

/-- A name scoped to `f`, where `f` has no slash, splits at slashes into `f` and the pieces of
the scoped part. -/
theorem split_scoped {f : String} (hf : '/' ∉ f.toList) (n : String) :
    split (f ++ "/" ++ n) '/' = f :: split n '/' := by
  have hsep : "/" = String.singleton '/' := rfl
  rw [hsep, split_append_sep, split_of_not_mem hf]
  rfl

end Courier.Text

namespace Courier.Derive

open Text Keyed

/-! ## Reading the variables of a service -/

/-- One step of reading the variables scoped to the service `f`: a name `f/var` sets `var`, and
every other name changes nothing. -/
def scopedStep (f : String) : List (String × String) → String × String → List (String × String) :=
  fun acc (k, v) =>
    match split k '/' with
    | svc :: rest@(_ :: _) => if svc == f then Keyed.insert ("/".intercalate rest) v acc else acc
    | _ => acc

/-- The variables of the service `f` read from the entries `V`: the unscoped entries, then the
entries scoped to `f` in turn. -/
def scopedVars (f : String) (V : List (String × String)) : List (String × String) :=
  V.foldl (scopedStep f) (ofList (V.filter fun e => !e.1.toList.contains '/'))

theorem serviceVars_some (f : String) (V : List (String × String)) :
    serviceVars f (some V) = some (scopedVars f V) := rfl

theorem append_slash_cancel {f m n : String} (h : f ++ "/" ++ m = f ++ "/" ++ n) : m = n := by
  have := congrArg String.toList h
  simp only [String.toList_append] at this
  exact String.toList_inj.mp (List.append_cancel_left this)

theorem find?_scopedStep {f : String} (hf : '/' ∉ f.toList) (acc : List (String × String))
    (k v n : String) :
    find? n (scopedStep f acc (k, v)) = if k = f ++ "/" ++ n then some v else find? n acc := by
  -- a name scoped to `f` splits with `f` first, and then has more pieces
  have hscoped : k = f ++ "/" ++ n → split k '/' = f :: split n '/' := fun h => h ▸ split_scoped hf n
  dsimp only [scopedStep]
  split
  · rename_i svc x xs hsplit
    have hk : k = svc ++ "/" ++ "/".intercalate (x :: xs) := by
      rw [← intercalate_split k '/', hsplit]
      exact String.intercalate_cons_of_ne_nil (List.cons_ne_nil x xs)
    by_cases hsvc : svc = f
    · subst hsvc
      rw [if_pos (beq_self_eq_true svc)]
      by_cases hn : "/".intercalate (x :: xs) = n
      · rw [hn] at hk ⊢
        rw [if_pos hk, find?_insert_self]
      · rw [find?_insert_ne _ _ (Ne.symm hn), if_neg]
        intro h
        exact hn (append_slash_cancel (hk.symm.trans h))
    · rw [if_neg (by simpa using hsvc), if_neg]
      intro h
      rw [hscoped h] at hsplit
      exact hsvc (List.cons.inj hsplit).1.symm
  · rename_i hno
    rw [if_neg]
    intro h
    obtain ⟨x, xs, hxs⟩ := List.exists_cons_of_ne_nil (split_ne_nil n '/')
    exact hno f x xs (by rw [hscoped h, hxs])

theorem ordered_scopedStep (f : String) {acc : List (String × String)} (h : Ordered acc)
    (e : String × String) : Ordered (scopedStep f acc e) := by
  obtain ⟨k, v⟩ := e
  dsimp only [scopedStep]
  split
  · split
    · exact ordered_insert _ _ h
    · exact h
  · exact h

/-- Reading entries with one entry per name: the variable `n` takes the value of `f/n`, or else
keeps what it had. -/
theorem find?_foldl_scopedStep {f : String} (hf : '/' ∉ f.toList) {V : List (String × String)}
    (hV : (V.map Prod.fst).Nodup) (acc : List (String × String)) (n : String) :
    find? n (V.foldl (scopedStep f) acc) = (find? (f ++ "/" ++ n) V).or (find? n acc) := by
  induction V generalizing acc with
  | nil => simp
  | cons x rest ih =>
    obtain ⟨k, v⟩ := x
    simp only [List.map_cons, List.nodup_cons] at hV
    rw [List.foldl_cons, ih hV.2, find?_scopedStep hf]
    by_cases hk : k = f ++ "/" ++ n
    · subst hk
      rw [find?_eq_none_of_not_mem hV.1, if_pos rfl]
      simp [find?]
    · have hne : (k == f ++ "/" ++ n) = false := by simpa using hk
      rw [if_neg hk]
      simp [find?, hne]

theorem ordered_foldl_scopedStep (f : String) (V : List (String × String))
    {acc : List (String × String)} (h : Ordered acc) : Ordered (V.foldl (scopedStep f) acc) := by
  induction V generalizing acc with
  | nil => exact h
  | cons e rest ih => exact ih (ordered_scopedStep f h e)

theorem ordered_scopedVars (f : String) (V : List (String × String)) :
    Ordered (scopedVars f V) :=
  ordered_foldl_scopedStep f V (ordered_ofList _)

/-- The variable `n` of the service `f` takes the value of `f/n`, or else the value of `n` when
`n` has no slash. -/
theorem find?_scopedVars {f : String} (hf : '/' ∉ f.toList) {V : List (String × String)}
    (hV : (V.map Prod.fst).Nodup) (n : String) :
    find? n (scopedVars f V) =
      (find? (f ++ "/" ++ n) V).or (if '/' ∈ n.toList then none else find? n V) := by
  have hkeys : ((V.filter fun e => !e.1.toList.contains '/').map Prod.fst).Nodup :=
    hV.sublist ((List.filter_sublist).map Prod.fst)
  rw [scopedVars, find?_foldl_scopedStep hf hV, find?_ofList hkeys,
    find?_filter_key (fun k => !k.toList.contains '/')]
  by_cases hn : '/' ∈ n.toList <;> simp [hn]

/-- The entries of the variables of the service `f`: each name `n` with the value of `f/n`, or
else with the value of `n` when `n` has no slash, and nothing else. -/
theorem mem_scopedVars_iff {f : String} (hf : '/' ∉ f.toList) {V : List (String × String)}
    (hV : (V.map Prod.fst).Nodup) (n v : String) :
    (n, v) ∈ scopedVars f V ↔ find? (f ++ "/" ++ n) V = some v ∨
      (find? (f ++ "/" ++ n) V = none ∧ '/' ∉ n.toList ∧ find? n V = some v) := by
  rw [← find?_eq_some_iff (ordered_scopedVars f V).nodup_keys, find?_scopedVars hf hV]
  cases find? (f ++ "/" ++ n) V <;> by_cases hn : '/' ∈ n.toList <;> simp [hn]

example : serviceVars "svc" (some [("a", "1"), ("svc/a", "10"), ("other/b", "20")]) =
      some [("a", "10")] ∧
    serviceVars "other" (some [("a", "1"), ("svc/a", "10"), ("other/b", "20")]) =
      some [("a", "1"), ("b", "20")] := by
  decide

/-- The variables of a service do not depend on the order of the entries they are read from. -/
theorem scopedVars_perm {f : String} (hf : '/' ∉ f.toList) {V V' : List (String × String)}
    (hV : (V.map Prod.fst).Nodup) (hp : V'.Perm V) : scopedVars f V' = scopedVars f V := by
  have hV' : (V'.map Prod.fst).Nodup := (hp.map Prod.fst).nodup_iff.2 hV
  apply eq_of_mem_iff (ordered_scopedVars f V') (ordered_scopedVars f V)
  rintro ⟨n, v⟩
  rw [mem_scopedVars_iff hf hV', mem_scopedVars_iff hf hV, find?_perm hV hp, find?_perm hV hp]

/-! ## Replacing variables -/

/-- A token names a variable when it opens with `{` or closes with `}`; the name is the token
without its leading `{` and trailing `}`. -/
theorem variableName_eq (t : String) :
    variableName t =
      if ['\x7b'] <+: t.toList ∨ ['\x7d'] <:+ t.toList then
        some (String.ofList ((t.toList.dropWhile (· == '\x7b')).reverse.dropWhile (· == '\x7d')).reverse)
      else none := by
  simp [variableName, ← String.endsWith_toSlice]

/-- The pieces of a dotted text: split at dots by the standard splitter, trimmed, the empty ones
dropped. -/
theorem dotSplit_eq (x : String) : dotSplit x = ((x.splitOn ".").map trim).filter (· ≠ "") := by
  have hdot : String.singleton '.' = "." := rfl
  rw [dotSplit, split_eq_splitOn, hdot, Subject.filter_not_isEmpty]

/-- Parametrized tokens: the pieces of every token, each variable replaced by its value, or by
`*` when it has none or there are no variables. -/
theorem parametrize_eq_pieces (T : List String) (vars : Option (List (String × String))) :
    parametrize T vars =
      (T.flatMap fun x => ((x.splitOn ".").map trim).filter (· ≠ "")).map fun t =>
        if ['\x7b'] <+: t.toList ∨ ['\x7d'] <:+ t.toList then
          (vars.bind (find? (String.ofList
            ((t.toList.dropWhile (· == '\x7b')).reverse.dropWhile (· == '\x7d')).reverse))).getD "*"
        else t := by
  rw [parametrize_eq, List.flatMap_congr fun x _ => dotSplit_eq x]
  refine List.map_congr_left fun t _ => ?_
  rw [substitute, variableName_eq]
  split_ifs <;> rfl

/-- The variables of a service resolve with scoped names first, whatever the order of the
entries they are read from, and every token is cut at dots and trimmed before its variable is
replaced. -/
theorem scoped_vars_resolve_in_any_order (f : String) (hf : '/' ∉ f.toList)
    (V : List (String × String)) (hV : (V.map Prod.fst).Nodup) :
    (∃ E, serviceVars f (some V) = some E ∧ Ordered E ∧
      (∀ n v, (n, v) ∈ E ↔ find? (f ++ "/" ++ n) V = some v ∨
        (find? (f ++ "/" ++ n) V = none ∧ '/' ∉ n.toList ∧ find? n V = some v)) ∧
      ∀ V', V'.Perm V → serviceVars f (some V') = some E) ∧
    ∀ (T : List String) (vars : Option (List (String × String))),
      parametrize T vars =
        (T.flatMap fun x => ((x.splitOn ".").map trim).filter (· ≠ "")).map fun t =>
          if ['\x7b'] <+: t.toList ∨ ['\x7d'] <:+ t.toList then
            (vars.bind (find? (String.ofList
              ((t.toList.dropWhile (· == '\x7b')).reverse.dropWhile (· == '\x7d')).reverse))).getD "*"
          else t :=
  ⟨⟨scopedVars f V, serviceVars_some f V, ordered_scopedVars f V, mem_scopedVars_iff hf hV,
      fun _ hp => by rw [serviceVars_some, scopedVars_perm hf hV hp]⟩,
    parametrize_eq_pieces⟩

/-- A service `svc` with an unscoped `a`, its own `svc/a` and another service's `other/b`. -/
theorem scoped_value_overrides_unscoped :
    let V := [("a", "1"), ("svc/a", "10"), ("other/b", "20")]
    '/' ∉ "svc".toList ∧ (V.map Prod.fst).Nodup ∧
    ((∃ E, serviceVars "svc" (some V) = some E ∧ Ordered E ∧
      (∀ n v, (n, v) ∈ E ↔ find? ("svc" ++ "/" ++ n) V = some v ∨
        (find? ("svc" ++ "/" ++ n) V = none ∧ '/' ∉ n.toList ∧ find? n V = some v)) ∧
      ∀ V', V'.Perm V → serviceVars "svc" (some V') = some E) ∧
    ∀ (T : List String) (vars : Option (List (String × String))),
      parametrize T vars =
        (T.flatMap fun x => ((x.splitOn ".").map trim).filter (· ≠ "")).map fun t =>
          if ['\x7b'] <+: t.toList ∨ ['\x7d'] <:+ t.toList then
            (vars.bind (find? (String.ofList
              ((t.toList.dropWhile (· == '\x7b')).reverse.dropWhile (· == '\x7d')).reverse))).getD "*"
          else t) := by
  intro V
  have hf : '/' ∉ "svc".toList := by decide
  have hV : (V.map Prod.fst).Nodup := by decide
  exact ⟨hf, hV, scoped_vars_resolve_in_any_order "svc" hf V hV⟩

end Courier.Derive
