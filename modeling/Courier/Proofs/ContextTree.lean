import Courier.Proofs.ClientStreams
import Courier.Script.Context

/-!
# Deadlines and cancellation down the context tree

A context is made from another by a `Derivation`: a child, a child with a deadline or a
timeout, or a copy that carries a header or an inbound envelope. A `Chain` is a run of
derivations made one after another, while the token forest may grow in between (`Tokens.Grows`:
other tokens made under existing ones, any token cancelled).

Along a chain the deadline is the earliest of the start's and those the derivations set
(`Chain.deadline`), and the last context's token lies under the start's (`Chain.under`). A
token under a cancelled one counts as cancelled (`Tokens.Below.isCancelled`), so whenever the
start is done, so is the last context (`Context.err_isSome_of_below`). A chain with a child,
deadline or timeout step ends on a newer token than its start, and cancelling that token leaves
the start as it was; a chain of copies ends on the start's own token (`Chain.token_of_forks`).

Main statement: `context_chain_tightens`. A copy made by adding a header is no child: cancelling
it cancels the context it was copied from (`header_copy_cancels_its_source`).
-/

namespace Courier

namespace Tokens

/-! ## Tokens under tokens -/

/-- Token `j` is `i` or lies under it in the forest `t`. -/
def Below (t : Tokens) (j i : Nat) : Prop :=
  Relation.ReflTransGen (fun a b => t.parents[a]? = some (some b)) j i

/-- The forest `t'` grew from `t`: every token keeps its parent, and parents stay older than
their children. Making tokens under existing ones and cancelling tokens grow a forest. -/
structure Grows (t t' : Tokens) : Prop where
  keeps : ∀ (k : Nat) (p : Option Nat), t.parents[k]? = some p → t'.parents[k]? = some p
  older : t'.Older

variable {t t' t'' : Tokens}

theorem Grows.refl (h : t.Older) : t.Grows t := ⟨fun _ _ hk => hk, h⟩

theorem Grows.trans (h : t.Grows t') (h' : t'.Grows t'') : t.Grows t'' :=
  ⟨fun k p hk => h'.keeps k p (h.keeps k p hk), h'.older⟩

theorem Grows.lt_size (h : t.Grows t') {k : Nat} (hk : k < t.parents.size) :
    k < t'.parents.size := by
  have hget : t'.parents[k]? = some t.parents[k] := h.keeps k _ (Array.getElem?_eq_getElem hk)
  exact (Array.getElem?_eq_some_iff.mp hget).1

theorem Grows.below (h : t.Grows t') {j i : Nat} (hb : t.Below j i) : t'.Below j i := by
  induction hb with
  | refl => exact Relation.ReflTransGen.refl
  | tail _ hp ih => exact ih.tail (h.keeps _ _ hp)

theorem grows_fresh (h : t.Older) {parent : Option Nat} (hp : ∀ p ∈ parent, p < t.parents.size) :
    t.Grows (t.fresh parent).1 where
  keeps k p hk := by
    change (t.parents.push parent)[k]? = some p
    rw [Array.getElem?_push, if_neg]
    · exact hk
    · rintro rfl
      simp at hk
  older := by
    cases parent with
    | none =>
      intro k q hq
      change (t.parents.push none)[k]? = some (some q) at hq
      rw [Array.getElem?_push] at hq
      split at hq
      · cases hq
      · exact h k q hq
    | some p => exact h.fresh (hp p rfl)

theorem grows_cancel (h : t.Older) (k : Nat) : t.Grows (t.cancel k) :=
  ⟨fun _ _ hk => hk, h.of_parents rfl⟩

/-! ## Cancellation reaches down -/

theorem cancelledWithin_mono {fuel fuel' : Nat} (hle : fuel ≤ fuel') {i : Nat}
    (h : t.cancelledWithin fuel i = true) : t.cancelledWithin fuel' i = true := by
  induction fuel generalizing fuel' i with
  | zero => simp [cancelledWithin] at h
  | succ fuel ih =>
    obtain ⟨fuel', rfl⟩ : ∃ f, fuel' = f + 1 := ⟨fuel' - 1, by omega⟩
    simp only [cancelledWithin, Bool.or_eq_true] at h ⊢
    refine h.imp id fun hp => ?_
    split at hp
    · exact ih (by omega) hp
    · cases hp

theorem isCancelled_of_parent (h : t.Older) {j p : Nat} (hp : t.parents[j]? = some (some p))
    (hc : t.isCancelled p = true) : t.isCancelled j = true := by
  have hpj : p < j := h j p hp
  have hget : t.parents.getD j none = some p := by
    rw [Array.getD_eq_getD_getElem?, hp, Option.getD_some]
  -- the walk up from `j` goes to `p` with `j` steps left, enough for `p`'s own walk
  simp only [isCancelled, cancelledWithin, hget, Bool.or_eq_true]
  exact .inr (cancelledWithin_mono (by omega) hc)

namespace Below

variable {j i : Nat}

theorem refl (j : Nat) : t.Below j j := Relation.ReflTransGen.refl

theorem le (h : t.Older) (hb : t.Below j i) : i ≤ j := by
  induction hb with
  | refl => exact Nat.le_refl _
  | tail _ hp ih => exact Nat.le_trans (Nat.le_of_lt (h _ _ hp)) ih

/-- A token under a cancelled token is cancelled. -/
theorem isCancelled (h : t.Older) (hb : t.Below j i) (hc : t.isCancelled i = true) :
    t.isCancelled j = true := by
  induction hb using Relation.ReflTransGen.head_induction_on with
  | refl => exact hc
  | head hp _ ih => exact isCancelled_of_parent h hp ih

end Below

end Tokens

/-! ## Why a context is done -/

namespace Context

variable {c a : Context} {t : Tokens} {now : Nat}

theorem err_of_cancelled (hc : t.isCancelled c.token = true) : c.err t now = some .cancelled := by
  simp [err, hc]

theorem err_isSome_iff : (c.err t now).isSome ↔ t.isCancelled c.token = true ∨
    ∃ d ∈ c.deadline, d ≤ now := by
  unfold err
  split
  · next hc => simp [hc]
  · next hc =>
    cases c.deadline with
    | none => simp [hc]
    | some d => by_cases hd : d ≤ now <;> simp [hc, hd]

/-- A context whose token lies under another's and whose deadline is no later is done whenever
the other one is. -/
theorem err_isSome_of_below (ht : t.Older) (hb : t.Below c.token a.token)
    (hd : ∀ d ∈ a.deadline, ∃ d' ∈ c.deadline, d' ≤ d) (ha : (a.err t now).isSome) :
    (c.err t now).isSome := by
  rw [err_isSome_iff] at ha ⊢
  rcases ha with hc | ⟨d, hd', hle⟩
  · exact .inl (hb.isCancelled ht hc)
  · obtain ⟨d', hd'', hle'⟩ := hd d hd'
    exact .inr ⟨d', hd'', Nat.le_trans hle' hle⟩

theorem err_cancel_of_lt (ht : t.Older) {k : Nat} (hk : c.token < k) :
    c.err (t.cancel k) now = c.err t now := by
  simp only [err, Tokens.isCancelled_cancel_of_lt ht hk]

end Context

/-! ## Derivations -/

/-- One way of making a context from another. -/
inductive Derivation where
  /-- A child context. -/
  | child
  /-- A child context that expires at a time, or earlier if its parent does. -/
  | deadline (time : Nat)
  /-- A child context that expires `ms` milliseconds after `now`, or earlier. -/
  | timeout (now ms : Nat)
  /-- A copy with a header appended. -/
  | header (key value : String)
  /-- A copy carrying an inbound envelope's subject and headers. -/
  | envelope (subject : Subject) (headers : Headers)

namespace Derivation

/-- The context a derivation makes from `c` in the forest `t`, and the forest after it. -/
def apply : Derivation → Context → Tokens → Context × Tokens
  | child, c, t => c.child t
  | deadline d, c, t => c.withDeadline t d
  | timeout now ms, c, t => c.withTimeout t now ms
  | header k v, c, t => (c.withHeader k v, t)
  | envelope s h, c, t => (c.withEnvelope s h, t)

/-- The deadline a derivation sets, if it sets one. -/
def sets : Derivation → Option Nat
  | deadline d => some d
  | timeout now ms => some (now + ms)
  | _ => none

/-- Whether a derivation makes a child token. -/
def forks : Derivation → Bool
  | child | deadline _ | timeout _ _ => true
  | header _ _ | envelope _ _ => false

variable {c : Context} {t : Tokens}

theorem apply_deadline (d : Derivation) : (d.apply c t).1.deadline = c.deadline.merge min d.sets := by
  cases d <;> cases hc : c.deadline <;>
    simp [apply, sets, Context.child, Context.withDeadline, Context.withTimeout,
      Context.withHeader, Context.withEnvelope, Option.merge, hc]

theorem apply_token (d : Derivation) :
    (d.apply c t).1.token = if d.forks then t.parents.size else c.token := by
  cases d <;> simp [apply, forks, Context.child, Context.withDeadline, Context.withTimeout,
    Context.withHeader, Context.withEnvelope, Tokens.fresh]

theorem apply_tokens (d : Derivation) :
    (d.apply c t).2 = if d.forks then (t.fresh (some c.token)).1 else t := by
  cases d <;> simp [apply, forks, Context.child, Context.withDeadline, Context.withTimeout,
    Context.withHeader, Context.withEnvelope]

theorem apply_grows (ht : t.Older) (hc : c.token < t.parents.size) (d : Derivation) :
    t.Grows (d.apply c t).2 := by
  rw [apply_tokens]
  split
  · exact Tokens.grows_fresh ht (fun p hp => Option.some.inj hp ▸ hc)
  · exact Tokens.Grows.refl ht

theorem apply_token_lt (hc : c.token < t.parents.size) (d : Derivation) :
    (d.apply c t).1.token < (d.apply c t).2.parents.size := by
  rw [apply_token, apply_tokens]
  split
  · simp [Tokens.fresh]
  · exact hc

/-- After the forest grew, a derivation from one of its contexts keeps it well formed and makes
a context of it. -/
theorem apply_valid {t₁ : Tokens} (hg : t.Grows t₁) (hc : c.token < t.parents.size)
    (d : Derivation) : (d.apply c t₁).2.Older ∧ (d.apply c t₁).1.token < (d.apply c t₁).2.parents.size :=
  ⟨(apply_grows hg.older (hg.lt_size hc) d).older, apply_token_lt (hg.lt_size hc) d⟩

theorem apply_below (d : Derivation) : (d.apply c t).2.Below (d.apply c t).1.token c.token := by
  rw [apply_token]
  split
  · -- the new token's parent is `c`'s token
    have hp : (d.apply c t).2.parents[t.parents.size]? = some (some c.token) := by
      rw [apply_tokens, if_pos ‹_›]
      simp [Tokens.fresh]
    exact Relation.ReflTransGen.single hp
  · exact Tokens.Below.refl _

end Derivation

/-! ## Chains of derivations -/

/-- `Chain a t ds c t'`: from the context `a` in the forest `t`, the derivations `ds` made in
turn give `c` in the forest `t'`. Before each derivation the forest may grow: other contexts are
made and tokens cancelled meanwhile. -/
inductive Chain : Context → Tokens → List Derivation → Context → Tokens → Prop
  | nil {c : Context} {t : Tokens} : Chain c t [] c t
  | cons {a : Context} {t t₁ : Tokens} {d : Derivation} {ds : List Derivation} {c : Context}
      {t' : Tokens} :
      t.Grows t₁ → Chain (d.apply a t₁).1 (d.apply a t₁).2 ds c t' → Chain a t (d :: ds) c t'

namespace Chain

variable {a c : Context} {t t' : Tokens} {ds : List Derivation}

/-- The earliest of a deadline and the first of a list of deadlines, then the rest: the
earliest of all. -/
theorem merge_min_cons (o : Option Nat) (x : Option Nat) (l : List Nat) :
    (o.merge min x).merge min l.min? = o.merge min ((x.toList ++ l).min?) := by
  cases x with
  | none => simp
  | some x =>
    rw [Option.toList_some, List.singleton_append, List.min?_cons]
    cases o <;> cases l.min? <;> simp [Option.merge, Nat.min_assoc]

theorem exists_merge_min_le (o x : Option Nat) : ∀ d ∈ o, ∃ d' ∈ o.merge min x, d' ≤ d := by
  intro d hd
  obtain rfl : o = some d := hd
  cases x with
  | none => exact ⟨d, rfl, Nat.le_refl d⟩
  | some x => exact ⟨min d x, rfl, Nat.min_le_left d x⟩

/-- The deadline at the end of a chain is the earliest of the start's and those set on the way. -/
theorem deadline (h : Chain a t ds c t') :
    c.deadline = a.deadline.merge min (ds.filterMap Derivation.sets).min? := by
  induction h with
  | nil => cases ‹Context›.deadline <;> simp [Option.merge]
  | @cons a t t₁ d ds c t' _ _ ih =>
    rw [ih, Derivation.apply_deadline, merge_min_cons, List.filterMap_cons]
    cases d.sets <;> rfl

variable (ht : t.Older) (ha : a.token < t.parents.size)
include ht ha

theorem grows (h : Chain a t ds c t') : t.Grows t' ∧ c.token < t'.parents.size := by
  induction h with
  | nil => exact ⟨Tokens.Grows.refl ht, ha⟩
  | @cons a t t₁ d ds c t' hg _ ih =>
    obtain ⟨hrest, hc⟩ := ih (Derivation.apply_valid hg ha d).1 (Derivation.apply_valid hg ha d).2
    exact ⟨(hg.trans (Derivation.apply_grows hg.older (hg.lt_size ha) d)).trans hrest, hc⟩

/-- The last context's token lies under the start's. -/
theorem under (h : Chain a t ds c t') : t'.Below c.token a.token := by
  induction h with
  | nil => exact Tokens.Below.refl _
  | @cons a t t₁ d ds c t' hg hrest ih =>
    obtain ⟨ho, hv⟩ := Derivation.apply_valid hg ha d
    -- the step's own link, carried through the rest of the chain
    have hlater := (grows ho hv hrest).1.below (@Derivation.apply_below a t₁ d)
    exact (ih ho hv).trans hlater

/-- A chain with a child, deadline or timeout step ends on a newer token than its start; a chain
of copies ends on the start's own token. -/
theorem token_of_forks (h : Chain a t ds c t') :
    if ds.any Derivation.forks then a.token < c.token else c.token = a.token := by
  induction h with
  | nil => simp
  | @cons a t t₁ d ds c t' hg hrest ih =>
    obtain ⟨ho, hv⟩ := Derivation.apply_valid hg ha d
    have ih := ih ho hv
    have hle : (d.apply a t₁).1.token ≤ c.token := by
      split at ih
      · exact Nat.le_of_lt ih
      · exact Nat.le_of_eq ih.symm
    have hstep := @Derivation.apply_token a t₁ d
    simp only [List.any_cons]
    by_cases hd : d.forks
    · -- the fork takes a token newer than every token of the forest, `a`'s included
      have hlt : a.token < (d.apply a t₁).1.token := by
        rw [hstep, if_pos hd]
        exact hg.lt_size ha
      simp only [hd, Bool.true_or, if_true]
      exact Nat.lt_of_lt_of_le hlt hle
    · rw [if_neg hd] at hstep
      simp only [hd, Bool.false_or]
      rwa [hstep] at ih

end Chain

/-! ## The main statement -/

/-- What a chain from `a` to `c`, ending in the forest `t`, promises: the deadline is the earliest
set, `c` is done whenever `a` is, cancelling `c` leaves `a` alone once the chain forked and
cancels it otherwise, and cancellation is reported first. -/
structure Tightens (a : Context) (ds : List Derivation) (c : Context) (t : Tokens) : Prop where
  deadline : c.deadline = a.deadline.merge min (ds.filterMap Derivation.sets).min?
  err_isSome : ∀ t', t.Grows t' → ∀ now, (a.err t' now).isSome → (c.err t' now).isSome
  cancel_apart : ds.any Derivation.forks = true →
    ∀ t', t.Grows t' → ∀ now, a.err (t'.cancel c.token) now = a.err t' now
  shares_token : ds.any Derivation.forks = false → c.token = a.token
  cancelled_first : ∀ t' now, t'.isCancelled c.token = true →
    c.err t' now = some .cancelled ∧
      ∀ (r : Script.ContextRun) (wait : Nat), r.tokens = t' →
        r.done c wait = (r, Script.rpcError .cancelled)

/-- Deadlines and cancellation only tighten down the context tree: along any chain of child,
deadline, timeout, header and envelope derivations, with the forest growing in between, the
last context's deadline is the earliest set, it is done whenever the start is, and cancelling it
leaves the start alone when the chain made a child token. Cancellation is reported before an
expired deadline, by `err` and by waiting for the context to be done. -/
theorem context_chain_tightens {a c : Context} {t t' : Tokens} {ds : List Derivation}
    (ht : t.Older) (ha : a.token < t.parents.size) (h : Chain a t ds c t') :
    Tightens a ds c t' where
  deadline := h.deadline
  err_isSome t'' hg now := by
    refine Context.err_isSome_of_below hg.older (hg.below (h.under ht ha)) ?_
    rw [h.deadline]
    exact Chain.exists_merge_min_le _ _
  cancel_apart hf t'' hg now := by
    have hlt := h.token_of_forks ht ha
    rw [if_pos hf] at hlt
    exact Context.err_cancel_of_lt hg.older hlt
  shares_token hf := by
    have heq := h.token_of_forks ht ha
    rwa [if_neg (by simp [hf])] at heq
  cancelled_first t'' now hc := by
    refine ⟨Context.err_of_cancelled hc, fun r wait hr => ?_⟩
    subst hr
    simp [Script.ContextRun.done, hc]

/-- A root, then a copy with a trace header, a timeout of 20 ms and a child of that. -/
theorem traced_timeout_chain_tightens :
    let r := Context.background {}
    let s₁ := (Derivation.header "trace" "x").apply r.1 r.2
    let s₂ := (Derivation.timeout 0 20).apply s₁.1 s₁.2
    let s₃ := Derivation.child.apply s₂.1 s₂.2
    r.2.Older ∧ r.1.token < r.2.parents.size ∧
      Chain r.1 r.2 [.header "trace" "x", .timeout 0 20, .child] s₃.1 s₃.2 ∧
      Tightens r.1 [.header "trace" "x", .timeout 0 20, .child] s₃.1 s₃.2 := by
  intro r s₁ s₂ s₃
  have ht : r.2.Older := by
    intro k p hk
    rcases k with _ | k <;> simp [r, Context.background, Tokens.fresh] at hk
  have ha : r.1.token < r.2.parents.size := by decide
  -- each derivation follows the last with the forest as it stands
  have h₁ : r.2.Grows s₁.2 := Tokens.Grows.refl ht
  have h₂ : s₁.2.Grows s₁.2 := Tokens.Grows.refl ht
  have h₃ : s₂.2.Grows s₂.2 :=
    Tokens.Grows.refl (@Derivation.apply_grows s₁.1 s₁.2 ht ha (.timeout 0 20)).older
  have hc : Chain r.1 r.2 [.header "trace" "x", .timeout 0 20, .child] s₃.1 s₃.2 :=
    .cons h₁ (.cons h₂ (.cons h₃ .nil))
  exact ⟨ht, ha, hc, context_chain_tightens ht ha hc⟩

/-- A copy made by adding a header shares its source's token: cancelling the copy cancels the
root it was made from. -/
theorem header_copy_cancels_its_source :
    let r := Context.background {}
    let c := r.1.withHeader "k" "v"
    r.1.err r.2 0 = none ∧ r.1.err (r.2.cancel c.token) 0 = some .cancelled := by
  decide

end Courier
