import Courier.Proofs.Tokens

/-!
# The token grammar of covering

A pattern covers a subject token by token. `Covers` states the grammar as rules: the empty
pattern covers the empty subject, `>` covers any nonempty rest of the subject whatever pattern
tokens follow it, and any other token covers one token, which it must equal unless it is `*`.
The checker `covers` decides exactly this grammar on the tokens that the standard splitter
gives, with no tokens for the empty text (`covers_iff_grammar`).

Read without recursion (`covers_iff_fits`), a pattern covers a subject when every pattern token
fits the subject token at its place and both have the same length, or when the tokens before
the first `>` fit and the subject has more tokens than they do.
-/

namespace Courier.Subject

/-- The tokens of a subject are its text split at dots by the standard splitter, and none for
the empty text. -/
theorem tokens_eq_splitOn (s : Subject) :
    s.tokens = if s.text = "" then [] else s.text.splitOn "." := by
  have hdot : String.singleton '.' = "." := rfl
  by_cases h : s.text = "" <;> simp [tokens, h, Text.split_eq_splitOn, hdot]

/-- The grammar of covering, one rule for each way a pattern token can go. -/
inductive Covers : List String → List String → Prop
  /-- The empty pattern covers the empty subject. -/
  | nil : Covers [] []
  /-- `>` covers any nonempty rest, whatever pattern tokens follow it. -/
  | tail (ps : List String) (t : String) (ts : List String) : Covers (">" :: ps) (t :: ts)
  /-- Any other token covers one token: any token when it is `*`, else only itself. -/
  | cons {p t : String} {ps ts : List String} : p ≠ ">" → p = "*" ∨ p = t → Covers ps ts →
      Covers (p :: ps) (t :: ts)

namespace Covers

@[simp]
theorem nil_left_iff {ts : List String} : Covers [] ts ↔ ts = [] := by
  constructor
  · rintro ⟨⟩
    rfl
  · rintro rfl
    exact .nil

@[simp]
theorem not_cons_nil {p : String} {ps : List String} : ¬ Covers (p :: ps) [] := by
  rintro ⟨⟩

@[simp]
theorem cons_cons_iff {p t : String} {ps ts : List String} :
    Covers (p :: ps) (t :: ts) ↔ p = ">" ∨ (p ≠ ">" ∧ (p = "*" ∨ p = t) ∧ Covers ps ts) := by
  constructor
  · intro h
    cases h with
    | tail => exact .inl rfl
    | cons hp ht h => exact .inr ⟨hp, ht, h⟩
  · rintro (rfl | ⟨hp, ht, h⟩)
    · exact .tail ps t ts
    · exact .cons hp ht h

end Covers

/-- The checker of pattern tokens decides the grammar of covering. -/
theorem tokensMatch_iff_covers (ps ts : List String) : tokensMatch ps ts = true ↔ Covers ps ts := by
  induction ps generalizing ts with
  | nil => cases ts <;> simp [tokensMatch]
  | cons p ps ih =>
    by_cases hp : p = ">"
    · cases ts <;> simp [tokensMatch, hp, rest]
    · cases ts with
      | nil => simp [tokensMatch, hp, rest]
      | cons t ts => simp [tokensMatch, hp, rest, one, ih]

theorem covers_iff_grammar (p s : Subject) :
    p.covers s = true ↔
      Covers (if p.text = "" then [] else p.text.splitOn ".")
        (if s.text = "" then [] else s.text.splitOn ".") := by
  rw [← tokens_eq_splitOn, ← tokens_eq_splitOn]
  exact tokensMatch_iff_covers p.tokens s.tokens

/-! ## Covering without recursion -/

/-- A pattern token fits a subject token when it is not `>` and is `*` or the same token. -/
def Fits (p t : String) : Prop := p ≠ ">" ∧ (p = "*" ∨ p = t)

/-- A pattern with a `>` after fitting tokens, against a subject with more tokens than them:
either the pattern starts with `>`, or its first token fits and its rest is such a pattern
against the subject's rest. -/
theorem exists_tail_cons_iff {p t : String} {ps ts : List String} :
    (∃ pre post, p :: ps = pre ++ ">" :: post ∧ pre.length < (t :: ts).length ∧
        List.Forall₂ Fits pre ((t :: ts).take pre.length)) ↔
      p = ">" ∨ (Fits p t ∧ ∃ pre post, ps = pre ++ ">" :: post ∧ pre.length < ts.length ∧
        List.Forall₂ Fits pre (ts.take pre.length)) := by
  constructor
  · rintro ⟨pre, post, h, hlen, hfits⟩
    cases pre with
    | nil => exact .inl (List.cons.inj h).1
    | cons q pre =>
      obtain ⟨rfl, rfl⟩ := List.cons.inj h
      simp only [List.length_cons, List.take_succ_cons, List.forall₂_cons] at hlen hfits
      exact .inr ⟨hfits.1, pre, post, rfl, by omega, hfits.2⟩
  · rintro (rfl | ⟨hfit, pre, post, rfl, hlen, hfits⟩)
    · exact ⟨[], ps, rfl, by simp, by simp⟩
    · refine ⟨p :: pre, post, rfl, by simp [hlen], ?_⟩
      simpa using ⟨hfit, hfits⟩

/-- A pattern covers a subject exactly when, token by token, it fits the subject and has its
length, or when the tokens before its first `>` fit and the subject has more tokens than they
do: `>` ends the match whatever pattern tokens follow it. -/
theorem covers_iff_fits (ps ts : List String) :
    Covers ps ts ↔ List.Forall₂ Fits ps ts ∨
      ∃ pre post, ps = pre ++ ">" :: post ∧ pre.length < ts.length ∧
        List.Forall₂ Fits pre (ts.take pre.length) := by
  induction ps generalizing ts with
  | nil => cases ts <;> simp
  | cons p ps ih =>
    cases ts with
    | nil => simp
    | cons t ts =>
      rw [Covers.cons_cons_iff, ih ts, List.forall₂_cons, exists_tail_cons_iff]
      unfold Fits
      tauto

example : covers ⟨"orders.>.never"⟩ ⟨"orders.eu"⟩ = true ∧ covers ⟨"orders.>"⟩ ⟨"orders"⟩ = false := by
  decide

end Courier.Subject
