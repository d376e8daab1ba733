import Courier.Proofs.Tokens

/-!
# Building and checking subjects

A subject built from a prefix and parts keeps each part trimmed, drops the parts that trim to
nothing, and joins the rest by dots. When no part holds a dot, its tokens are exactly these parts
(`tokens_build_of_undotted`), and it passes the check exactly when there is such a part, no part
holds a reserved character, and `>` is at most the last part (`validate_build_eq_ok_iff`).

The check of an arbitrary subject refuses it for the first fault in a fixed order (`Refusal`,
`validate_eq_error_iff`): an empty text, then a reserved character anywhere, then, reading the
tokens from the left, the first token that is empty or is `>` with tokens after it.
-/

namespace Courier.Subject

open Text

/-- The characters a subject may not hold: comma, question mark, space, carriage return,
newline, tab, dollar sign and backspace. -/
def reserved : List Char := [',', '?', ' ', '\r', '\n', '\t', '$', '\x08']

theorem forbidden_eq_true_iff (c : Char) : forbidden c = true ↔ c ∈ reserved := by
  simp [forbidden, reserved, or_assoc]

/-! ## Token checks -/

/-- The tokens pass their check exactly when none is empty and `>` is at most the last. -/
theorem checkTokens_eq_ok_iff (s : String) (ts : List String) :
    checkTokens s ts = .ok () ↔ "" ∉ ts ∧ ">" ∉ ts.dropLast := by
  induction ts with
  | nil => simp [checkTokens]
  | cons t more ih =>
    by_cases he : t = ""
    · simp [checkTokens, he]
    · by_cases hw : t = ">" ∧ more ≠ []
      · obtain ⟨rfl, hmore⟩ := hw
        obtain ⟨u, more', rfl⟩ := List.exists_cons_of_ne_nil hmore
        simp [checkTokens, rest]
      · have hdrop : ">" ∉ (t :: more).dropLast ↔ ">" ∉ more.dropLast := by
          cases more with
          | nil => simp
          | cons u more' =>
            have ht : t ≠ ">" := fun h => hw ⟨h, List.cons_ne_nil u more'⟩
            simp [Ne.symm ht]
        have hstep : checkTokens s (t :: more) = checkTokens s more := by
          simp_all [checkTokens, rest]
        rw [hstep, ih, hdrop]
        simp [Ne.symm he]

/-- Scanning a list from the left for the first element with a fault, past elements that pass:
the first element has the fault, or it passes and the scan finds a fault in the rest. -/
theorem exists_first_cons_iff {α : Type} {pass : α → Prop} {fault : α → List α → Prop}
    {a : α} {l : List α} :
    (∃ pre x post, a :: l = pre ++ x :: post ∧ (∀ u ∈ pre, pass u) ∧ fault x post) ↔
      fault a l ∨ (pass a ∧ ∃ pre x post, l = pre ++ x :: post ∧ (∀ u ∈ pre, pass u) ∧
        fault x post) := by
  constructor
  · rintro ⟨pre, x, post, h, hpass, hfault⟩
    cases pre with
    | nil =>
      obtain ⟨rfl, rfl⟩ := List.cons.inj h
      exact .inl hfault
    | cons b pre =>
      obtain ⟨hab, rfl⟩ := List.cons.inj h
      exact .inr ⟨hab ▸ hpass b List.mem_cons_self, pre, x, post, rfl,
        fun u hu => hpass u (List.mem_cons_of_mem b hu), hfault⟩
  · rintro (hfault | ⟨ha, pre, x, post, rfl, hpass, hfault⟩)
    · exact ⟨[], a, l, rfl, by simp, hfault⟩
    · refine ⟨a :: pre, x, post, rfl, ?_, hfault⟩
      simpa using ⟨ha, hpass⟩

/-- The fault a token check reports at a token followed by `post`: an empty token, or `>` with
tokens after it. -/
def TokenFault (s t : String) (post : List String) (e : SubjectError) : Prop :=
  (t = "" ∧ e = .emptyToken s) ∨ (t = ">" ∧ post ≠ [] ∧ e = .nonTerminalWildcard s)

/-- The token check reports the fault of the first token that is empty or is `>` with tokens
after it; every token before it is nonempty and not `>`. -/
theorem checkTokens_eq_error_iff (s : String) (ts : List String) (e : SubjectError) :
    checkTokens s ts = .error e ↔
      ∃ pre t post, ts = pre ++ t :: post ∧ (∀ u ∈ pre, u ≠ "" ∧ u ≠ ">") ∧
        TokenFault s t post e := by
  induction ts with
  | nil => simp [checkTokens]
  | cons t more ih =>
    rw [exists_first_cons_iff, ← ih]
    by_cases he : t = ""
    · have hc : checkTokens s (t :: more) = .error (.emptyToken s) := by simp [checkTokens, he]
      rw [hc, Except.error.injEq]
      constructor
      · rintro rfl
        exact .inl (.inl ⟨he, rfl⟩)
      · rintro ((⟨-, rfl⟩ | ⟨h, -⟩) | ⟨⟨h, -⟩, -⟩)
        · rfl
        · simp [he] at h
        · exact absurd he h
    by_cases hw : t = ">"
    · subst hw
      cases more with
      | nil => simp [checkTokens, rest, TokenFault]
      | cons u more' =>
        have hc : checkTokens s (">" :: u :: more') = .error (.nonTerminalWildcard s) := by
          simp [checkTokens, rest]
        rw [hc, Except.error.injEq]
        constructor
        · rintro rfl
          exact .inl (.inr ⟨rfl, List.cons_ne_nil u more', rfl⟩)
        · rintro ((⟨h, -⟩ | ⟨-, -, rfl⟩) | ⟨⟨-, h⟩, -⟩)
          · simp at h
          · rfl
          · exact absurd rfl h
    · have hfault : ¬ TokenFault s t more e := by
        rintro (⟨h, -⟩ | ⟨h, -, -⟩)
        · exact he h
        · exact hw h
      have hstep : checkTokens s (t :: more) = checkTokens s more := by
        simp [checkTokens, rest, he, hw]
      simp [hstep, hfault, he, hw]

/-! ## The check of a subject -/

/-- Why the check refuses a subject, each refusal with the checks before it passed: an empty
text; a reserved character; or, reading the tokens from the left past tokens that are nonempty
and not `>`, an empty token, or `>` with tokens after it. -/
inductive Refusal (s : Subject) : SubjectError → Prop
  | empty : s.text = "" → Refusal s .empty
  | invalidCharacters : s.text ≠ "" → (∃ c ∈ s.text.toList, c ∈ reserved) →
      Refusal s (.invalidCharacters s.text)
  | emptyToken {pre post : List String} : s.text ≠ "" → (∀ c ∈ s.text.toList, c ∉ reserved) →
      s.tokens = pre ++ "" :: post → (∀ u ∈ pre, u ≠ "" ∧ u ≠ ">") →
      Refusal s (.emptyToken s.text)
  | nonTerminalWildcard {pre post : List String} : s.text ≠ "" →
      (∀ c ∈ s.text.toList, c ∉ reserved) → s.tokens = pre ++ ">" :: post → post ≠ [] →
      (∀ u ∈ pre, u ≠ "" ∧ u ≠ ">") → Refusal s (.nonTerminalWildcard s.text)

theorem any_forbidden_eq_true_iff (s : Subject) :
    s.text.toList.any forbidden = true ↔ ∃ c ∈ s.text.toList, c ∈ reserved := by
  simp [forbidden_eq_true_iff]

/-- The check refuses a subject exactly for its first fault. -/
theorem validate_eq_error_iff (s : Subject) (e : SubjectError) :
    s.validate = .error e ↔ Refusal s e := by
  by_cases hempty : s.text = ""
  · have hv : s.validate = .error .empty := by simp [validate, hempty]
    rw [hv, Except.error.injEq]
    constructor
    · rintro rfl
      exact .empty hempty
    · rintro (_ | ⟨h, -⟩ | ⟨h, -⟩ | ⟨h, -⟩)
      · rfl
      all_goals exact absurd hempty h
  by_cases hres : ∃ c ∈ s.text.toList, c ∈ reserved
  · have hv : s.validate = .error (.invalidCharacters s.text) := by
      simp [validate, hempty, (any_forbidden_eq_true_iff s).2 hres]
    rw [hv, Except.error.injEq]
    constructor
    · rintro rfl
      exact .invalidCharacters hempty hres
    · rintro (h | - | ⟨-, h⟩ | ⟨-, h⟩)
      · exact absurd h hempty
      · rfl
      all_goals
        obtain ⟨c, hc, hr⟩ := hres
        exact absurd hr (h c hc)
  · have hfree : ∀ c ∈ s.text.toList, c ∉ reserved := fun c hc hr => hres ⟨c, hc, hr⟩
    have hv : s.validate = checkTokens s.text s.tokens := by
      have : s.text.toList.any forbidden = false := by
        simpa [← any_forbidden_eq_true_iff] using hres
      simp [validate, hempty, this]
    rw [hv, checkTokens_eq_error_iff]
    constructor
    · rintro ⟨pre, t, post, hts, hpre, ⟨rfl, rfl⟩ | ⟨rfl, hpost, rfl⟩⟩
      · exact .emptyToken hempty hfree hts hpre
      · exact .nonTerminalWildcard hempty hfree hts hpost hpre
    · rintro (h | ⟨-, h⟩ | ⟨-, -, hts, hpre⟩ | ⟨-, -, hts, hpost, hpre⟩)
      · exact absurd h hempty
      · exact absurd h hres
      · exact ⟨_, _, _, hts, hpre, .inl ⟨rfl, rfl⟩⟩
      · exact ⟨_, _, _, hts, hpre, .inr ⟨rfl, hpost, rfl⟩⟩

example : validate ⟨"a.>..b"⟩ = .error (.nonTerminalWildcard "a.>..b") := by decide

/-- The check passes a subject exactly when its text is nonempty and free of reserved
characters, no token is empty and `>` is at most the last token. -/
theorem validate_eq_ok_iff (s : Subject) :
    s.validate = .ok () ↔ s.text ≠ "" ∧ (∀ c ∈ s.text.toList, c ∉ reserved) ∧
      "" ∉ s.tokens ∧ ">" ∉ s.tokens.dropLast := by
  by_cases hempty : s.text = ""
  · simp [validate, hempty]
  by_cases hres : ∃ c ∈ s.text.toList, c ∈ reserved
  · have hv : s.validate = .error (.invalidCharacters s.text) := by
      simp [validate, hempty, (any_forbidden_eq_true_iff s).2 hres]
    obtain ⟨c, hc, hr⟩ := hres
    simp only [hv, reduceCtorEq, false_iff, not_and]
    exact fun _ hfree => absurd hr (hfree c hc)
  · have hfree : ∀ c ∈ s.text.toList, c ∉ reserved := fun c hc hr => hres ⟨c, hc, hr⟩
    have hv : s.validate = checkTokens s.text s.tokens := by
      have : s.text.toList.any forbidden = false := by
        simpa [← any_forbidden_eq_true_iff] using hres
      simp [validate, hempty, this]
    rw [hv, checkTokens_eq_ok_iff]
    exact ⟨fun ⟨h₁, h₂⟩ => ⟨hempty, hfree, h₁, h₂⟩, fun ⟨_, _, h₁, h₂⟩ => ⟨h₁, h₂⟩⟩

/-! ## Built subjects -/

theorem filter_not_isEmpty (xs : List String) : xs.filter (!·.isEmpty) = xs.filter (· ≠ "") :=
  List.filter_congr fun x _ => Bool.eq_iff_iff.mpr (by simp)

theorem text_build (pre : String) (parts : List String) :
    (build pre parts).text = ".".intercalate (((pre :: parts).map trim).filter (· ≠ "")) := by
  rw [build, filter_not_isEmpty]

theorem plain_of_mem_trimmed {xs : List String} (h : ∀ x ∈ xs, '.' ∉ x.toList) :
    ∀ t ∈ (xs.map trim).filter (· ≠ ""), Plain t := by
  intro t ht
  simp only [List.mem_filter, List.mem_map, decide_eq_true_eq] at ht
  obtain ⟨⟨x, hx, rfl⟩, hne⟩ := ht
  exact Plain.of_trim hne (h x hx)

/-- A subject built from parts without dots has their trims as tokens, the empty ones
dropped. -/
theorem tokens_build_of_undotted (pre : String) (parts : List String)
    (h : ∀ x ∈ pre :: parts, '.' ∉ x.toList) :
    (build pre parts).tokens = ((pre :: parts).map trim).filter (· ≠ "") := by
  rw [tokens_build, filter_not_isEmpty,
    List.flatMap_congr fun t ht => (plain_of_mem_trimmed h t ht).split_eq, List.flatMap_singleton']

theorem reserved_free_intercalate (ts : List String) :
    (∀ c ∈ (".".intercalate ts).toList, c ∉ reserved) ↔ ∀ t ∈ ts, ∀ c ∈ t.toList, c ∉ reserved := by
  induction ts with
  | nil => simp
  | cons t more ih =>
    cases more with
    | nil => simp
    | cons u more' =>
      have hdot : '.' ∉ reserved := by decide
      have hsep : ".".toList = ['.'] := rfl
      rw [String.intercalate_cons_cons, List.forall_mem_cons, ← ih]
      simp only [String.toList_append, List.mem_append]
      constructor
      · intro h
        exact ⟨fun c hc => h c (.inl (.inl hc)), fun c hc => h c (.inr hc)⟩
      · rintro ⟨ht, hrest⟩ c ((hc | hc) | hc)
        · exact ht c hc
        · rw [hsep, List.mem_singleton] at hc
          exact hc ▸ hdot
        · exact hrest c hc

/-- A subject built from parts without dots passes the check exactly when some part is left
once trimmed, no part left holds a reserved character, and `>` is at most the last part left. -/
theorem validate_build_eq_ok_iff (pre : String) (parts : List String)
    (h : ∀ x ∈ pre :: parts, '.' ∉ x.toList) :
    (build pre parts).validate = .ok () ↔
      ((pre :: parts).map trim).filter (· ≠ "") ≠ [] ∧
        (∀ t ∈ ((pre :: parts).map trim).filter (· ≠ ""), ∀ c ∈ t.toList, c ∉ reserved) ∧
        ">" ∉ (((pre :: parts).map trim).filter (· ≠ "")).dropLast := by
  have hplain := plain_of_mem_trimmed h
  generalize hts : ((pre :: parts).map trim).filter (· ≠ "") = ts at hplain
  have hkept : "" ∉ ts := by
    rw [← hts]
    simp
  -- the joined text is empty only when no part is left
  have htext : (".".intercalate ts ≠ "") ↔ ts ≠ [] := by
    refine ⟨fun hne hnil => hne (by simp [hnil]), fun hne => ?_⟩
    exact (intercalate_unpadded hplain hne).1
  rw [validate_eq_ok_iff, tokens_build_of_undotted pre parts h, text_build, hts, htext,
    reserved_free_intercalate]
  simp [hkept]

/-- Building and splitting undo each other on parts without dots, and the check of a built
subject passes exactly on its kept parts' terms; the check of any subject refuses it for its
first fault, in the order of the checks. -/
theorem built_subject_tokens_validate :
    (∀ (pre : String) (parts : List String), (∀ x ∈ pre :: parts, '.' ∉ x.toList) →
      (build pre parts).tokens = ((pre :: parts).map trim).filter (· ≠ "") ∧
      ((build pre parts).validate = .ok () ↔
        ((pre :: parts).map trim).filter (· ≠ "") ≠ [] ∧
          (∀ t ∈ ((pre :: parts).map trim).filter (· ≠ ""), ∀ c ∈ t.toList, c ∉ reserved) ∧
          ">" ∉ (((pre :: parts).map trim).filter (· ≠ "")).dropLast)) ∧
    ∀ (s : Subject) (e : SubjectError), s.validate = .error e ↔ Refusal s e :=
  ⟨fun pre parts h => ⟨tokens_build_of_undotted pre parts h, validate_build_eq_ok_iff pre parts h⟩,
    validate_eq_error_iff⟩

/-- A padded prefix, a blank part and a last `>`: the blank part is dropped, the others are
trimmed, and the subject passes the check. -/
theorem padded_parts_build_valid_subject :
    (∀ x ∈ [" orders ", "  ", "eu", ">"], '.' ∉ x.toList) ∧
      (build " orders " ["  ", "eu", ">"]).tokens = ["orders", "eu", ">"] ∧
      (build " orders " ["  ", "eu", ">"]).validate = .ok () := by
  have hdot : ∀ x ∈ [" orders ", "  ", "eu", ">"], '.' ∉ x.toList := by decide
  have hkept : ([" orders ", "  ", "eu", ">"].map trim).filter (· ≠ "") = ["orders", "eu", ">"] := by
    decide
  obtain ⟨htokens, hvalid⟩ := built_subject_tokens_validate.1 " orders " ["  ", "eu", ">"] hdot
  rw [hkept] at htokens hvalid
  exact ⟨hdot, htokens, hvalid.2 (by simp [reserved])⟩

end Courier.Subject
