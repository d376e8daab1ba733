import Courier.Subject
import Mathlib.Data.List.Forall2
import Mathlib.Data.String.Basic

/-!
# Dotted texts and subject tokens

A subject's text is its tokens joined by dots, and its tokens are the text split at dots.
`Text.split` cuts a text at a character as `String.splitOn` does (`split_eq_splitOn`), and a
dotted text comes apart piece by piece: a text joined by dots splits into the pieces of its
parts (`split_dot_intercalate`).

A plain token is nonempty, has no dot and no blank at either end: trimming, splitting at dots
and joining by dots leave it as it is. A subject joined from plain tokens has exactly these
tokens (`tokens_join_of_plain`), and the tokens of a built subject are the pieces of its parts
(`tokens_build_eq_flatMap`). A pattern whose tokens are, one by one, the subject's token or the
wildcard `*` covers the subject (`covers_of_forall₂`).
-/

namespace Courier.Text

/-! ## Splitting at dots -/

/-- The split of `l ++ m ++ r` at a one-character separator from the position after `l`, with
`m` read into the current piece and the earlier pieces in `acc`. -/
private theorem splitOnAux_singleton (c : Char) (l m r : List Char) (acc : List String) :
    String.splitOnAux (String.ofList (l ++ m ++ r)) (String.singleton c) ⟨String.utf8Len l⟩
        ⟨String.utf8Len l + String.utf8Len m⟩ 0 acc =
      acc.reverse ++ (List.splitOnPPrepend (· == c) r m.reverse).map String.ofList := by
  induction r generalizing l m acc with
  | nil =>
    unfold String.splitOnAux
    simp only [List.append_nil, String.atEnd_iff, String.rawEndPos_ofList,
      String.utf8Len_append, String.Pos.Raw.mk_le_mk, List.reverse_cons,
      List.splitOnPPrepend_nil, List.reverse_reverse, List.map_cons, List.map_nil]
    simpa using String.extract_of_valid l m []
  | cons x r ih =>
    unfold String.splitOnAux
    have hget : String.Pos.Raw.get (String.ofList (l ++ m ++ x :: r))
        ⟨String.utf8Len l + String.utf8Len m⟩ = x := by
      simpa using String.get_of_valid (l ++ m) (x :: r)
    have hnext : String.Pos.Raw.next (String.ofList (l ++ m ++ x :: r))
        ⟨String.utf8Len l + String.utf8Len m⟩ =
          ⟨String.utf8Len l + String.utf8Len m + x.utf8Size⟩ := by
      simpa using String.next_of_valid (l ++ m) x r
    have hend : ¬ String.Pos.Raw.atEnd (String.ofList (l ++ m ++ x :: r))
        ⟨String.utf8Len l + String.utf8Len m⟩ := by
      simp only [String.atEnd_iff, String.rawEndPos_ofList, String.utf8Len_append,
        String.utf8Len_cons, String.Pos.Raw.mk_le_mk]
      have := Char.utf8Size_pos x
      omega
    have hsep : String.Pos.Raw.get (String.singleton c) 0 = c := by
      rw [String.singleton_eq_ofList]
      exact String.get_of_valid [] [c]
    rw [if_neg hend, hget, hsep]
    by_cases hx : x = c
    · -- the separator closes the current piece; the next one starts empty after it
      subst hx
      have hn : String.Pos.Raw.next (String.singleton x) 0 = ⟨x.utf8Size⟩ := by
        have h := String.next_of_valid [] x []
        simp only [List.nil_append, String.utf8Len_nil, Nat.zero_add] at h
        rw [String.singleton_eq_ofList]
        exact h
      have ha : String.Pos.Raw.atEnd (String.singleton x) ⟨x.utf8Size⟩ = true := by
        rw [String.singleton_eq_ofList, String.atEnd_iff, String.rawEndPos_ofList,
          String.Pos.Raw.mk_le_mk]
        simp
      have hoff : (⟨String.utf8Len l + String.utf8Len m + x.utf8Size⟩ : String.Pos.Raw).unoffsetBy
          ⟨x.utf8Size⟩ = ⟨String.utf8Len l + String.utf8Len m⟩ := by
        simp [String.Pos.Raw.unoffsetBy]
      simp only [beq_self_eq_true, ↓reduceIte, hnext]
      rw [hn, if_pos ha, hoff, String.extract_of_valid l m (x :: r)]
      have := ih (l ++ m ++ [x]) [] (String.ofList m :: acc)
      simp only [List.append_assoc, List.cons_append, List.nil_append, String.utf8Len_append,
        String.utf8Len_cons, String.utf8Len_nil, List.reverse_nil, List.reverse_cons] at this ⊢
      rw [List.splitOnPPrepend_cons_pos (by simp)]
      simpa [Nat.add_assoc] using this
    · -- any other character joins the current piece
      have hoff : (⟨String.utf8Len l + String.utf8Len m⟩ : String.Pos.Raw).unoffsetBy 0 =
          ⟨String.utf8Len l + String.utf8Len m⟩ := rfl
      rw [if_neg (by simpa using hx), hoff, hnext]
      have := ih l (m ++ [x]) acc
      simp only [List.append_assoc, List.cons_append, List.nil_append, String.utf8Len_append,
        String.utf8Len_cons, String.utf8Len_nil, List.reverse_append, List.reverse_cons,
        List.reverse_nil] at this ⊢
      rw [List.splitOnPPrepend_cons_neg (by simpa using hx)]
      simpa [Nat.add_assoc] using this

/-- `split` is `String.splitOn` with a one-character separator. -/
theorem split_eq_splitOn (s : String) (c : Char) : split s c = s.splitOn (String.singleton c) := by
  have h := splitOnAux_singleton c [] [] s.toList []
  simp only [List.nil_append, String.ofList_toList, String.utf8Len_nil, Nat.add_zero,
    List.reverse_nil, List.splitOnPPrepend_nil_right] at h
  have hne : (String.singleton c == "") = false := by
    simp [← String.toList_inj]
  simpa [split, String.splitOn, hne, List.splitOn_eq_splitOnP] using h.symm

theorem split_dot_append (a b : String) :
    split (a ++ "." ++ b) '.' = split a '.' ++ split b '.' := by
  have h : (a ++ "." ++ b).toList = a.toList ++ '.' :: b.toList := by simp
  rw [split, split, split, h, List.splitOn_append_cons_self, List.map_append]

theorem split_of_not_mem {t : String} {c : Char} (h : c ∉ t.toList) : split t c = [t] := by
  rw [split, List.splitOn_eq_singleton h]
  simp

/-- A text joined by dots splits into the pieces of its parts. -/
theorem split_dot_intercalate {parts : List String} (h : parts ≠ []) :
    split (".".intercalate parts) '.' = parts.flatMap (split · '.') := by
  induction parts with
  | nil => contradiction
  | cons p rest ih =>
    cases rest with
    | nil => simp
    | cons q rest =>
      rw [String.intercalate_cons_cons, split_dot_append, ih (List.cons_ne_nil q rest)]
      simp only [List.flatMap_cons]

theorem not_mem_of_mem_splitOn {l w : List Char} {c : Char} (hw : w ∈ l.splitOn c) : c ∉ w := by
  induction l generalizing w with
  | nil => simp_all
  | cons x l ih =>
    rw [List.splitOn_cons_eq_if_modifyHead] at hw
    split at hw
    · -- the separator starts a new, empty piece
      rcases List.mem_cons.1 hw with rfl | hw
      · simp
      · exact ih hw
    · -- any other character goes to the front of the first piece
      rename_i hx
      obtain ⟨first, more, hsplit⟩ := List.exists_cons_of_ne_nil (List.splitOn_ne_nil c l)
      rw [hsplit, List.modifyHead_cons] at hw
      rcases List.mem_cons.1 hw with rfl | hw
      · have hfirst := ih (hsplit ▸ List.mem_cons_self)
        simp only [List.mem_cons, not_or]
        exact ⟨fun h => hx (by simp [← h]), hfirst⟩
      · exact ih (hsplit ▸ List.mem_cons_of_mem first hw)

theorem not_mem_of_mem_split {s t : String} {c : Char} (ht : t ∈ split s c) : c ∉ t.toList := by
  rw [split, List.mem_map] at ht
  obtain ⟨w, hw, rfl⟩ := ht
  simpa using not_mem_of_mem_splitOn hw

/-! ## Trimming -/

theorem dropWhile_eq_self {α : Type} {p : α → Bool} {l : List α}
    (h : ∀ c ∈ l.head?, p c = false) : l.dropWhile p = l := by
  cases l with
  | nil => rfl
  | cons c l => simp [h c rfl]

theorem getLast?_dropWhile {α : Type} (p : α → Bool) {l : List α} (h : l.dropWhile p ≠ []) :
    (l.dropWhile p).getLast? = l.getLast? := by
  induction l with
  | nil => rfl
  | cons x xs ih =>
    by_cases hx : p x
    · have hdrop : (x :: xs).dropWhile p = xs.dropWhile p := by simp [hx]
      rw [hdrop] at h ⊢
      rw [ih h]
      cases xs with
      | nil => exact absurd rfl h
      | cons y ys => simp
    · simp [hx]

theorem trim_toList (s : String) :
    (trim s).toList = ((s.toList.dropWhile isBlank).reverse.dropWhile isBlank).reverse := by
  simp [trim]

theorem trim_eq_self {s : String} (h₁ : ∀ c ∈ s.toList.head?, isBlank c = false)
    (h₂ : ∀ c ∈ s.toList.getLast?, isBlank c = false) : trim s = s := by
  have hfront : s.toList.dropWhile isBlank = s.toList := dropWhile_eq_self h₁
  have hback : s.toList.reverse.dropWhile isBlank = s.toList.reverse :=
    dropWhile_eq_self (by simpa using h₂)
  rw [trim, hfront, hback, List.reverse_reverse, String.ofList_toList]

theorem head_trim (s : String) : ∀ c ∈ (trim s).toList.head?, isBlank c = false := by
  intro c hc
  rw [trim_toList, List.head?_reverse] at hc
  -- the first character left is the first one the front trim kept
  have hne : (s.toList.dropWhile isBlank).reverse.dropWhile isBlank ≠ [] := by
    rintro h
    simp [h] at hc
  rw [getLast?_dropWhile isBlank hne, List.getLast?_reverse] at hc
  have := List.head?_dropWhile_not isBlank s.toList
  rw [Option.mem_def] at hc
  simpa [hc] using this

theorem last_trim (s : String) : ∀ c ∈ (trim s).toList.getLast?, isBlank c = false := by
  intro c hc
  rw [trim_toList, List.getLast?_reverse, Option.mem_def] at hc
  have := List.head?_dropWhile_not isBlank (s.toList.dropWhile isBlank).reverse
  simpa [hc] using this

theorem trim_sublist (s : String) : List.Sublist (trim s).toList s.toList := by
  rw [trim_toList]
  have hback : List.Sublist ((s.toList.dropWhile isBlank).reverse.dropWhile isBlank)
      (s.toList.dropWhile isBlank).reverse := List.dropWhile_sublist isBlank
  have h := hback.reverse
  rw [List.reverse_reverse] at h
  exact h.trans (List.dropWhile_sublist isBlank)

end Courier.Text

namespace Courier.Subject

open Text

/-! ## Plain tokens -/

/-- A plain token: nonempty, without a dot, and with no blank at either end. Trimming,
splitting at dots and joining by dots leave it as it is. -/
structure Plain (t : String) : Prop where
  ne_empty : t ≠ ""
  dot_not_mem : '.' ∉ t.toList
  head_not_blank : ∀ c ∈ t.toList.head?, isBlank c = false
  last_not_blank : ∀ c ∈ t.toList.getLast?, isBlank c = false

/-- The ends of a text are not blank exactly when its first and last characters, if any, are
not. -/
theorem ends_not_blank_iff (o : Option Char) :
    (∀ c ∈ o, isBlank c = false) ↔ o.all (fun c => !isBlank c) = true := by
  rw [Option.all_eq_true]
  simp

instance (t : String) : Decidable (Plain t) :=
  decidable_of_iff (t ≠ "" ∧ '.' ∉ t.toList ∧ t.toList.head?.all (fun c => !isBlank c) = true ∧
      t.toList.getLast?.all (fun c => !isBlank c) = true) <| by
    rw [← ends_not_blank_iff, ← ends_not_blank_iff]
    exact ⟨fun ⟨h₁, h₂, h₃, h₄⟩ => ⟨h₁, h₂, h₃, h₄⟩, fun h => ⟨h.1, h.2, h.3, h.4⟩⟩

namespace Plain

variable {t : String}

theorem trim_eq (h : Plain t) : trim t = t := trim_eq_self h.head_not_blank h.last_not_blank

theorem split_eq (h : Plain t) : split t '.' = [t] := split_of_not_mem h.dot_not_mem

theorem one : Plain Subject.one := by decide

theorem of_trim {s : String} (hne : trim s ≠ "") (hdot : '.' ∉ s.toList) : Plain (trim s) where
  ne_empty := hne
  dot_not_mem := fun h => hdot ((trim_sublist s).subset h)
  head_not_blank := head_trim s
  last_not_blank := last_trim s

end Plain

theorem intercalate_unpadded {ts : List String} (h : ∀ t ∈ ts, Plain t) (hne : ts ≠ []) :
    ".".intercalate ts ≠ "" ∧ (∀ c ∈ (".".intercalate ts).toList.head?, isBlank c = false) ∧
      ∀ c ∈ (".".intercalate ts).toList.getLast?, isBlank c = false := by
  induction ts with
  | nil => contradiction
  | cons t rest ih =>
    have ht := h t (by simp)
    cases rest with
    | nil => simpa using ⟨ht.ne_empty, ht.head_not_blank, ht.last_not_blank⟩
    | cons u more =>
      obtain ⟨hne', -, hlast⟩ := ih (fun x hx => h x (by simp [hx])) (List.cons_ne_nil u more)
      rw [String.intercalate_cons_cons]
      generalize ".".intercalate (u :: more) = rest at hne' hlast
      have htl : t.toList ≠ [] := by simpa using ht.ne_empty
      have hrl : rest.toList ≠ [] := by
        intro hnil
        exact hne' (by simpa using congrArg String.ofList hnil)
      have hjoin : (t ++ "." ++ rest).toList = t.toList ++ '.' :: rest.toList := by simp
      refine ⟨fun he => htl ?_, ?_, ?_⟩
      · simpa [hjoin] using congrArg String.toList he
      · rw [hjoin, List.head?_append_of_ne_nil _ htl]
        exact ht.head_not_blank
      · rw [hjoin, List.getLast?_append_of_ne_nil _ (List.cons_ne_nil _ _)]
        obtain ⟨c, cs, hcs⟩ := List.exists_cons_of_ne_nil hrl
        rw [hcs, List.getLast?_cons_cons, ← hcs]
        exact hlast

/-! ## Tokens of built subjects -/

theorem tokens_build (pre : String) (suffixes : List String) :
    (build pre suffixes).tokens =
      (((pre :: suffixes).map trim).filter (!·.isEmpty)).flatMap (split · '.') := by
  generalize hparts : ((pre :: suffixes).map trim).filter (!·.isEmpty) = parts
  have hne : ∀ p ∈ parts, p ≠ "" := by
    intro p hp
    rw [← hparts, List.mem_filter] at hp
    simpa [String.isEmpty_iff] using hp.2
  simp only [tokens, build, hparts]
  cases parts with
  | nil => simp
  | cons p rest =>
    -- a text joined from nonempty parts is not empty
    have hjoined : (".".intercalate (p :: rest)).isEmpty = false := by
      cases rest with
      | nil => simpa [String.isEmpty_eq_false_iff] using hne p (by simp)
      | cons q more =>
        rw [String.isEmpty_eq_false_iff, String.intercalate_cons_cons]
        intro h
        have := congrArg String.length h
        simp at this
    rw [hjoined, if_neg (by simp), split_dot_intercalate (List.cons_ne_nil p rest)]

/-- The tokens of a subject joined from parts: the pieces at dots of its trimmed, nonempty
parts. -/
theorem tokens_join (parts : List String) :
    (join parts).tokens = ((parts.map trim).filter (!·.isEmpty)).flatMap (split · '.') := by
  have htrim : trim "" = "" := by decide
  simp [join, tokens_build, htrim]

/-- A subject joined from plain tokens has exactly these tokens. -/
theorem tokens_join_of_plain {parts : List String} (h : ∀ t ∈ parts, Plain t) :
    (join parts).tokens = parts := by
  have htrim : parts.map trim = parts := by
    conv_rhs => rw [← List.map_id parts]
    exact List.map_congr_left fun t ht => (h t ht).trim_eq
  have hkeep : parts.filter (!·.isEmpty) = parts :=
    List.filter_eq_self.2 fun t ht => by simpa [String.isEmpty_iff] using (h t ht).ne_empty
  have hsplit : parts.flatMap (split · '.') = parts := by
    rw [List.flatMap_congr fun t ht => (h t ht).split_eq, List.flatMap_singleton']
  rw [tokens_join, htrim, hkeep, hsplit]

/-- The tokens a part of a built subject contributes: the pieces at dots of its trim, or none
when it trims to nothing. -/
def pieces (x : String) : List String :=
  if (trim x).isEmpty then [] else split (trim x) '.'

/-- A built subject's tokens are the pieces of its parts, one part after another. -/
theorem tokens_build_eq_flatMap (pre : String) (suffixes : List String) :
    (build pre suffixes).tokens = (pre :: suffixes).flatMap pieces := by
  rw [tokens_build]
  generalize pre :: suffixes = parts
  induction parts with
  | nil => rfl
  | cons x rest ih =>
    by_cases hx : (trim x).isEmpty <;> simp [hx, ih, pieces]

theorem pieces_intercalate {ts : List String} (h : ∀ t ∈ ts, Plain t) :
    pieces (".".intercalate ts) = ts := by
  cases ts with
  | nil => decide
  | cons t rest =>
    obtain ⟨hne, hhead, hlast⟩ := intercalate_unpadded h (List.cons_ne_nil t rest)
    have hsplit : (t :: rest).flatMap (split · '.') = t :: rest := by
      rw [List.flatMap_congr fun x hx => (h x hx).split_eq, List.flatMap_singleton']
    rw [pieces, trim_eq_self hhead hlast, if_neg (by simpa [String.isEmpty_iff] using hne),
      split_dot_intercalate (List.cons_ne_nil t rest), hsplit]

theorem pieces_of_plain {t : String} (h : Plain t) : pieces t = [t] := by
  have hone : ∀ x ∈ [t], Plain x := by simpa using h
  simpa using pieces_intercalate hone

/-! ## Covering -/

/-- A pattern whose tokens are, one by one, the subject's token or the wildcard `*` covers
the subject's tokens. -/
theorem tokensMatch_of_forall₂ {ps ts : List String}
    (h : List.Forall₂ (fun p t => p = t ∨ p = one) ps ts) : tokensMatch ps ts = true := by
  induction h with
  | nil => rfl
  | @cons p t ps ts hpt _ ih =>
    unfold tokensMatch
    by_cases hrest : p = rest
    · simp [hrest]
    · have hpick : (p == one || p == t) = true := by
        rcases hpt with rfl | rfl <;> simp
      simp [hrest, hpick, ih]

theorem covers_of_forall₂ {p s : Subject}
    (h : List.Forall₂ (fun a b => a = b ∨ a = one) p.tokens s.tokens) : p.covers s = true :=
  tokensMatch_of_forall₂ h

end Courier.Subject
