import Courier.Proofs.Agreement
import Courier.Proofs.Registration

/-!
# When two bound methods share a subject

A registrar binds each method to the subject of its server's prefix and name followed by the
registrar's prefix and the method's words: the service's tokens and the method's tokens, split
at dots and trimmed, with each variable replaced by its value (or by `*` without one). The
server's part is the same for every method, so two methods get one subject exactly when their
words agree, and a subject without wildcards covers another only when the two are equal
(`bound_subject_eq_iff_words`).

Words agree more often than names do. A service's tokens keep only the last component of its
package and drop a trailing `Service`, and the words of a name are lowercased; nothing checks the
registry for two methods whose words agree (`packages_share_bound_subject`).
-/

namespace Courier.Derive

open Text Subject

/-! ## Subjects of plain suffixes -/

/-- The words a registrar without variables puts after its prefix for a method of a service. -/
def boundWords (service : ServiceDescriptor) (method : MethodDescriptor) : List String :=
  parametrize (serviceTokensOf service ++ methodTokensOf method) none

theorem plainValues_none : PlainValues none := fun _ _ h => by simp at h

/-- A service's subject of plain suffixes has the pieces of its prefix and name, then the
suffixes. -/
theorem subject_tokens_of_plain (server : Service) {suffixes : List String}
    (h : ∀ t ∈ suffixes, Plain t) :
    (server.subject suffixes).tokens =
      pieces server.options.pre ++ pieces server.options.name ++ suffixes := by
  have hsfx : suffixes.flatMap pieces = suffixes := by
    rw [List.flatMap_congr fun t ht => pieces_of_plain (h t ht), List.flatMap_singleton']
  rw [Service.subject, tokens_build_eq_flatMap, List.flatMap_cons, List.flatMap_cons, hsfx,
    List.append_assoc]

/-- Without variables, the subject a registrar binds a method to is its server's prefix and
name, then the registrar's prefix, then the method's words. -/
theorem subjectOf_of_no_vars {g : Runtime.Registrar} (hv : g.vars = none) {server : Service}
    {d : ServiceDescriptor} {m : MethodDescriptor} {s : Subject}
    (h : g.subjectOf server d m = .ok s) :
    s = server.subject (parametrize (dotSplit g.pre) none ++ boundWords d m) := by
  obtain ⟨tokens, htokens, rfl⟩ := Runtime.Registrar.subjectOf_ok h
  have hvars : serviceVars d.fullName g.vars = none := by simp [serviceVars, hv]
  rw [subjectTokens_ok htokens, hvars, parametrize_append, boundWords]

theorem subjectOf_tokens {g : Runtime.Registrar} (hv : g.vars = none) {server : Service}
    {d : ServiceDescriptor} {m : MethodDescriptor} {s : Subject}
    (h : g.subjectOf server d m = .ok s) :
    s.tokens = pieces server.options.pre ++ pieces server.options.name ++
      parametrize (dotSplit g.pre) none ++ boundWords d m := by
  rw [subjectOf_of_no_vars hv h, subject_tokens_of_plain server fun t ht => ?_,
    List.append_assoc _ (parametrize _ none)]
  rw [List.mem_append] at ht
  rcases ht with ht | ht
  · exact plain_of_mem_parametrize plainValues_none ht
  · exact plain_of_mem_parametrize plainValues_none ht

end Courier.Derive

namespace Courier.Subject

/-! ## Covering without wildcards -/

theorem isWildcard_eq_false_iff (s : Subject) :
    s.isWildcard = false ↔ ∀ t ∈ s.tokens, t ≠ one ∧ t ≠ rest := by
  simp [isWildcard, not_or]

theorem eq_of_tokensMatch_literal {ps ts : List String} (hp : ∀ p ∈ ps, p ≠ one ∧ p ≠ rest)
    (h : tokensMatch ps ts = true) : ps = ts := by
  induction ps generalizing ts with
  | nil =>
    cases ts with
    | nil => rfl
    | cons t ts => simp [tokensMatch] at h
  | cons p ps ih =>
    obtain ⟨hone, hrest⟩ := hp p List.mem_cons_self
    cases ts with
    | nil => simp [tokensMatch, hrest] at h
    | cons t ts =>
      simp only [tokensMatch, hrest, if_false, Bool.and_eq_true, Bool.or_eq_true,
        beq_iff_eq] at h
      obtain ⟨hone' | rfl, hmatch⟩ := h
      · exact absurd hone' hone
      · rw [ih (fun q hq => hp q (List.mem_cons_of_mem p hq)) hmatch]

/-- A subject without wildcards covers another only when their tokens are the same. -/
theorem tokens_eq_of_covers {p s : Subject} (hw : p.isWildcard = false)
    (h : p.covers s = true) : p.tokens = s.tokens :=
  eq_of_tokensMatch_literal ((isWildcard_eq_false_iff p).mp hw) h

theorem tokensMatch_self : ∀ ts : List String, tokensMatch ts ts = true
  | [] => rfl
  | t :: ts => by
    by_cases h : t = rest
    · simp [tokensMatch, h]
    · simp [tokensMatch, h, tokensMatch_self ts]

theorem covers_self (s : Subject) : s.covers s = true := tokensMatch_self s.tokens

end Courier.Subject

namespace Courier.Derive

open Subject

/-! ## Bound subjects -/

/-- Two methods a registrar without variables binds get the same subject exactly when their
words agree, and a bound subject without wildcards covers another only when they are the same
subject. -/
theorem bound_subject_eq_iff_words {g : Runtime.Registrar} (hv : g.vars = none)
    {server : Service} {d₁ d₂ : ServiceDescriptor} {m₁ m₂ : MethodDescriptor} {s₁ s₂ : Subject}
    (h₁ : g.subjectOf server d₁ m₁ = .ok s₁) (h₂ : g.subjectOf server d₂ m₂ = .ok s₂) :
    (s₁ = s₂ ↔ boundWords d₁ m₁ = boundWords d₂ m₂) ∧
      (s₁.isWildcard = false → s₁.covers s₂ = true → s₁ = s₂) := by
  -- the server's prefix and name and the registrar's prefix are common to both subjects
  have hwords : s₁.tokens = s₂.tokens → boundWords d₁ m₁ = boundWords d₂ m₂ := by
    intro htokens
    rw [subjectOf_tokens hv h₁, subjectOf_tokens hv h₂] at htokens
    exact List.append_cancel_left htokens
  have hiff : s₁ = s₂ ↔ boundWords d₁ m₁ = boundWords d₂ m₂ := by
    refine ⟨fun h => hwords (congrArg Subject.tokens h), fun h => ?_⟩
    rw [subjectOf_of_no_vars hv h₁, subjectOf_of_no_vars hv h₂, h]
  exact ⟨hiff, fun hw hc => hiff.mpr (hwords (tokens_eq_of_covers hw hc))⟩

/-- The methods `Get` and `ListAll` of one service have different words, so their subjects
differ and neither covers the other. -/
theorem get_and_list_bound_apart :
    let get : MethodDescriptor := { name := "Get" }
    let list : MethodDescriptor := { name := "ListAll" }
    let svc : ServiceDescriptor := { fullName := "pkg.Svc", methods := [get, list] }
    let g : Runtime.Registrar :=
      { svc := 0, registry := ⟨[(svc.fullName, svc)]⟩, root := { token := 0 } }
    let server : Service := ⟨{ pre := "test_prefix", name := "server" }, .json, Identity.make none []⟩
    let s₁ : Subject := ⟨"test_prefix.server.service.pkg.svc.get"⟩
    let s₂ : Subject := ⟨"test_prefix.server.service.pkg.svc.list.all"⟩
    g.vars = none ∧ g.subjectOf server svc get = .ok s₁ ∧ g.subjectOf server svc list = .ok s₂ ∧
      boundWords svc get ≠ boundWords svc list ∧
      ((s₁ = s₂ ↔ boundWords svc get = boundWords svc list) ∧
        (s₁.isWildcard = false → s₁.covers s₂ = true → s₁ = s₂)) := by
  intro get list svc g server s₁ s₂
  have h₁ : g.subjectOf server svc get = .ok s₁ := by decide +kernel
  have h₂ : g.subjectOf server svc list = .ok s₂ := by decide +kernel
  exact ⟨rfl, h₁, h₂, by decide +kernel, bound_subject_eq_iff_words rfl h₁ h₂⟩

/-- Two services whose full names differ only before the last package component, each with a
method `Get` and a unary handler for it: a registrar serves both methods, and binds both to
`test_prefix.server.service.pkg.foo.get`, so a request for either reaches both handlers. -/
theorem packages_share_bound_subject :
    let get : MethodDescriptor := { name := "Get" }
    let a : ServiceDescriptor := { fullName := "a.pkg.FooService", methods := [get] }
    let b : ServiceDescriptor := { fullName := "b.pkg.FooService", methods := [get] }
    let g : Runtime.Registrar :=
      { svc := 0, registry := ⟨[(a.fullName, a), (b.fullName, b)]⟩, root := { token := 0 },
        definitions := [⟨a.fullName, [("Get", .unary false)]⟩,
          ⟨b.fullName, [("Get", .unary false)]⟩] }
    let server : Service := ⟨{ pre := "test_prefix", name := "server" }, .json, Identity.make none []⟩
    let bound : Subject := ⟨"test_prefix.server.service.pkg.foo.get"⟩
    (a, get, .unary false) ∈ g.served ∧ (b, get, .unary false) ∈ g.served ∧
      a.fullName ≠ b.fullName ∧ g.subjectOf server a get = .ok bound ∧
      g.subjectOf server b get = .ok bound ∧ bound.covers bound = true := by
  intro get a b g server bound
  refine ⟨by decide, by decide, by decide, ?_, ?_, by decide⟩ <;> decide +kernel

end Courier.Derive
