import Courier.Proofs.Tokens
import Courier.Service.Basic

/-!
# Stream ids

A stream subject is a service's subject of some fixed suffixes followed by the tokens that name
the stream; the pattern the service listens on has a wildcard in their place. `streamIdParts`
counts the tokens of that pattern and keeps the subject's tokens from the last fixed one on, and
`streamId` joins the ones after it.

Both subjects are built the same way: every part trimmed, blank parts dropped, the rest cut at
dots (`Subject.tokens_build_eq_flatMap`). So the counts line up however the suffixes are cut into
parts. When the pattern's suffixes make the fixed tokens and one more, and the subject's make the
fixed tokens and the stream's, the parts are the last fixed token and the stream's tokens
(`streamIdParts_eq`).

Main statement: `stream_id_recovers_remainder`.
-/

namespace Courier.Service

open Subject

/-- The tokens of a service's subject: the pieces of its prefix, of its name and of each
suffix. -/
theorem subject_tokens (s : Service) (suffixes : List String) :
    (s.subject suffixes).tokens =
      pieces s.options.pre ++ pieces s.options.name ++ suffixes.flatMap pieces := by
  simp [subject, tokens_build_eq_flatMap]

theorem streamId_eq (s : Service) (subject : Subject) (suffixes : List String) :
    s.streamId subject suffixes = ".".intercalate (s.streamIdParts subject suffixes).tail := by
  unfold streamId
  cases s.streamIdParts subject suffixes <;> rfl

/-- All but the last element of a list dropped from it, followed by more: its last element, then
the rest. -/
theorem drop_pred_length_append {α : Type} (l r : List α) :
    (l ++ r).drop (l.length - 1) = l.getLast?.toList ++ r := by
  rcases List.eq_nil_or_concat l with rfl | ⟨L, b, rfl⟩
  · simp
  · rw [List.concat_eq_append, List.length_append, List.length_singleton, Nat.add_sub_cancel,
      List.append_assoc, List.drop_left, List.getLast?_concat]
    rfl

/-- The parts of a stream subject. When the pattern's suffixes `S` cut into the fixed tokens `F`
and one more, and the subject's suffixes `C` into `F` and the stream's tokens `X`, the parts are
the last of the service's and the fixed tokens, then `X`. -/
theorem streamIdParts_eq (s : Service) {S C F X : List String} {W : String}
    (hS : S.flatMap pieces = F ++ [W]) (hC : C.flatMap pieces = F ++ X) :
    s.streamIdParts (s.subject C) S =
      (pieces s.options.pre ++ pieces s.options.name ++ F).getLast?.toList ++ X := by
  -- the pattern has one token more than the fixed ones, so two fewer is one short of them
  have hlen : (pieces s.options.pre ++ pieces s.options.name ++ (F ++ [W])).length - 2 =
      (pieces s.options.pre ++ pieces s.options.name ++ F).length - 1 := by
    simp only [List.length_append, List.length_singleton]
    omega
  rw [streamIdParts, subject_tokens, subject_tokens, hS, hC, hlen, ← List.append_assoc,
    drop_pred_length_append]

/-- A stream id is the stream's tokens joined by dots: for a service whose prefix and name are
plain tokens joined by dots, the name at least one, a subject of fixed plain tokens `F` and
stream tokens `X` gives back the last fixed token and `X`, against a pattern whose suffixes, cut
at dots in any way, make `F` and a wildcard `W`. -/
theorem stream_id_recovers_remainder (s : Service) {ps ns F X S : List String} {W : String}
    (hpre : s.options.pre = ".".intercalate ps) (hname : s.options.name = ".".intercalate ns)
    (hps : ∀ t ∈ ps, Plain t) (hns : ∀ t ∈ ns, Plain t) (hF : ∀ t ∈ F, Plain t)
    (hX : ∀ t ∈ X, Plain t) (hn : ns ≠ []) (hS : S.flatMap pieces = F ++ [W]) :
    (∃ last, (ps ++ ns ++ F).getLast? = some last ∧
      s.streamIdParts (s.subject (F ++ X)) S = last :: X) ∧
      s.streamId (s.subject (F ++ X)) S = ".".intercalate X := by
  have hC : (F ++ X).flatMap pieces = F ++ X := by
    rw [List.flatMap_congr fun t ht => pieces_of_plain (List.forall_mem_append.2 ⟨hF, hX⟩ t ht),
      List.flatMap_singleton']
  have hparts := streamIdParts_eq s hS hC
  rw [hpre, hname, pieces_intercalate hps, pieces_intercalate hns] at hparts
  -- the name has a token, so there is a last fixed token
  obtain ⟨last, hlast⟩ : ∃ last, (ps ++ ns ++ F).getLast? = some last := by
    cases h : (ps ++ ns ++ F).getLast? with
    | none => simp_all
    | some last => exact ⟨last, rfl⟩
  rw [hlast, Option.toList_some, List.singleton_append] at hparts
  exact ⟨⟨last, hlast, hparts⟩, by rw [streamId_eq, hparts, List.tail_cons]⟩

/-- The service `test.svc` and its stream pattern `query.>`, given as one part. -/
theorem query_stream_id :
    let s : Service := ⟨{ pre := "test", name := "svc" }, .json, {}⟩
    s.options.pre = ".".intercalate ["test"] ∧ s.options.name = ".".intercalate ["svc"] ∧
      (∀ t ∈ ["test"], Plain t) ∧ (∀ t ∈ ["svc"], Plain t) ∧ (∀ t ∈ ["query"], Plain t) ∧
      (∀ t ∈ ["p1", "p2"], Plain t) ∧ ["svc"] ≠ [] ∧
      ["query.>"].flatMap pieces = ["query"] ++ [">"] ∧
      ((∃ last, (["test"] ++ ["svc"] ++ ["query"]).getLast? = some last ∧
        s.streamIdParts (s.subject (["query"] ++ ["p1", "p2"])) ["query.>"] = last :: ["p1", "p2"]) ∧
        s.streamId (s.subject (["query"] ++ ["p1", "p2"])) ["query.>"] =
          ".".intercalate ["p1", "p2"]) := by
  intro s
  have hpre : s.options.pre = ".".intercalate ["test"] := rfl
  have hname : s.options.name = ".".intercalate ["svc"] := rfl
  have hps : ∀ t ∈ ["test"], Plain t := by decide
  have hns : ∀ t ∈ ["svc"], Plain t := by decide
  have hF : ∀ t ∈ ["query"], Plain t := by decide
  have hX : ∀ t ∈ ["p1", "p2"], Plain t := by decide
  have hS : ["query.>"].flatMap pieces = ["query"] ++ [">"] := by decide
  exact ⟨hpre, hname, hps, hns, hF, hX, by decide, hS,
    stream_id_recovers_remainder s hpre hname hps hns hF hX (by decide) hS⟩

end Courier.Service
