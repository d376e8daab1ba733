import Courier.Proofs.Tokens
import Courier.Runtime.Registrar
import Mathlib.Control.Monad.Basic

/-!
# Server and client agree on method subjects

A server binds a method of a service to the subject built from its own prefix and name and the
method's derived tokens under the registrar's prefix, with the registrar's variables; a client
calls the method on the subject joined from the tokens derived under its remote prefix, with
its own variables. When the remote prefix is the server's prefix and name followed by the
registrar's prefix, and these are dotted paths of plain tokens, the two subjects line up token
by token: where the client has a token, the server has the same token, or the wildcard `*`
for a variable the registrar leaves unbound (`binding_tokens_forall₂`). So the server's
subscription covers the subject the client sends to (`registrar_subject_covers_call_subject`).

The agreement rests on both sides splitting every derived token at dots and trimming it before
the variables are replaced, so that blank and dotted pieces of derived words fall away or split
the same way on both sides.
-/

namespace Courier.Derive

open Text Subject

/-! ## Dot splitting -/

theorem dotSplit_append (a b : String) : dotSplit (a ++ "." ++ b) = dotSplit a ++ dotSplit b := by
  simp only [dotSplit, split_dot_append, List.map_append, List.filter_append]

@[simp]
theorem dotSplit_empty : dotSplit "" = [] := by
  simp [dotSplit, split, trim]

theorem dotSplit_of_plain {t : String} (h : Plain t) : dotSplit t = [t] := by
  simp [dotSplit, h.split_eq, h.trim_eq, h.ne_empty]

theorem dotSplit_intercalate {ts : List String} (h : ∀ t ∈ ts, Plain t) :
    dotSplit (".".intercalate ts) = ts := by
  induction ts with
  | nil => simp
  | cons t rest ih =>
    have ht := dotSplit_of_plain (h t (by simp))
    cases rest with
    | nil => simpa using ht
    | cons u more =>
      rw [String.intercalate_cons_cons, dotSplit_append, ht, ih fun x hx => h x (by simp [hx])]
      rfl

theorem plain_of_mem_dotSplit {s t : String} (ht : t ∈ dotSplit s) : Plain t := by
  simp only [dotSplit, List.mem_filter, List.mem_map] at ht
  obtain ⟨⟨x, hx, rfl⟩, hne⟩ := ht
  exact Plain.of_trim (by simpa [String.isEmpty_iff] using hne) (not_mem_of_mem_split hx)

/-! ## Variables -/

/-- The value a token takes under some variables: the value of its variable, `*` for a variable
without one, and the token itself when it names no variable. -/
def substitute (vars : Option (List (String × String))) (t : String) : String :=
  match variableName t with
  | some n => (vars.bind (Keyed.find? n)).getD Subject.one
  | none => t

theorem parametrize_eq (tokens : List String) (vars : Option (List (String × String))) :
    parametrize tokens vars = (tokens.flatMap dotSplit).map (substitute vars) := rfl

theorem parametrize_append (xs ys : List String) (vars : Option (List (String × String))) :
    parametrize (xs ++ ys) vars = parametrize xs vars ++ parametrize ys vars := by
  simp [parametrize_eq, List.flatMap_append]

theorem parametrize_of_literal {ts : List String} (h : ∀ t ∈ ts, Plain t ∧ variableName t = none)
    (vars : Option (List (String × String))) : parametrize ts vars = ts := by
  rw [parametrize_eq, List.flatMap_congr fun t ht => dotSplit_of_plain (h t ht).1,
    List.flatMap_singleton']
  conv_rhs => rw [← List.map_id ts]
  exact List.map_congr_left fun t ht => by simp [substitute, (h t ht).2]

/-- Every value some variable is bound to is a plain token. -/
def PlainValues (vars : Option (List (String × String))) : Prop :=
  ∀ n v, vars.bind (Keyed.find? n) = some v → Plain v

/-- Every variable bound in `server` is bound to the same value in `client`. -/
def Agree (server client : Option (List (String × String))) : Prop :=
  ∀ n v, server.bind (Keyed.find? n) = some v → client.bind (Keyed.find? n) = some v

theorem PlainValues.some {vs : List (String × String)} (h : ∀ p ∈ vs, Plain p.2) :
    PlainValues (some vs) :=
  fun _ _ hv => h _ (Keyed.mem_of_find?_eq_some hv)

theorem PlainValues.of_agree {vs vc : Option (List (String × String))} (h : Agree vs vc)
    (hc : PlainValues vc) : PlainValues vs :=
  fun n v hv => hc n v (h n v hv)

theorem plain_substitute {vars : Option (List (String × String))} {t : String}
    (hv : PlainValues vars) (ht : Plain t) : Plain (substitute vars t) := by
  unfold substitute
  split
  · rename_i n _
    cases hb : vars.bind (Keyed.find? n) with
    | none => exact Plain.one
    | some v => exact hv n v hb
  · exact ht

theorem plain_of_mem_parametrize {tokens : List String} {vars : Option (List (String × String))}
    {t : String} (hv : PlainValues vars) (ht : t ∈ parametrize tokens vars) : Plain t := by
  rw [parametrize_eq, List.mem_map] at ht
  obtain ⟨x, hx, rfl⟩ := ht
  obtain ⟨y, -, hy⟩ := List.mem_flatMap.1 hx
  exact plain_substitute hv (plain_of_mem_dotSplit hy)

/-- Under agreeing variables, each token the server's variables give is the token the client's
give, or the wildcard `*` where the server leaves a variable unbound. -/
theorem parametrize_forall₂ {vs vc : Option (List (String × String))} (h : Agree vs vc)
    (tokens : List String) :
    List.Forall₂ (fun a b => a = b ∨ a = Subject.one) (parametrize tokens vs)
      (parametrize tokens vc) := by
  rw [parametrize_eq, parametrize_eq, List.forall₂_map_left_iff, List.forall₂_map_right_iff,
    List.forall₂_same]
  intro t _
  unfold substitute
  split
  · rename_i n _
    cases hb : vs.bind (Keyed.find? n) with
    | none => exact Or.inr rfl
    | some v => exact Or.inl (by simp [h n v hb])
  · exact Or.inl rfl

end Courier.Derive

namespace Courier.Derive

open Text Subject

/-! ## Derived tokens -/

theorem subjectTokens_ok {pre : String} {service : ServiceDescriptor} {method : MethodDescriptor}
    {tokens : List String} (h : subjectTokens pre service method = .ok tokens) :
    tokens = dotSplit pre ++ (serviceTokensOf service ++ methodTokensOf method) := by
  unfold subjectTokens at h
  dsimp only at h
  split at h
  · cases h
  · split at h
    · cases h
    · cases h
      exact List.append_assoc _ _ _

/-- A dotted text of plain tokens that name no variable: the empty text, or such tokens joined
by dots. -/
def LiteralPath (s : String) : Prop :=
  ∃ ts : List String, s = ".".intercalate ts ∧ ∀ t ∈ ts, Plain t ∧ variableName t = none

theorem eq_nil_of_intercalate_eq_empty {ts : List String} (h : ∀ t ∈ ts, Plain t)
    (he : ".".intercalate ts = "") : ts = [] := by
  by_contra hne
  exact (intercalate_unpadded h hne).1 he

/-- A prefix, a name and an optional registrar prefix, joined by dots, split into the tokens of
the three. -/
theorem dotSplit_remote {pre name reg : String} {ps ns rs : List String}
    (hP : pre = ".".intercalate ps) (hN : name = ".".intercalate ns)
    (hR : reg = ".".intercalate rs) (hps : ∀ t ∈ ps, Plain t) (hns : ∀ t ∈ ns, Plain t)
    (hrs : ∀ t ∈ rs, Plain t) :
    dotSplit (pre ++ "." ++ name ++ (if reg.isEmpty then "" else "." ++ reg)) = ps ++ ns ++ rs := by
  by_cases hempty : reg.isEmpty
  · have hreg : reg = "" := String.isEmpty_iff.1 hempty
    have hnil : rs = [] := eq_nil_of_intercalate_eq_empty hrs (hR ▸ hreg)
    rw [if_pos hempty, String.append_empty, dotSplit_append, hP, hN, dotSplit_intercalate hps,
      dotSplit_intercalate hns, hnil, List.append_nil]
  · rw [if_neg hempty, ← String.append_assoc, dotSplit_append, dotSplit_append, hP, hN, hR,
      dotSplit_intercalate hps, dotSplit_intercalate hns, dotSplit_intercalate hrs]

end Courier.Derive

namespace Courier

theorem Remote.subjectFor_ok {r : Remote} {path : String} {s : Subject}
    (h : r.subjectFor path = .ok s) :
    ∃ svc m tokens, r.registry.resolve path = .ok (svc, m) ∧
      Derive.subjectTokens r.pre svc m = .ok tokens ∧
      s = Subject.join (Derive.parametrize tokens (Derive.serviceVars svc.fullName r.vars)) ∧
      m.skipInputs = false ∧ s.isWildcard = false := by
  unfold Remote.subjectFor at h
  dsimp only at h
  split at h
  · cases h
  · rename_i svc m hres
    split at h
    · cases h
    · rename_i tokens htokens
      split at h
      · cases h
      · rename_i hskip
        split at h
        · cases h
        · rename_i hwild
          cases h
          exact ⟨svc, m, tokens, hres, htokens, rfl, by simpa using hskip, by simpa using hwild⟩

theorem Runtime.Registrar.subjectOf_ok {g : Runtime.Registrar} {server : Service}
    {desc : ServiceDescriptor} {md : MethodDescriptor} {s : Subject}
    (h : g.subjectOf server desc md = .ok s) :
    ∃ tokens, Derive.subjectTokens g.pre desc md = .ok tokens ∧
      s = server.subject (Derive.parametrize tokens (Derive.serviceVars desc.fullName g.vars)) := by
  unfold Runtime.Registrar.subjectOf at h
  cases htokens : Derive.subjectTokens g.pre desc md with
  | error e => simp [htokens, Except.map] at h
  | ok tokens =>
    simp only [htokens, Except.map, Except.ok.injEq] at h
    exact ⟨tokens, rfl, h.symm⟩

end Courier

namespace Courier.Derive

open Text Subject

/-! ## The two subjects of a method -/

/-- Token by token, the subject the registrar binds a method to is the subject a client calls it
on, or the wildcard `*` where the registrar leaves a variable unbound. -/
theorem binding_tokens_forall₂ {g : Runtime.Registrar} {server : Service} {remote : Remote}
    {svc : ServiceDescriptor} {m : MethodDescriptor} {path : String} {bound called : Subject}
    (hpre : LiteralPath server.options.pre) (hname : LiteralPath server.options.name)
    (hreg : LiteralPath g.pre)
    (hremote : remote.pre = server.options.pre ++ "." ++ server.options.name ++
      (if g.pre.isEmpty then "" else "." ++ g.pre))
    (hvals : PlainValues (serviceVars svc.fullName remote.vars))
    (hagree : Agree (serviceVars svc.fullName g.vars) (serviceVars svc.fullName remote.vars))
    (hres : remote.registry.resolve path = .ok (svc, m))
    (hbind : g.subjectOf server svc m = .ok bound) (hcall : remote.subjectFor path = .ok called) :
    List.Forall₂ (fun a b => a = b ∨ a = Subject.one) bound.tokens called.tokens := by
  obtain ⟨ps, hP, hps⟩ := hpre
  obtain ⟨ns, hN, hns⟩ := hname
  obtain ⟨rs, hR, hrs⟩ := hreg
  obtain ⟨svc', m', ct, hres', hct, rfl, -, -⟩ := Remote.subjectFor_ok hcall
  obtain ⟨hs, hm⟩ : svc = svc' ∧ m = m' := by
    rw [hres] at hres'
    simpa using hres'
  subst hs hm
  obtain ⟨st, hst, rfl⟩ := Runtime.Registrar.subjectOf_ok hbind
  -- both sides derive the method's own tokens after their prefixes
  rw [subjectTokens_ok hct] at *
  rw [subjectTokens_ok hst]
  have hlit : ∀ t ∈ ps ++ ns ++ rs, Plain t ∧ variableName t = none := by
    intro t ht
    simp only [List.mem_append] at ht
    rcases ht with (ht | ht) | ht
    exacts [hps t ht, hns t ht, hrs t ht]
  have hsplit := dotSplit_remote hP hN hR (fun t ht => (hps t ht).1) (fun t ht => (hns t ht).1)
    (fun t ht => (hrs t ht).1)
  rw [← hremote] at hsplit
  set own := serviceTokensOf svc ++ methodTokensOf m
  set vs := serviceVars svc.fullName g.vars
  set vc := serviceVars svc.fullName remote.vars
  have hcalled : (join (parametrize (dotSplit remote.pre ++ own) vc)).tokens =
      ps ++ ns ++ rs ++ parametrize own vc := by
    rw [tokens_join_of_plain fun t ht => plain_of_mem_parametrize hvals ht, parametrize_append,
      hsplit, parametrize_of_literal hlit]
  -- the server's subject is its prefix and name followed by the parametrized tokens, all plain
  have hbound : (server.subject (parametrize (dotSplit g.pre ++ own) vs)).tokens =
      ps ++ ns ++ rs ++ parametrize own vs := by
    have hplain : ∀ t ∈ parametrize (dotSplit g.pre ++ own) vs, Plain t :=
      fun t ht => plain_of_mem_parametrize (hvals.of_agree hagree) ht
    have hsfx : (parametrize (dotSplit g.pre ++ own) vs).flatMap pieces =
        parametrize (dotSplit g.pre ++ own) vs := by
      rw [List.flatMap_congr fun t ht => pieces_of_plain (hplain t ht), List.flatMap_singleton']
    rw [Service.subject, tokens_build_eq_flatMap, List.flatMap_cons, List.flatMap_cons, hsfx, hP,
      hN, pieces_intercalate fun t ht => (hps t ht).1, pieces_intercalate fun t ht => (hns t ht).1,
      parametrize_append, hR, dotSplit_intercalate fun t ht => (hrs t ht).1,
      parametrize_of_literal hrs]
    simp only [List.append_assoc]
  have hcommon : List.Forall₂ (fun a b => a = b ∨ a = Subject.one) (ps ++ ns ++ rs)
      (ps ++ ns ++ rs) := List.forall₂_same.2 fun _ _ => Or.inl rfl
  rw [hcalled, hbound]
  exact List.rel_append hcommon (parametrize_forall₂ hagree own)

/-- The subscription of a method covers the subject a client calls the method on, when the
client's remote prefix is the server's prefix and name followed by the registrar's prefix. -/
theorem registrar_subject_covers_call_subject {g : Runtime.Registrar} {server : Service}
    {remote : Remote} {svc : ServiceDescriptor} {m : MethodDescriptor} {path : String}
    {bound called : Subject}
    (hpre : LiteralPath server.options.pre) (hname : LiteralPath server.options.name)
    (hreg : LiteralPath g.pre)
    (hremote : remote.pre = server.options.pre ++ "." ++ server.options.name ++
      (if g.pre.isEmpty then "" else "." ++ g.pre))
    (hvals : PlainValues (serviceVars svc.fullName remote.vars))
    (hagree : Agree (serviceVars svc.fullName g.vars) (serviceVars svc.fullName remote.vars))
    (hres : remote.registry.resolve path = .ok (svc, m))
    (hbind : g.subjectOf server svc m = .ok bound) (hcall : remote.subjectFor path = .ok called) :
    bound.covers called = true :=
  covers_of_forall₂
    (binding_tokens_forall₂ hpre hname hreg hremote hvals hagree hres hbind hcall)

/-- The sample service's `Watch` method, bound by a registrar without variables on the server
`test_prefix.server`, and called by a client that gives `id` the value `7`. -/
theorem watch_binding_covers_call :
    let svc := ServiceDescriptor.sample
    let watch : MethodDescriptor :=
      { name := "Watch", kind := .serverStreaming, subjectSuffix := some "watch.\x7bid\x7d" }
    let registry : DescriptorRegistry := ⟨[(svc.fullName, svc)]⟩
    let g : Runtime.Registrar := { svc := 0, registry, root := { token := 0 } }
    let server : Service := ⟨{ pre := "test_prefix", name := "server" }, .json, Identity.make none []⟩
    let remote : Remote := { registry, pre := "test_prefix.server", vars := some [("id", "7")] }
    g.subjectOf server svc watch = .ok ⟨"test_prefix.server.override.test.watch.*"⟩ ∧
      remote.subjectFor "/types.rpc.TestService/Watch" =
        .ok ⟨"test_prefix.server.override.test.watch.7"⟩ ∧
      (⟨"test_prefix.server.override.test.watch.*"⟩ : Subject).covers
        ⟨"test_prefix.server.override.test.watch.7"⟩ = true := by
  intro svc watch registry g server remote
  have hbind : g.subjectOf server svc watch = .ok ⟨"test_prefix.server.override.test.watch.*"⟩ := by
    decide +kernel
  have hcall : remote.subjectFor "/types.rpc.TestService/Watch" =
      .ok ⟨"test_prefix.server.override.test.watch.7"⟩ := by
    decide +kernel
  have hvars : serviceVars svc.fullName remote.vars = some [("id", "7")] := by decide +kernel
  refine ⟨hbind, hcall, registrar_subject_covers_call_subject ?_ ?_ ?_ ?_ ?_ ?_ ?_ hbind hcall⟩
  · exact ⟨["test_prefix"], by decide, by decide +kernel⟩
  · exact ⟨["server"], by decide, by decide +kernel⟩
  · exact ⟨[], rfl, by simp⟩
  · decide
  · rw [hvars]
    exact PlainValues.some (by decide)
  · intro n v h
    simp [g, serviceVars] at h
  · decide +kernel

/-- A path names a method by its name alone, so of two methods with one name a client reaches
only the first. Here the registrar binds the second `Get`, which fixes its own subject, and its
binding misses the subject a client calls `Get` on, although every other assumption of the
agreement holds. -/
theorem repeated_method_binding_misses_call :
    let second : MethodDescriptor := { name := "Get", subjectSuffix := some "alt" }
    let svc : ServiceDescriptor := { fullName := "pkg.Svc", methods := [{ name := "Get" }, second] }
    let registry : DescriptorRegistry := ⟨[("pkg.Svc", svc)]⟩
    let g : Runtime.Registrar := { svc := 0, registry, root := { token := 0 } }
    let server : Service := ⟨{ pre := "test_prefix", name := "server" }, .json, Identity.make none []⟩
    let remote : Remote := { registry, pre := "test_prefix.server" }
    second ∈ svc.methods ∧ second.skipInputs = false ∧ LiteralPath server.options.pre ∧
      LiteralPath server.options.name ∧ LiteralPath g.pre ∧
      remote.pre = server.options.pre ++ "." ++ server.options.name ∧
      g.subjectOf server svc second = .ok ⟨"test_prefix.server.service.pkg.svc.alt"⟩ ∧
      remote.subjectFor "/pkg.Svc/Get" = .ok ⟨"test_prefix.server.service.pkg.svc.get"⟩ ∧
      (⟨"test_prefix.server.service.pkg.svc.alt"⟩ : Subject).covers
        ⟨"test_prefix.server.service.pkg.svc.get"⟩ = false := by
  intro second svc registry g server remote
  refine ⟨by decide, rfl, ⟨["test_prefix"], by decide, by decide +kernel⟩,
    ⟨["server"], by decide, by decide +kernel⟩, ⟨[], rfl, by simp⟩, by decide, ?_, ?_, ?_⟩ <;>
  decide +kernel

end Courier.Derive
