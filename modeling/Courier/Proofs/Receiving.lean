import Courier.Proofs.Signatures
import Courier.Proofs.Tasks
import Courier.Runtime.Client

/-!
# Nothing unverified reaches a caller

A service reads an envelope only through `Service.unmarshal`, which verifies it first: a decoded
value or a remote error comes back only for an envelope that verifies (`unmarshal_verified`).
Handlers read their deliveries the same way, through a service of the world
(`unmarshalFor_verifies`).

An operation that waits is checked first in the world it starts in and then in worlds its wait
reaches by running the ready tasks and moving the clock forward (`Checked`); it ends as one of
those checks or in a timeout (`conclude_checked`). A check that hands over a decoded value or a
remote error took one envelope, the reply in the operation's inbox or the head of the stream's
channel, and its outcome is that envelope decoded. So remote calls, stream receives and requests
hand their callers what an envelope says only as the answer decoded from the envelope their own
wait took, and that envelope verified (`invoke_answer_verified`, `receive_answer_verified`,
`request_answer_verified`).
-/

namespace Courier

/-- A remote error: the text an error reply carries. -/
def ServiceError.IsRemote : ServiceError → Prop
  | .remote _ => True
  | _ => False

/-- A remote error, also as the service failure of a call. -/
def RpcError.IsRemote : RpcError → Prop
  | .remote _ => True
  | .service e => e.IsRemote
  | _ => False

theorem RpcError.ofService_isRemote (e : ServiceError) : (ofService e).IsRemote ↔ e.IsRemote := by
  cases e <;> exact Iff.rfl

theorem Context.err_not_remote {c : Context} {t : Tokens} {now : Nat} {e : RpcError}
    (h : c.err t now = some e) : ¬e.IsRemote := by
  unfold Context.err at h
  split at h
  · cases h; exact id
  · split at h
    · split at h
      · cases h; exact id
      · cases h
    · cases h

theorem DescriptorRegistry.resolve_error_not_remote {r : DescriptorRegistry} {path : String}
    {e : RpcError} (h : r.resolve path = .error e) : ¬e.IsRemote := by
  unfold resolve at h
  split at h
  · cases h; exact id
  · split at h
    · cases h; exact id
    · split at h
      · cases h; exact id
      · cases h

theorem Remote.subjectFor_error_not_remote {r : Remote} {path : String} {e : RpcError}
    (h : r.subjectFor path = .error e) : ¬e.IsRemote := by
  unfold subjectFor at h
  split at h
  · next he => cases h; exact DescriptorRegistry.resolve_error_not_remote he
  · split at h
    · next he =>
      cases h
      unfold Derive.subjectTokens at he
      dsimp only at he
      split at he
      · cases he; exact id
      · split at he
        · cases he; exact id
        · cases he
    · dsimp only at h
      split at h
      · cases h; exact id
      · split at h
        · cases h; exact id
        · cases h

namespace Service

/-- Whether an unmarshalled answer hands its caller what an envelope says: the decoded value or
the remote error it reports. -/
def Decoded : Except ServiceError Json.Value → Prop
  | .ok _ => True
  | .error e => e.IsRemote

theorem verify_error_not_remote {s : Service} {m : Message} {e : ServiceError}
    (h : s.verify m = .error e) : ¬e.IsRemote := by
  rcases (Identity.verify_eq_error_iff _ _ _ e).mp h with
    ⟨-, -, rfl⟩ | ⟨-, -, -, rfl⟩ | ⟨-, -, rfl⟩ | ⟨-, rfl⟩ <;> exact id

/-- Unmarshalling hands over a value or a remote error only for an envelope that verifies. -/
theorem unmarshal_verified {s : Service} {shape : Shape} {m : Message}
    (h : Decoded (s.unmarshal shape m)) : s.verify m = .ok () := by
  unfold unmarshal at h
  cases hv : s.verify m with
  | error e =>
    rw [hv] at h
    exact absurd h (verify_error_not_remote hv)
  | ok u => rfl

end Service

namespace Runtime

/-- Whether an operation's outcome hands its caller what an envelope says: a decoded value or a
remote error. -/
def Outcome.Decoded : Outcome → Prop
  | .value _ => True
  | .serviceFailure e => e.IsRemote
  | .callFailure e => e.IsRemote
  | _ => False

/-- The outcome of a call that decoded an envelope: the value, or the service's error as the
call's. -/
def Outcome.ofCall : Except ServiceError Json.Value → Outcome
  | .ok v => .value v
  | .error e => .callFailure (RpcError.ofService e)

/-- The outcome of a service's request that decoded its reply: the value, or the service's
error. -/
def Outcome.ofService : Except ServiceError Json.Value → Outcome
  | .ok v => .value v
  | .error e => .serviceFailure e

theorem Outcome.decoded_ofCall {r : Except ServiceError Json.Value}
    (h : (Outcome.ofCall r).Decoded) : Service.Decoded r := by
  cases r with
  | ok v => trivial
  | error e => exact (RpcError.ofService_isRemote e).mp h

theorem Outcome.decoded_ofService {r : Except ServiceError Json.Value}
    (h : (Outcome.ofService r).Decoded) : Service.Decoded r := by
  cases r with
  | ok v => trivial
  | error e => exact h

namespace World

/-! ## Reading an envelope in the world -/

@[simp]
theorem service?_dropRoute (w : World) (id svc : Nat) :
    (w.dropRoute id).service? svc = w.service? svc :=
  rfl

@[simp]
theorem service?_modifyStream (w : World) (i : Nat) (f : CallStream → CallStream) (svc : Nat) :
    (w.modifyStream i f).service? svc = w.service? svc :=
  rfl

@[simp]
theorem service?_count (w : World) (s : Nat) (inbound : Bool) (bytes svc : Nat) :
    (w.count s inbound bytes).service? svc = w.service? svc := by
  simp only [service?, runner?, count, modifyRunner, Array.getElem?_modify]
  split <;> simp [Option.map_map, Function.comp_def]

@[simp]
theorem service?_countReply (w : World) (s : Nat) (m : Message) (svc : Nat) :
    (w.countReply s m).service? svc = w.service? svc := by
  unfold countReply
  split <;> simp

/-- A service of the world hands over a value or a remote error only for an envelope that
verifies. -/
theorem unmarshalFor_verifies {w : World} {svc : Nat} {shape : Shape} {m : Message}
    (h : Service.Decoded (w.unmarshalFor svc shape m)) : w.verifies svc m = true := by
  unfold unmarshalFor at h
  unfold verifies
  cases hs : w.service? svc with
  | none =>
    rw [hs] at h
    exact absurd h id
  | some s =>
    rw [hs] at h
    simp only
    rw [Service.unmarshal_verified h]
    rfl

theorem unmarshalFor_of_service? {w w' : World} {svc : Nat} (h : w.service? svc = w'.service? svc)
    (shape : Shape) (m : Message) : w.unmarshalFor svc shape m = w'.unmarshalFor svc shape m := by
  simp only [unmarshalFor, h]

/-! ## Checks and waits -/

/-- The worlds a wait is checked in, from the world it starts in: that world, and every world
reached from one of them by running the ready tasks or by moving the clock forward and firing
the timers then due. -/
inductive Checked (w : World) : World → Prop
  | start : Checked w w
  | settle {w₀ : World} (fuel : Nat) : Checked w w₀ → Checked w (w₀.settle fuel)
  | tick {w₀ : World} {t : Nat} : w₀.now ≤ t → Checked w w₀ →
      Checked w ({ w₀ with now := t }.fire t)

theorem Checked.trans {w₁ w₂ w₃ : World} (h₁ : Checked w₁ w₂) (h₂ : Checked w₂ w₃) :
    Checked w₁ w₃ := by
  induction h₂ with
  | start => exact h₁
  | settle fuel _ ih => exact .settle fuel ih
  | tick ht _ ih => exact .tick ht ih

/-- A wait ends as its check in a world it reaches, or in a timeout. -/
theorem await_checked (w : World) (wait : Wait) (limit fuel : Nat) :
    (w.await wait limit fuel).2 = .timeout ∨
      ∃ w₀, Checked w w₀ ∧ w₀.check wait = some (w.await wait limit fuel) := by
  induction fuel generalizing w with
  | zero => exact .inl rfl
  | succ fuel ih =>
    have hs : Checked w (w.settle pollBudget) := .settle pollBudget .start
    simp only [await]
    split
    · next r hr => exact .inr ⟨_, hs, hr⟩
    · split
      · next r hr => exact .inr ⟨_, .tick (Nat.le_max_left _ _) hs, hr⟩
      · split
        · exact .inl rfl
        · -- the clock moved on: the rest of the wait starts from the fired world
          rcases ih _ with ht | ⟨w₀, hc, hr⟩
          · exact .inl ht
          · exact .inr ⟨w₀, (Checked.tick (Nat.le_max_left _ _) hs).trans hc, hr⟩

/-- A waiting operation ends as its check in a world its wait reaches, or in a timeout. -/
theorem conclude_checked {w w' : World} {wait : Wait} {patience : Nat} {o : Outcome}
    (h : (Progress.waiting w wait).conclude patience = (w', o)) :
    o = .timeout ∨ ∃ w₀, Checked w w₀ ∧ w₀.check wait = some (w', o) := by
  simp only [Progress.conclude] at h
  split at h
  · next r hr =>
    subst h
    exact .inr ⟨w, .start, hr⟩
  · rcases await_checked w wait (w.now + patience) awaitBudget with ht | ⟨w₀, hc, hr⟩
    · rw [h] at ht
      exact .inl ht
    · rw [h] at hr
      exact .inr ⟨w₀, hc, hr⟩

/-! ## The envelope a check takes -/

/-- A call's check that hands over what an envelope says took the reply in its inbox and
decoded it for the calling service. -/
theorem check_call_decoded {w w' : World} {svc inbox : Nat} {ctx : Context} {shape : Shape}
    {o : Outcome} (h : w.check (.call svc inbox ctx shape) = some (w', o)) (ho : o.Decoded) :
    ∃ m, w.takeReply inbox = some (w.dropRoute inbox, m) ∧
      o = Outcome.ofCall (w.unmarshalFor svc shape m) := by
  simp only [check] at h
  split at h
  · next e he =>
    cases h
    exact absurd ho (Context.err_not_remote he)
  · obtain ⟨⟨w₁, m⟩, ht, hr⟩ := Option.map_eq_some_iff.mp h
    obtain rfl := takeReply_fst ht
    refine ⟨m, ht, ?_⟩
    -- counting the reply in leaves the service that decodes it as it was
    have hu : ((w.dropRoute inbox).countReply svc m).unmarshalFor svc shape m =
        w.unmarshalFor svc shape m := unmarshalFor_of_service? (by simp) shape m
    dsimp only at hr
    rw [hu] at hr
    cases hd : w.unmarshalFor svc shape m <;> rw [hd] at hr <;> cases hr <;> rfl

/-- A request's check that hands over what an envelope says took the reply in its inbox and
decoded it, as the shape it asked for, for the requesting service. -/
theorem check_reply_decoded {w w' : World} {svc inbox : Nat} {shape : Option Shape}
    {o : Outcome} (h : w.check (.reply (some svc) inbox shape) = some (w', o)) (ho : o.Decoded) :
    ∃ sh m, shape = some sh ∧ w.takeReply inbox = some (w.dropRoute inbox, m) ∧
      o = Outcome.ofService (w.unmarshalFor svc sh m) := by
  simp only [check] at h
  obtain ⟨⟨w₁, m⟩, ht, hr⟩ := Option.map_eq_some_iff.mp h
  obtain rfl := takeReply_fst ht
  cases shape with
  | none =>
    cases hr
    exact ho.elim
  | some sh =>
    refine ⟨sh, m, rfl, ht, ?_⟩
    have hu : ((w.dropRoute inbox).countReply svc m).unmarshalFor svc sh m =
        w.unmarshalFor svc sh m := unmarshalFor_of_service? (by simp) sh m
    dsimp only at hr
    rw [hu] at hr
    cases hd : w.unmarshalFor svc sh m <;> rw [hd] at hr <;> cases hr <;> rfl

/-- A receive's check that hands over what an envelope says took the head of the stream's
channel and decoded it for the stream's service. -/
theorem check_receive_decoded {w w' : World} {i : Nat} {shape : Shape} {o : Outcome}
    (h : w.check (.receive i shape) = some (w', o)) (ho : o.Decoded) :
    ∃ s m, w.stream? i = some s ∧ s.channel.head? = some m ∧
      o = Outcome.ofCall (w.unmarshalFor s.svc shape m) := by
  simp only [check] at h
  split at h
  · cases h
    exact ho.elim
  · next s hs =>
    split at h
    · cases h
      exact ho.elim
    · split at h
      · next e he =>
        cases h
        exact absurd ho (Context.err_not_remote he)
      · split at h
        · cases h
        · next m rest hch =>
          refine ⟨s, m, hs, by simp [hch], ?_⟩
          -- taking the message off the channel leaves the stream's service as it was
          have hu : (w.modifyStream i fun s => { s with channel := rest }).unmarshalFor s.svc
              shape m = w.unmarshalFor s.svc shape m := unmarshalFor_of_service? (by simp) shape m
          rw [hu] at h
          cases hd : w.unmarshalFor s.svc shape m <;> rw [hd] at h <;> cases h <;> rfl

/-! ## Calls, streams and requests -/

/-- A remote call either ends at once without handing over an envelope's answer, or waits for the
reply in the inbox of its request. -/
theorem invoke_cases (w : World) (svc : Nat) (remote : Remote) (ctx : Context) (path : String)
    (request : Json.Value) (shape : Shape) :
    (∃ w₁ o, w.invoke svc remote ctx path request shape = .finished w₁ o ∧ ¬o.Decoded) ∨
      ∃ w₁ inbox, w.invoke svc remote ctx path request shape = .waiting w₁ (.call svc inbox ctx shape) := by
  unfold invoke
  split
  · next e he => exact .inl ⟨_, _, rfl, Remote.subjectFor_error_not_remote he⟩
  · split
    · next e he => exact .inl ⟨_, _, rfl, Context.err_not_remote he⟩
    · dsimp only
      split
      · exact .inl ⟨_, _, rfl, id⟩
      · split
        · exact .inl ⟨_, _, rfl, id⟩
        · exact .inr ⟨_, _, rfl⟩

/-- A service's request either ends at once without handing over an envelope's answer, or waits
for the reply in its inbox. -/
theorem request_cases (w : World) (svc : Nat) (cancelled : Bool) (payload : ByteArray)
    (subject : Subject) (headers : Headers) (shape : Option Shape) :
    (∃ w₁ o, w.request svc cancelled payload subject headers shape = .finished w₁ o ∧
        ¬o.Decoded) ∨
      ∃ w₁ inbox, w.request svc cancelled payload subject headers shape =
        .waiting w₁ (.reply (some svc) inbox shape) := by
  unfold request
  dsimp only
  split
  · exact .inl ⟨_, _, rfl, id⟩
  · split
    · exact .inl ⟨_, _, rfl, id⟩
    · exact .inr ⟨_, _, rfl⟩

/-- A remote call hands its caller a value or a remote error only as the answer decoded from the
reply it took from its request's inbox, in a world its wait reached, and that reply verifies for
the calling service. -/
theorem invoke_answer_verified {w w' : World} {svc : Nat} {remote : Remote} {ctx : Context}
    {path : String} {request : Json.Value} {shape : Shape} {patience : Nat} {o : Outcome}
    (h : (w.invoke svc remote ctx path request shape).conclude patience = (w', o))
    (ho : o.Decoded) :
    ∃ w₁ inbox w₀ m,
      w.invoke svc remote ctx path request shape = .waiting w₁ (.call svc inbox ctx shape) ∧
      Checked w₁ w₀ ∧ w₀.check (.call svc inbox ctx shape) = some (w', o) ∧
      w₀.takeReply inbox = some (w₀.dropRoute inbox, m) ∧ w₀.verifies svc m = true ∧
      o = Outcome.ofCall (w₀.unmarshalFor svc shape m) := by
  rcases invoke_cases w svc remote ctx path request shape with ⟨w₁, o₁, hi, hn⟩ | ⟨w₁, inbox, hi⟩
  · rw [hi] at h
    cases h
    exact absurd ho hn
  · rw [hi] at h
    rcases conclude_checked h with rfl | ⟨w₀, hc, hcheck⟩
    · exact ho.elim
    · obtain ⟨m, ht, rfl⟩ := check_call_decoded hcheck ho
      exact ⟨w₁, inbox, w₀, m, hi, hc, hcheck, ht,
        unmarshalFor_verifies (Outcome.decoded_ofCall ho), rfl⟩

/-- Receiving on a stream hands its caller a value or a remote error only as the answer decoded
from the head of the stream's channel, in a world its wait reached, and that envelope verifies
for the stream's service. -/
theorem receive_answer_verified {w w' : World} {i : Nat} {shape : Shape} {patience : Nat}
    {o : Outcome} (h : (w.receive i shape).conclude patience = (w', o)) (ho : o.Decoded) :
    ∃ w₀ s m, Checked w w₀ ∧ w₀.check (.receive i shape) = some (w', o) ∧
      w₀.stream? i = some s ∧ s.channel.head? = some m ∧ w₀.verifies s.svc m = true ∧
      o = Outcome.ofCall (w₀.unmarshalFor s.svc shape m) := by
  rcases conclude_checked h with rfl | ⟨w₀, hc, hcheck⟩
  · exact ho.elim
  · obtain ⟨s, m, hs, hm, rfl⟩ := check_receive_decoded hcheck ho
    exact ⟨w₀, s, m, hc, hcheck, hs, hm, unmarshalFor_verifies (Outcome.decoded_ofCall ho), rfl⟩

/-- A service's request hands its caller a value or a remote error only as the answer decoded,
as the shape it asked for, from the reply it took from its inbox, in a world its wait reached,
and that reply verifies for the service. -/
theorem request_answer_verified {w w' : World} {svc : Nat} {cancelled : Bool}
    {payload : ByteArray} {subject : Subject} {headers : Headers} {shape : Option Shape}
    {patience : Nat} {o : Outcome}
    (h : (w.request svc cancelled payload subject headers shape).conclude patience = (w', o))
    (ho : o.Decoded) :
    ∃ w₁ inbox w₀ sh m,
      w.request svc cancelled payload subject headers shape =
        .waiting w₁ (.reply (some svc) inbox shape) ∧
      Checked w₁ w₀ ∧ w₀.check (.reply (some svc) inbox shape) = some (w', o) ∧
      shape = some sh ∧ w₀.takeReply inbox = some (w₀.dropRoute inbox, m) ∧
      w₀.verifies svc m = true ∧ o = Outcome.ofService (w₀.unmarshalFor svc sh m) := by
  rcases request_cases w svc cancelled payload subject headers shape with
    ⟨w₁, o₁, hr, hn⟩ | ⟨w₁, inbox, hr⟩
  · rw [hr] at h
    cases h
    exact absurd ho hn
  · rw [hr] at h
    rcases conclude_checked h with rfl | ⟨w₀, hc, hcheck⟩
    · exact ho.elim
    · obtain ⟨sh, m, hsh, ht, rfl⟩ := check_reply_decoded hcheck ho
      exact ⟨w₁, inbox, w₀, sh, m, hr, hc, hcheck, hsh, ht,
        unmarshalFor_verifies (Outcome.decoded_ofService ho), rfl⟩

end World

/-- Nothing unverified reaches a caller: verification passes exactly for unsigned headers
without an allowlist or a good signature under the identity's key, fails with its errors in the
order of its checks, and every way a caller reads an envelope hands over a value or a remote
error only for an envelope that verified. -/
theorem decoded_only_from_verified :
    (∀ (id : Identity) (h : Headers) (p : ByteArray), id.verify h p = .ok () ↔
      (id.known = [] ∧ h.identityValue = "" ∧ h.signatureValue = "") ∨
      ∃ k bytes, id.keyFor h.identityValue = some k ∧
        Text.base64Decode h.signatureValue = some bytes ∧
        bytes.size = 64 ∧ Crypto.Ed25519.verify k.bytes k.point p bytes = true) ∧
    (∀ (id : Identity) (h : Headers) (p : ByteArray) (e : ServiceError), id.verify h p = .error e ↔
      (id.known ≠ [] ∧ Keyed.find? (asciiLower h.identityValue) id.known = none ∧
        e = .unknownIdentity h.identityValue) ∨
      (id.known = [] ∧ ¬(h.identityValue = "" ∧ h.signatureValue = "") ∧
        (decodeIdentity h.identityValue).toOption = none ∧ e = .invalidIdentity) ∨
      ((∃ k, id.keyFor h.identityValue = some k) ∧
        (∀ bytes, Text.base64Decode h.signatureValue = some bytes → bytes.size ≠ 64) ∧
        e = .malformedSignature) ∨
      ((∃ k bytes, id.keyFor h.identityValue = some k ∧
        Text.base64Decode h.signatureValue = some bytes ∧ bytes.size = 64 ∧
        Crypto.Ed25519.verify k.bytes k.point p bytes = false) ∧ e = .invalidSignature)) ∧
    (∀ (s : Service) (shape : Shape) (m : Message),
      Service.Decoded (s.unmarshal shape m) → s.verify m = .ok ()) ∧
    (∀ (w : World) (svc : Nat) (shape : Shape) (m : Message),
      Service.Decoded (w.unmarshalFor svc shape m) → w.verifies svc m = true) ∧
    (∀ (w w' : World) (svc : Nat) (remote : Remote) (ctx : Context) (path : String)
      (request : Json.Value) (shape : Shape) (patience : Nat) (o : Outcome),
      (w.invoke svc remote ctx path request shape).conclude patience = (w', o) → o.Decoded →
      ∃ w₁ inbox w₀ m,
        w.invoke svc remote ctx path request shape = .waiting w₁ (.call svc inbox ctx shape) ∧
        World.Checked w₁ w₀ ∧ w₀.check (.call svc inbox ctx shape) = some (w', o) ∧
        w₀.takeReply inbox = some (w₀.dropRoute inbox, m) ∧ w₀.verifies svc m = true ∧
        o = Outcome.ofCall (w₀.unmarshalFor svc shape m)) ∧
    (∀ (w w' : World) (i : Nat) (shape : Shape) (patience : Nat) (o : Outcome),
      (w.receive i shape).conclude patience = (w', o) → o.Decoded →
      ∃ w₀ s m, World.Checked w w₀ ∧ w₀.check (.receive i shape) = some (w', o) ∧
        w₀.stream? i = some s ∧ s.channel.head? = some m ∧ w₀.verifies s.svc m = true ∧
        o = Outcome.ofCall (w₀.unmarshalFor s.svc shape m)) ∧
    (∀ (w w' : World) (svc : Nat) (cancelled : Bool) (payload : ByteArray) (subject : Subject)
      (headers : Headers) (shape : Option Shape) (patience : Nat) (o : Outcome),
      (w.request svc cancelled payload subject headers shape).conclude patience = (w', o) →
      o.Decoded →
      ∃ w₁ inbox w₀ sh m,
        w.request svc cancelled payload subject headers shape =
          .waiting w₁ (.reply (some svc) inbox shape) ∧
        World.Checked w₁ w₀ ∧ w₀.check (.reply (some svc) inbox shape) = some (w', o) ∧
        shape = some sh ∧ w₀.takeReply inbox = some (w₀.dropRoute inbox, m) ∧
        w₀.verifies svc m = true ∧ o = Outcome.ofService (w₀.unmarshalFor svc sh m)) :=
  ⟨Identity.verify_eq_ok_iff, Identity.verify_eq_error_iff,
    fun _ _ _ => Service.unmarshal_verified, fun _ _ _ _ => World.unmarshalFor_verifies,
    fun _ _ _ _ _ _ _ _ _ _ => World.invoke_answer_verified,
    fun _ _ _ _ _ _ => World.receive_answer_verified,
    fun _ _ _ _ _ _ _ _ _ _ => World.request_answer_verified⟩

end Runtime

end Courier
