import Courier.Proofs.Agreement
import Courier.Proofs.Footprints

/-!
# Refused calls

A client refuses a call before it reaches the bus. The subject of a method path is found by
checks in a fixed order, and the first that fails gives the refusal (`CallRefusal`,
`subjectFor_eq_error_iff`): the path must be a service and a method name joined by a slash
(`MethodPath`), the service and then the method must be known, the method's tokens must derive,
the method must take its inputs, and the subject must hold no wildcard once its variables are
replaced.

Opening a stream makes no bus interaction at all, and a unary call that is refused, by its
subject or by a context already done, leaves the whole world as it was. Otherwise a unary call
makes at most one request on the bus, while it waits as well: what the ready tasks, the clock
and the checks of a wait do is closed under a small list of effects (`WaitClosed`), none of
which counts a request or a subscription (`refused_calls_make_no_bus_calls`).
-/

namespace Courier.Text

theorem split_append_sep (a b : String) (c : Char) :
    split (a ++ String.singleton c ++ b) c = split a c ++ split b c := by
  have h : (a ++ String.singleton c ++ b).toList = a.toList ++ c :: b.toList := by simp
  rw [split, split, split, h, List.splitOn_append_cons_self, List.map_append]

theorem eq_of_split_eq_pair {s a b : String} {c : Char} (h : split s c = [a, b]) :
    s = a ++ String.singleton c ++ b := by
  have hl : [c].intercalate (s.toList.splitOn c) = s.toList := List.intercalate_splitOn c
  have hmap : s.toList.splitOn c = [a.toList, b.toList] := by
    have := congrArg (List.map String.toList) h
    simpa [split, Function.comp_def] using this
  rw [hmap] at hl
  apply String.toList_inj.mp
  simp [← hl]

end Courier.Text

namespace Courier.DescriptorRegistry

open Text

/-! ## Method paths -/

/-- A method path: a service name and a method name, both nonempty and without a slash, joined
by a slash, with one more slash in front or none. -/
def MethodPath (path svc m : String) : Prop :=
  svc ≠ "" ∧ m ≠ "" ∧ '/' ∉ svc.toList ∧ '/' ∉ m.toList ∧
    (path = "/" ++ svc ++ "/" ++ m ∨ path = svc ++ "/" ++ m)

/-- A path without the one slash it may start with. -/
def unslashed (path : String) : String :=
  if path.startsWith "/" then (path.drop 1).toString else path

theorem unslashed_slash (s : String) : unslashed ("/" ++ s) = s := by
  apply String.toList_inj.mp
  simp [unslashed]

theorem unslashed_of_head {s : String} (h : s.toList.head? ≠ some '/') : unslashed s = s := by
  have hst : s.startsWith "/" = false := by
    rw [String.startsWith_string_eq_false_iff]
    intro hp
    obtain ⟨t, ht⟩ := hp
    exact h (by simp [← ht])
  simp [unslashed, hst]

theorem eq_or_eq_slash_unslashed (path : String) :
    path = unslashed path ∨ path = "/" ++ unslashed path := by
  by_cases hst : path.startsWith "/" = true
  · right
    obtain ⟨t, ht⟩ := String.startsWith_string_iff.mp hst
    apply String.toList_inj.mp
    simp [unslashed, hst, ← ht]
  · left
    simp [unslashed, hst]

/-- A path splits into a service and a method when its unslashed form has exactly these two
nonempty pieces at slashes. -/
theorem splitPath_eq_some_iff_split {path svc m : String} :
    splitPath path = some (svc, m) ↔
      split (unslashed path) '/' = [svc, m] ∧ svc ≠ "" ∧ m ≠ "" := by
  unfold splitPath
  rw [← unslashed]
  dsimp only
  constructor
  · intro h
    split at h
    · rename_i svc' x rest hsplit
      split at h
      · cases h
      · rename_i hcond
        simp only [Bool.or_eq_true, String.isEmpty_iff, decide_eq_true_eq, not_or] at hcond
        obtain ⟨⟨hs, hx⟩, hlen⟩ := hcond
        -- a third piece would have been refused
        obtain rfl : rest = [] := by
          cases rest with
          | nil => rfl
          | cons y ys => simp at hlen
        simp only [String.intercalate_singleton, Option.some.injEq, Prod.mk.injEq] at h
        obtain ⟨rfl, rfl⟩ := h
        exact ⟨hsplit, hs, by simpa using hx⟩
    · cases h
  · rintro ⟨hsplit, hs, hm⟩
    rw [hsplit]
    simp [hs, hm, String.isEmpty_iff]

theorem split_unslashed_iff {path svc m : String} :
    (split (unslashed path) '/' = [svc, m] ∧ svc ≠ "" ∧ m ≠ "") ↔ MethodPath path svc m := by
  have hsep : ("/" : String) = String.singleton '/' := rfl
  constructor
  · rintro ⟨hsplit, hs, hm⟩
    have hsvc : '/' ∉ svc.toList := not_mem_of_mem_split (c := '/') (s := unslashed path)
      (by simp [hsplit])
    have hmeth : '/' ∉ m.toList := not_mem_of_mem_split (c := '/') (s := unslashed path)
      (by simp [hsplit])
    have heq : unslashed path = svc ++ "/" ++ m := eq_of_split_eq_pair hsplit
    refine ⟨hs, hm, hsvc, hmeth, ?_⟩
    rcases eq_or_eq_slash_unslashed path with h | h
    · exact .inr (h.trans heq)
    · exact .inl (by rw [h, heq]; simp only [String.append_assoc])
  · rintro ⟨hs, hm, hsvc, hmeth, hpath⟩
    have hpair : split (svc ++ "/" ++ m) '/' = [svc, m] := by
      rw [hsep, split_append_sep, split_of_not_mem hsvc, split_of_not_mem hmeth]
      rfl
    have hun : unslashed path = svc ++ "/" ++ m := by
      rcases hpath with rfl | rfl
      · rw [show "/" ++ svc ++ "/" ++ m = "/" ++ (svc ++ "/" ++ m) by
          simp only [String.append_assoc], unslashed_slash]
      · -- the service name is not empty and starts with no slash
        apply unslashed_of_head
        obtain ⟨c, cs, hc⟩ := List.exists_cons_of_ne_nil (by simpa using hs : svc.toList ≠ [])
        have hc' : c ≠ '/' := fun h => hsvc (by simp [hc, h])
        simp [hc, hc']
    exact ⟨hun ▸ hpair, hs, hm⟩

theorem splitPath_eq_some_iff {path svc m : String} :
    splitPath path = some (svc, m) ↔ MethodPath path svc m :=
  splitPath_eq_some_iff_split.trans split_unslashed_iff

theorem splitPath_eq_none_iff {path : String} :
    splitPath path = none ↔ ∀ svc m, ¬ MethodPath path svc m := by
  rw [Option.eq_none_iff_forall_not_mem]
  exact ⟨fun h svc m hp => h (svc, m) (splitPath_eq_some_iff.mpr hp),
    fun h ⟨svc, m⟩ hp => h svc m (splitPath_eq_some_iff.mp hp)⟩

end Courier.DescriptorRegistry

namespace Courier

open DescriptorRegistry

/-! ## Refusals of a call -/

theorem Derive.subjectTokens_error {pre : String} {d : ServiceDescriptor} {md : MethodDescriptor}
    {e : RpcError} (h : Derive.subjectTokens pre d md = .error e) :
    ∃ text, e = .invalidSubject text := by
  unfold Derive.subjectTokens at h
  dsimp only at h
  split at h
  · cases h
    exact ⟨_, rfl⟩
  · split at h
    · cases h
      exact ⟨_, rfl⟩
    · cases h

namespace Remote

/-- The subject of a call once its service `d` and method `md` are known. -/
def calledSubject (r : Remote) (d : ServiceDescriptor) (tokens : List String) : Subject :=
  Subject.join (Derive.parametrize tokens (Derive.serviceVars d.fullName r.vars))

/-- Why a remote refuses a call of a path, by the first check the call fails: the shape of the
path, the service, the method, the derivation of the method's tokens, whether the method takes
its inputs, and whether a wildcard is left in the subject. -/
inductive CallRefusal (r : Remote) (path : String) : RpcError → Prop
  | invalidMethod : (∀ svc m, ¬ MethodPath path svc m) → CallRefusal r path (.invalidMethod path)
  | unknownService {svc m : String} : MethodPath path svc m → r.registry.service? svc = none →
      CallRefusal r path (.unknownService svc)
  | unknownMethod {svc m : String} {d : ServiceDescriptor} : MethodPath path svc m →
      r.registry.service? svc = some d → d.method? m = none →
      CallRefusal r path (.unknownMethod svc m)
  | underivable {svc m text : String} {d : ServiceDescriptor} {md : MethodDescriptor} :
      MethodPath path svc m → r.registry.service? svc = some d → d.method? m = some md →
      Derive.subjectTokens r.pre d md = .error (.invalidSubject text) →
      CallRefusal r path (.invalidSubject text)
  | disabled {svc m : String} {d : ServiceDescriptor} {md : MethodDescriptor}
      {tokens : List String} : MethodPath path svc m → r.registry.service? svc = some d →
      d.method? m = some md → Derive.subjectTokens r.pre d md = .ok tokens →
      md.skipInputs = true → CallRefusal r path (.callingDisabled d.fullName md.name)
  | wildcard {svc m : String} {d : ServiceDescriptor} {md : MethodDescriptor}
      {tokens : List String} : MethodPath path svc m → r.registry.service? svc = some d →
      d.method? m = some md → Derive.subjectTokens r.pre d md = .ok tokens →
      md.skipInputs = false → (r.calledSubject d tokens).isWildcard = true →
      CallRefusal r path (.invalidSubject (r.calledSubject d tokens).text)

/-- A remote refuses a call exactly as `CallRefusal` says: by the first check the call fails,
with that check's error. -/
theorem subjectFor_eq_error_iff (r : Remote) (path : String) (e : RpcError) :
    r.subjectFor path = .error e ↔ CallRefusal r path e := by
  constructor
  · intro h
    unfold subjectFor DescriptorRegistry.resolve at h
    cases hpath : splitPath path with
    | none =>
      simp only [hpath, Except.error.injEq] at h
      exact h ▸ .invalidMethod (splitPath_eq_none_iff.mp hpath)
    | some p =>
      obtain ⟨svc, m⟩ := p
      have hmp := splitPath_eq_some_iff.mp hpath
      cases hsvc : r.registry.service? svc with
      | none =>
        simp only [hpath, hsvc, Except.error.injEq] at h
        exact h ▸ .unknownService hmp hsvc
      | some d =>
        cases hmd : d.method? m with
        | none =>
          simp only [hpath, hsvc, hmd, Except.error.injEq] at h
          exact h ▸ .unknownMethod hmp hsvc hmd
        | some md =>
          cases htok : Derive.subjectTokens r.pre d md with
          | error e' =>
            simp only [hpath, hsvc, hmd, htok, Except.error.injEq] at h
            obtain ⟨text, rfl⟩ := Derive.subjectTokens_error htok
            exact h ▸ .underivable hmp hsvc hmd htok
          | ok tokens =>
            simp only [hpath, hsvc, hmd, htok] at h
            -- the method's inputs are checked before the wildcards
            split at h
            · rename_i hskip
              cases h
              exact .disabled hmp hsvc hmd htok hskip
            · rename_i hskip
              split at h
              · rename_i hwild
                cases h
                exact .wildcard hmp hsvc hmd htok (by simpa using hskip) hwild
              · cases h
  · intro h
    -- a method path fixes the service and method names the lookups use
    have hsplit : ∀ {svc m}, MethodPath path svc m → splitPath path = some (svc, m) :=
      splitPath_eq_some_iff.mpr
    cases h with
    | invalidMethod hnone => simp [subjectFor, DescriptorRegistry.resolve,
        splitPath_eq_none_iff.mpr hnone]
    | unknownService hmp hsvc => simp [subjectFor, DescriptorRegistry.resolve, hsplit hmp, hsvc]
    | unknownMethod hmp hsvc hmd =>
      simp [subjectFor, DescriptorRegistry.resolve, hsplit hmp, hsvc, hmd]
    | underivable hmp hsvc hmd htok =>
      simp [subjectFor, DescriptorRegistry.resolve, hsplit hmp, hsvc, hmd, htok]
    | disabled hmp hsvc hmd htok hskip =>
      simp [subjectFor, DescriptorRegistry.resolve, hsplit hmp, hsvc, hmd, htok, hskip]
    | wildcard hmp hsvc hmd htok hskip hwild =>
      simp only [calledSubject] at hwild
      simp [subjectFor, DescriptorRegistry.resolve, hsplit hmp, hsvc, hmd, htok, hskip, hwild,
        calledSubject]

end Remote

end Courier

namespace Courier.Bus.Table

variable {α : Type}

/-! ## What the bus counts -/

@[simp]
theorem deliver_stats (b : Table α) (m : Message) : (b.deliver m).1.stats = b.stats := by
  have key : ∀ (ids : List Nat) (b : Table α),
      (ids.foldl (fun b id => b.modify id fun r => { r with channel := r.channel ++ [m] }) b).stats =
        b.stats := by
    intro ids
    induction ids with
    | nil => intro b; rfl
    | cons id ids ih => intro b; rw [List.foldl_cons, ih]; rfl
  simp only [deliver]
  rw [key, targets_eq]

@[simp]
theorem remove_stats (b : Table α) (id : Nat) : (b.remove id).1.stats = b.stats := by
  unfold remove
  split <;> rfl

theorem unsubscribe_stats (b : Table α) (id : Nat) :
    (b.unsubscribe id).stats.requests = b.stats.requests ∧
      (b.unsubscribe id).stats.subscribed = b.stats.subscribed := by
  unfold unsubscribe
  dsimp only
  split <;> simp

end Courier.Bus.Table

namespace Courier.Runtime

open Bus Bus.Table

/-! ## What a wait is made of -/

namespace World

/-- A relation between worlds closed under every effect of a wait: the effects of handlers, an
unsubscription, giving up a request's inbox, and changes to runners, streams, the ready tasks,
the clock and the registrar. -/
structure WaitClosed (R : World → World → Prop) : Prop extends HandlerClosed R where
  unsubscribe : ∀ (w : World) (id : Nat), R w (w.unsubscribeRoute id)
  dropRoute : ∀ (w : World) (id : Nat), R w (w.dropRoute id)
  runner : ∀ (w : World) (svc : Nat) (f : Runner → Runner), R w (w.modifyRunner svc f)
  stream : ∀ (w : World) (i : Nat) (f : CallStream → CallStream), R w (w.modifyStream i f)
  wake : ∀ (w : World) (t : Task), R w (w.wake t)
  ready : ∀ (w : World) (rest : List Task), R w { w with ready := rest }
  clock : ∀ (w : World) (t : Nat), R w { w with now := t }
  registrar : ∀ (w : World) (g : Option Registrar), R w { w with registrar := g }

namespace WaitClosed

variable {R : World → World → Prop}

theorem foldl (hR : WaitClosed R) {β : Type} {f : World → β → World} (hf : ∀ w b, R w (f w b)) :
    ∀ (l : List β) (w : World), R w (l.foldl f w)
  | [], w => hR.refl w
  | b :: l, w => hR.trans (hf w b) (foldl hR hf l (f w b))

theorem report (hR : WaitClosed R) (w : World) (svc : Nat) : R w (w.report svc) := by
  unfold World.report
  split
  · exact hR.refl w
  · exact hR.trans (hR.runner _ _ _)
      (hR.toHandlerClosed.attempt fun _ => hR.toHandlerClosed.publishNow)

theorem stopLoop (hR : WaitClosed R) (w : World) (svc : Nat) : R w (w.stopLoop svc) := by
  unfold World.stopLoop
  split
  · exact hR.refl w
  · refine hR.trans ?_ (hR.runner _ _ _)
    split
    · exact hR.unsubscribe _ _
    · exact hR.refl w

theorem pollLoop (hR : WaitClosed R) (w : World) (svc fuel : Nat) : R w (w.pollLoop svc fuel) := by
  induction fuel generalizing w with
  | zero => exact hR.refl w
  | succ fuel ih =>
    unfold World.pollLoop
    split
    · exact hR.refl w
    · split
      · split
        · exact hR.stopLoop w svc
        · split
          · -- the oldest queued envelope goes to the bus
            exact hR.trans (hR.runner _ _ _) (hR.trans
              (hR.toHandlerClosed.attempt fun _ => hR.toHandlerClosed.publishNow) (ih _))
          · split
            · exact hR.trans (hR.runner _ _ _) (hR.trans (hR.report _ _) (ih _))
            · exact hR.refl w
      · exact hR.refl w

theorem pollWatcher (hR : WaitClosed R) (w : World) : R w w.pollWatcher := by
  unfold World.pollWatcher
  split
  · split
    · exact hR.trans (hR.foldl (fun w id => hR.unsubscribe w id) _ w) (hR.registrar _ _)
    · exact hR.refl w
  · exact hR.refl w

theorem poll (hR : WaitClosed R) (w : World) (t : Task) : R w (w.poll t) := by
  cases t with
  | route id => exact hR.toHandlerClosed.pollRoute w id
  | loop svc => exact hR.pollLoop w svc _
  | watcher => exact hR.pollWatcher w
  | release id => exact hR.unsubscribe w id

theorem fire (hR : WaitClosed R) (w : World) (t : Nat) : R w (w.fire t) := by
  unfold World.fire
  refine hR.trans (hR.foldl (fun w i => ?_) _ w) (hR.foldl (fun w nap => ?_) _ _)
  · split
    · split
      · split
        · exact hR.wake _ _
        · exact hR.refl w
      · exact hR.refl w
    · exact hR.refl w
  · split
    · exact hR.wake _ _
    · exact hR.refl w

theorem countReply (hR : WaitClosed R) (w : World) (svc : Nat) (m : Message) :
    R w (w.countReply svc m) := by
  unfold World.countReply
  split
  · exact hR.count _ _ _ _
  · exact hR.refl w

theorem offer (hR : WaitClosed R) {w w' : World} {svc : Nat} {m : Message} {o : Outcome}
    (h : w.offer svc m = some (w', o)) : R w w' := by
  unfold World.offer at h
  split at h
  · cases h
    exact hR.refl w
  · split at h
    · cases h
      exact hR.refl w
    · split at h
      · cases h
        exact hR.refl w
      · split at h
        · -- the envelope joins the queue, and a running loop is woken
          cases h
          split
          · exact hR.trans (hR.runner _ _ _) (hR.wake _ _)
          · exact hR.runner _ _ _
        · cases h

/-- A check that ends a wait takes a reply out of its inbox, counts it, or takes a message out
of a stream's channel. -/
theorem check (hR : WaitClosed R) {w w' : World} {wait : Wait} {o : Outcome}
    (h : w.check wait = some (w', o)) : R w w' := by
  cases wait with
  | sleep t =>
    simp only [World.check] at h
    split at h
    · cases h
      exact hR.refl w
    · cases h
  | reply svc inbox shape =>
    simp only [World.check] at h
    obtain ⟨⟨w₁, m⟩, ht, hr⟩ := Option.map_eq_some_iff.mp h
    obtain rfl := takeReply_fst ht
    have hdrop := hR.dropRoute w inbox
    cases svc with
    | none =>
      cases hr
      exact hdrop
    | some s =>
      have hcount := hR.trans hdrop (hR.countReply _ s m)
      cases shape with
      | none =>
        cases hr
        exact hcount
      | some sh =>
        simp only at hr
        split at hr <;> (cases hr; exact hcount)
  | call svc inbox ctx shape =>
    simp only [World.check] at h
    split at h
    · cases h
      exact hR.dropRoute w inbox
    · obtain ⟨⟨w₁, m⟩, ht, hr⟩ := Option.map_eq_some_iff.mp h
      obtain rfl := takeReply_fst ht
      have hcount := hR.trans (hR.dropRoute w inbox) (hR.countReply _ svc m)
      simp only at hr
      split at hr <;> (cases hr; exact hcount)
  | room svc m => exact hR.offer h
  | receive i shape =>
    simp only [World.check] at h
    split at h
    · cases h
      exact hR.refl w
    · split at h
      · cases h
        exact hR.refl w
      · split at h
        · cases h
          exact hR.refl w
        · split at h
          · cases h
          · split at h <;> (cases h; exact hR.stream _ _ _)
  | finish svc =>
    simp only [World.check] at h
    split at h
    · split at h
      · cases h
      · cases h
        exact hR.refl w
    · cases h
      exact hR.refl w

theorem abandon (hR : WaitClosed R) (w : World) (wait : Wait) : R w (w.abandon wait) := by
  cases wait with
  | reply svc inbox shape => exact hR.dropRoute w inbox
  | call svc inbox ctx shape => exact hR.dropRoute w inbox
  | _ => exact hR.refl w

theorem conclude (hR : WaitClosed R) (w : World) (wait : Wait) (patience : Nat) :
    R w ((Progress.waiting w wait).conclude patience).1 :=
  conclude_induction (R w) wait
    (fun _ t rest hw _ => hR.trans hw (hR.trans (hR.ready _ rest) (hR.poll _ t)))
    (fun _ t hw => hR.trans hw (hR.trans (hR.clock _ t) (hR.fire _ t)))
    (fun _ _ _ hw hc => hR.trans hw (hR.check hc))
    (fun _ hw => hR.trans hw (hR.abandon _ wait)) (hR.refl w) patience

end WaitClosed

end World

/-! ## Requests and subscriptions the bus counts -/

namespace World

/-- Between two worlds the bus counts no new request and no new subscription. -/
structure Uncalled (w w' : World) : Prop where
  requests : w'.bus.stats.requests = w.bus.stats.requests
  subscribed : w'.bus.stats.subscribed = w.bus.stats.subscribed

theorem Uncalled.of_bus {w w' : World} (h : w'.bus = w.bus) : Uncalled w w' :=
  ⟨by rw [h], by rw [h]⟩

theorem publish_stats {w w' : World} {m : Message} (h : w.publish m = .ok w') :
    Uncalled w w' := by
  unfold World.publish Table.publish at h
  cases hp : publishable m.subject with
  | error e => simp [hp, Except.map] at h
  | ok u =>
    simp only [hp, Except.map, Except.ok.injEq] at h
    subst h
    exact ⟨by simp [wakeRoutes_bus], by simp [wakeRoutes_bus]⟩

theorem waitClosed_uncalled : WaitClosed Uncalled where
  refl _ := ⟨rfl, rfl⟩
  trans h₁ h₂ := ⟨h₂.requests.trans h₁.requests, h₂.subscribed.trans h₁.subscribed⟩
  publish := publish_stats
  count _ _ _ _ := Uncalled.of_bus rfl
  note _ _ _ := Uncalled.of_bus rfl
  listen _ _ _ := Uncalled.of_bus rfl
  nap _ _ := Uncalled.of_bus rfl
  reply _ _ _ := Uncalled.of_bus rfl
  take _ _ _ := ⟨rfl, rfl⟩
  wakeUp _ _ := Uncalled.of_bus rfl
  unsubscribe w id := ⟨(Table.unsubscribe_stats w.bus id).1, (Table.unsubscribe_stats w.bus id).2⟩
  dropRoute w id := ⟨by simp [dropRoute], by simp [dropRoute]⟩
  runner _ _ _ := Uncalled.of_bus rfl
  stream _ _ _ := Uncalled.of_bus rfl
  wake w t := Uncalled.of_bus (wake_bus w t)
  ready _ _ := Uncalled.of_bus rfl
  clock _ _ := Uncalled.of_bus rfl
  registrar _ _ := Uncalled.of_bus rfl

/-- A request counts at most one request on the bus, and no subscription: its inbox is not a
subscription. -/
theorem openRequest_stats (w : World) (m : Message) :
    (w.openRequest m).1.bus.stats.requests ≤ w.bus.stats.requests + 1 ∧
      (w.openRequest m).1.bus.stats.subscribed = w.bus.stats.subscribed := by
  unfold openRequest
  split
  · exact ⟨Nat.le_succ _, rfl⟩
  · -- the request is counted, then its fresh inbox is added and the request delivered
    dsimp only
    generalize hfi : World.freshInbox _ = fi
    obtain ⟨w₂, inbox⟩ := fi
    have hw₂ : w₂.bus = w.bus.countRequest := by rw [← congrArg (·.1.bus) hfi]; rfl
    dsimp only
    split
    · simp [hw₂, Table.countRequest]
    · rename_i bus id hadd
      obtain ⟨rfl, rfl⟩ := add_ok hadd
      generalize hd : World.deliver _ _ = d
      obtain ⟨w₃, ids⟩ := d
      have hw₃ : w₃.bus.stats = w.bus.countRequest.stats := by
        rw [← congrArg (·.1.bus.stats) hd, deliver_fst_bus, Table.deliver_stats, hw₂]
      dsimp only
      split <;> simp [hw₃, Table.countRequest, dropRoute]

end World

/-! ## Calls -/

namespace World

variable (w : World) (svc : Nat) (remote : Remote) (path : String)

theorem invoke_of_subjectFor_error {e : RpcError} (h : remote.subjectFor path = .error e)
    (ctx : Context) (request : Json.Value) (shape : Shape) :
    w.invoke svc remote ctx path request shape = .finished w (.callFailure e) := by
  simp [invoke, h]

theorem invoke_of_err {s : Subject} (hs : remote.subjectFor path = .ok s) {ctx : Context}
    {e : RpcError} (hc : ctx.err w.tokens w.now = some e) (request : Json.Value) (shape : Shape) :
    w.invoke svc remote ctx path request shape = .finished w (.callFailure e) := by
  simp [invoke, hs, hc]

/-- A call, with the wait for its reply, counts at most one request and no subscription. -/
theorem invoke_stats (ctx : Context) (request : Json.Value) (shape : Shape) (patience : Nat) :
    let w' := ((w.invoke svc remote ctx path request shape).conclude patience).1
    w'.bus.stats.requests ≤ w.bus.stats.requests + 1 ∧
      w'.bus.stats.subscribed = w.bus.stats.subscribed := by
  intro w'
  unfold w' invoke
  cases hs : remote.subjectFor path with
  | error e => simp [Progress.conclude]
  | ok subject =>
    cases hc : ctx.err w.tokens w.now with
    | some e => simp [Progress.conclude]
    | none =>
      simp only
      split
      · simp [Progress.conclude]
      · -- the request is counted out for the service, then sent
        have hsent := openRequest_stats
          (w.count svc false (w.envelope svc subject none (w.encodeFor svc request) ctx.headers).size)
          (w.envelope svc subject none (w.encodeFor svc request) ctx.headers)
        rw [count_bus] at hsent
        generalize World.openRequest _ _ = q at hsent ⊢
        obtain ⟨w₁, r⟩ := q
        cases r with
        | error e => simpa [Progress.conclude] using hsent
        | ok inbox =>
          have hwait := waitClosed_uncalled.conclude w₁ (.call svc inbox ctx shape) patience
          exact ⟨hwait.requests ▸ hsent.1, hwait.subscribed ▸ hsent.2⟩

theorem openStream_bus {parent : Context} {w' : World} {i : Nat}
    (h : w.openStream svc remote parent path = .ok (w', i)) : w'.bus = w.bus := by
  unfold openStream at h
  split at h
  · cases h
  · cases h
    rfl

theorem openStream_eq_error_iff (parent : Context) (e : RpcError) :
    w.openStream svc remote parent path = .error e ↔ remote.subjectFor path = .error e := by
  unfold openStream
  split <;> simp_all

/-- Calls are refused before the bus: the subject of a method path is refused by the first check
it fails (`CallRefusal`); opening a stream fails exactly when the subject is refused and makes no
bus interaction either way; a unary call whose subject is refused, or whose context is already
done, fails with that error and leaves the world as it was; and any unary call, with its wait,
makes at most one request on the bus and no subscription. Encoding a request cannot fail. -/
theorem refused_calls_make_no_bus_calls (remote : Remote) (path : String) :
    (∀ e, remote.subjectFor path = .error e ↔ Remote.CallRefusal remote path e) ∧
    (∀ (w : World) (svc : Nat) (parent : Context) (e : RpcError),
      w.openStream svc remote parent path = .error e ↔ remote.subjectFor path = .error e) ∧
    (∀ (w w' : World) (svc i : Nat) (parent : Context),
      w.openStream svc remote parent path = .ok (w', i) → w'.bus = w.bus) ∧
    (∀ (w : World) (svc : Nat) (ctx : Context) (request : Json.Value) (shape : Shape)
      (e : RpcError),
      (remote.subjectFor path = .error e ∨
        (∃ s, remote.subjectFor path = .ok s) ∧ ctx.err w.tokens w.now = some e) →
      w.invoke svc remote ctx path request shape = .finished w (.callFailure e)) ∧
    (∀ (w : World) (svc : Nat) (ctx : Context) (request : Json.Value) (shape : Shape)
      (patience : Nat),
      let w' := ((w.invoke svc remote ctx path request shape).conclude patience).1
      w'.bus.stats.requests ≤ w.bus.stats.requests + 1 ∧
        w'.bus.stats.subscribed = w.bus.stats.subscribed) := by
  refine ⟨Remote.subjectFor_eq_error_iff remote path,
    fun w svc parent e => openStream_eq_error_iff w svc remote path parent e,
    fun w _ svc _ _ h => openStream_bus w svc remote path h, ?_,
    fun w svc ctx request shape patience => invoke_stats w svc remote path ctx request shape patience⟩
  intro w svc ctx request shape e h
  rcases h with h | ⟨⟨s, hs⟩, hc⟩
  · exact invoke_of_subjectFor_error w svc remote path h ctx request shape
  · exact invoke_of_err w svc remote path hs hc request shape

end World

end Courier.Runtime
