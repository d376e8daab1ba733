import Courier.Proofs.Routing
import Courier.Proofs.Tokens
import Courier.Runtime.Services

/-!
# Handing messages to handlers

A route's task takes the messages of its channel from the front, one at a time, and hands each
to the route's handler. No handler takes a message out of any channel: whatever it does to the
bus (answers and echoes) only adds messages at the end of channels (`handle_grows`).
So a route's waiting messages are handed over in the order they were routed to it: for a
script's subscription, what it has recorded followed by what waits for it only ever grows at
the end (`drain_seen`).

A request goes to its subject's targets with a fresh inbox as its reply subject; it fails with
no responders exactly when it reaches no route (`openRequest_spec`). The inbox keeps the first
message that reaches it and ignores the later ones (`drain_inbox_first`).

`RoutesExactly` gathers what the bus does with one message, and `memory_bus_routes_exactly`
proves it of every well-formed bus and every valid subject without wildcards.
-/

namespace Courier.Runtime

namespace World

open Bus Bus.Table

/-! ## Steps that leave the bus alone -/

@[simp]
theorem wake_bus (w : World) (t : Task) : (w.wake t).bus = w.bus := by
  unfold wake
  split <;> rfl

@[simp]
theorem wakeRoutes_bus (w : World) (ids : List Nat) : (w.wakeRoutes ids).bus = w.bus := by
  induction ids generalizing w with
  | nil => rfl
  | cons id ids ih => simp only [wakeRoutes, List.foldl_cons] at ih ⊢; rw [ih, wake_bus]

@[simp]
theorem wake_subs (w : World) (t : Task) : (w.wake t).subs = w.subs := by
  unfold wake
  split <;> rfl

@[simp]
theorem wakeRoutes_subs (w : World) (ids : List Nat) : (w.wakeRoutes ids).subs = w.subs := by
  induction ids generalizing w with
  | nil => rfl
  | cons id ids ih => simp only [wakeRoutes, List.foldl_cons] at ih ⊢; rw [ih, wake_subs]

@[simp]
theorem modifyRunner_bus (w : World) (svc : Nat) (f : Runner → Runner) :
    (w.modifyRunner svc f).bus = w.bus := rfl

@[simp]
theorem modifyStream_bus (w : World) (i : Nat) (f : CallStream → CallStream) :
    (w.modifyStream i f).bus = w.bus := rfl

@[simp]
theorem count_bus (w : World) (svc : Nat) (inbound : Bool) (bytes : Nat) :
    (w.count svc inbound bytes).bus = w.bus := rfl

@[simp]
theorem note_bus (w : World) (sub : Nat) (r : Receipt) : (w.note sub r).bus = w.bus := rfl

theorem deliver_fst_bus (w : World) (m : Message) : (w.deliver m).1.bus = (w.bus.deliver m).1 := by
  simp [World.deliver]

theorem deliver_snd (w : World) (m : Message) : (w.deliver m).2 = (w.bus.targets m.subject).2 :=
  rfl

/-! ## Handlers only add to channels -/

theorem publish_grows {w w' : World} {m : Message} (h : w.publish m = .ok w') :
    Grows w.bus w'.bus := by
  unfold World.publish at h
  split at h
  · cases h
  · rename_i bus ids hp
    cases h
    simpa using grows_publish hp

theorem publishNow_grows {w w' : World} {svc : Nat} {m : Message}
    (h : w.publishNow svc m = .ok w') : Grows w.bus w'.bus := by
  unfold publishNow at h
  split at h
  · cases h
  · rename_i w₁ hp
    cases h
    simpa using publish_grows hp

theorem respondWith_grows {w w' : World} {svc : Nat} {d : Message} {p : ByteArray} {hs : Headers}
    (h : w.respondWith svc d p hs = .ok w') : Grows w.bus w'.bus := by
  unfold respondWith at h
  split at h
  · cases h
  · exact publishNow_grows h

theorem respond_grows {w w' : World} {svc : Nat} {d : Message} {v : Json.Value}
    (h : w.respond svc d v = .ok w') : Grows w.bus w'.bus :=
  respondWith_grows h

theorem respondError_grows {w w' : World} {svc : Nat} {d : Message} {text : String}
    (h : w.respondError svc d text = .ok w') : Grows w.bus w'.bus :=
  respondWith_grows h

theorem attempt_grows {w : World} {r : Except ServiceError World}
    (h : ∀ w', r = .ok w' → Grows w.bus w'.bus) : Grows w.bus (w.attempt r).bus := by
  unfold attempt
  split
  · exact h _ rfl
  · exact Grows.refl _

theorem sendAll_grows {w w' : World} {svc : Nat} {d : Message} {hs : Headers} {vs : List Json.Value}
    (h : w.sendAll svc d hs vs = .ok w') : Grows w.bus w'.bus := by
  induction vs generalizing w with
  | nil => cases h; exact Grows.refl _
  | cons v vs ih =>
    unfold sendAll at h
    split at h
    · rename_i w₁ h₁
      exact (respondWith_grows h₁).trans (ih h)
    · cases h

theorem endStream_grows {w : World} {svc : Nat} {d : Message} {label : String}
    {r : Except String World} (h : ∀ w', r = .ok w' → Grows w.bus w'.bus) :
    Grows w.bus (w.endStream svc d label r).bus := by
  unfold endStream
  split
  · exact h _ rfl
  · split
    · exact attempt_grows fun _ => respondError_grows
    · exact Grows.refl _

theorem mapError_eq_ok {ε ε' β : Type} {f : ε → ε'} {r : Except ε β} {b : β}
    (h : r.mapError f = .ok b) : r = .ok b := by
  cases r <;> simp_all [Except.mapError]

theorem serveUnary_grows (w : World) (route svc : Nat) (m : Message) (label : String)
    (slow : Bool) : Grows w.bus (w.serveUnary route svc m label slow).1.bus := by
  unfold serveUnary
  split
  · exact attempt_grows fun _ => respondError_grows
  · split
    · exact Grows.refl _
    · split
      · exact attempt_grows fun _ => respondError_grows
      · exact attempt_grows fun _ => respond_grows

theorem serveStream_grows (w : World) (svc : Nat) (m : Message) (label : String)
    (style : StreamStyle) : Grows w.bus (w.serveStream svc m label style).bus := by
  unfold serveStream
  apply endStream_grows
  intro w' h
  split at h
  · cases h
  · split at h
    · exact sendAll_grows (mapError_eq_ok h)
    · exact sendAll_grows (mapError_eq_ok h)
    · split at h
      · cases h
      · exact sendAll_grows (mapError_eq_ok h)

theorem serveBidi_grows (w : World) (svc : Nat) (m : Message) (label : String) :
    Grows w.bus (w.serveBidi svc m label).bus := by
  unfold serveBidi
  apply endStream_grows
  intro w' h
  split at h
  · cases h
  · exact sendAll_grows (mapError_eq_ok h)

theorem perform_grows (w : World) (route svc : Nat) (m : Message) (duty : Duty) :
    Grows w.bus (w.perform route svc m duty).1.bus := by
  cases duty with
  | note sub shape answer failWith =>
    -- the answer, if any, is the only thing that reaches the bus
    cases answer with
    | some v =>
      cases hr : w.respond svc m v with
      | ok w₁ => simpa [perform, hr] using respond_grows hr
      | error e => simp [perform, hr]
    | none =>
      cases failWith with
      | some t =>
        cases hr : w.respondError svc m t with
        | ok w₁ => simpa [perform, hr] using respondError_grows hr
        | error e => simp [perform, hr]
      | none => simp [perform]
  | sum =>
    simp only [perform]
    split
    · exact attempt_grows fun _ => respond_grows
    · exact attempt_grows fun _ => respondError_grows
  | ping =>
    simp only [perform]
    split
    · exact attempt_grows fun _ => respond_grows
    · exact Grows.refl _
  | listen i =>
    simp only [perform]
    split
    · split <;> exact Grows.refl _
    · exact Grows.refl _
  | unary label slow => exact serveUnary_grows w route svc m label slow
  | serverStream label style => exact serveStream_grows w svc m label style
  | bidi label => exact serveBidi_grows w svc m label

theorem echo_grows (w : World) (m : Message) : Grows w.bus (w.echo m).bus := by
  unfold echo
  split
  · split
    · exact publish_grows ‹_›
    · exact Grows.refl _
  · exact Grows.refl _

/-- No handler takes a message out of a channel or changes a route otherwise. -/
theorem handle_grows (w : World) (route : Nat) (m : Message) (h : Handler) :
    Grows w.bus (w.handle route m h).1.bus := by
  cases h with
  | note sub echo =>
    cases echo
    · simp [handle]
    · simpa [handle] using echo_grows (w.note sub (.raw m)) m
  | inbox =>
    simp only [handle]
    split <;> exact Grows.refl _
  | service svc duty =>
    simp only [handle]
    have hcount : (if w.verifies svc m then w.count svc true m.size else w).bus = w.bus := by
      split <;> rfl
    exact hcount ▸ perform_grows _ route svc m duty

/-! ## A route's task -/

theorem route?_pop {w : World} {id : Nat} {r : Bus.Route Handler} (hr : w.bus.route? id = some r)
    (rest : List Message) :
    ({ w with bus := w.bus.modify id fun r => { r with channel := rest } } : World).bus.route? id =
      some { r with channel := rest } := by
  show (w.bus.modify id _).route? id = _
  rw [@route?_modify_self _ w.bus id (fun r => { r with channel := rest }) fun _ => rfl, hr]
  rfl

/-- A turn of a route's task: the oldest waiting message goes to the handler, and the task goes
on unless the handler fell asleep. -/
theorem drain_cons {w : World} {id : Nat} {r : Bus.Route Handler} {m : Message}
    {rest : List Message} (hr : w.bus.route? id = some r) (hlive : r.live = true)
    (hch : r.channel = m :: rest) (fuel : Nat) :
    w.drain id (fuel + 1) =
      let turn := ({ w with bus := w.bus.modify id fun r => { r with channel := rest } } : World).handle
        id m r.handler
      if turn.2 then turn.1 else turn.1.drain id fuel := by
  simp only [drain, hr, hlive, hch, Bool.not_true, Bool.false_eq_true, if_false]

/-- While the handler has a message taken out of a route's channel, the messages left there stay,
in order, ahead of whatever the handler routes back to the same route. -/
theorem turn_keeps_rest {w : World} (hb : w.bus.WellFormed) {id : Nat} {r : Bus.Route Handler}
    (hr : w.bus.route? id = some r) (m : Message) (rest : List Message) :
    ∃ more, (({ w with bus := w.bus.modify id fun r => { r with channel := rest } } : World).handle
      id m r.handler).1.bus.route? id = some { r with channel := rest ++ more } := by
  have hb₁ : (w.bus.modify id fun r => { r with channel := rest }).WellFormed :=
    hb.modify id fun _ => rfl
  obtain ⟨more, hmore⟩ := (handle_grows _ id m r.handler).route? hb₁ (route?_pop hr rest)
  exact ⟨more, hmore⟩

theorem turn_wellFormed {w : World} (hb : w.bus.WellFormed) (id : Nat) (m : Message)
    (rest : List Message) (h : Handler) :
    (({ w with bus := w.bus.modify id fun r => { r with channel := rest } } : World).handle
      id m h).1.bus.WellFormed :=
  (handle_grows _ id m h).wellFormed (hb.modify id fun _ => rfl)

/-- What every turn of a route keeps, the route's whole task keeps. -/
theorem drain_induction (P : World → Prop) (id : Nat)
    (hturn : ∀ w r m rest, P w → w.bus.route? id = some r → r.live = true →
      r.channel = m :: rest →
      P (({ w with bus := w.bus.modify id fun r => { r with channel := rest } } : World).handle
        id m r.handler).1)
    {w : World} (hw : P w) (fuel : Nat) : P (w.drain id fuel) := by
  induction fuel generalizing w with
  | zero => exact hw
  | succ fuel ih =>
    cases hr : w.bus.route? id with
    | none => simpa [drain, hr] using hw
    | some r =>
      cases hlive : r.live with
      | false => simpa [drain, hr, hlive] using hw
      | true =>
        cases hch : r.channel with
        | nil => simpa [drain, hr, hlive, hch] using hw
        | cons m rest =>
          rw [drain_cons hr hlive hch]
          have hnext := hturn w r m rest hw hr hlive hch
          -- the task stops when the handler falls asleep and goes on otherwise
          dsimp only
          split
          · exact hnext
          · exact ih hnext

/-! ## Script subscriptions record in routing order -/

theorem publish_subs {w w' : World} {m : Message} (h : w.publish m = .ok w') : w'.subs = w.subs := by
  unfold World.publish at h
  split at h
  · cases h
  · cases h
    simp

theorem echo_subs (w : World) (m : Message) : (w.echo m).subs = w.subs := by
  unfold echo
  split
  · split
    · exact publish_subs ‹_›
    · rfl
  · rfl

/-- What a script's subscription has seen on its route: the messages it has recorded, then those
waiting in the route's channel. -/
def seen (w : World) (sub id : Nat) : List Message :=
  ((w.subs[sub]?).map fun s => s.receipts.toList.map Receipt.message).getD [] ++
    ((w.bus.route? id).map (·.channel)).getD []

/-- A turn of a subscription's route moves the oldest waiting message to the end of what the
subscription recorded; anything its echo routes back waits behind the rest. -/
theorem seen_turn {w : World} (hb : w.bus.WellFormed) {id sub : Nat} {echo : Bool}
    {r : Bus.Route Handler} (hr : w.bus.route? id = some r) (hh : r.handler = .note sub echo)
    {m : Message} {rest : List Message} (hch : r.channel = m :: rest) (hsub : sub < w.subs.size) :
    let turn := ({ w with bus := w.bus.modify id fun r => { r with channel := rest } } : World).handle
      id m r.handler
    turn.1.subs.size = w.subs.size ∧ ∃ more,
      turn.1.bus.route? id = some { r with channel := rest ++ more } ∧
      seen turn.1 sub id = seen w sub id ++ more := by
  intro turn
  obtain ⟨more, hmore⟩ : ∃ more, turn.1.bus.route? id = some { r with channel := rest ++ more } :=
    turn_keeps_rest hb hr m rest
  -- the note is the only change to the subscriptions; the echo leaves them alone
  have hsubs : turn.1.subs = w.subs.modify sub fun s => { s with receipts := s.receipts.push (.raw m) } := by
    simp only [turn, hh, handle]
    cases echo
    · rfl
    · exact echo_subs _ m
  obtain ⟨s, hs⟩ : ∃ s, w.subs[sub]? = some s := ⟨_, Array.getElem?_eq_getElem hsub⟩
  refine ⟨by simp [hsubs], more, hmore, ?_⟩
  simp only [seen, hmore, hr, hch, hsubs, Array.getElem?_modify, hs, if_true, Option.map_some,
    Option.getD_some, Array.toList_push, List.map_append, List.map_cons, List.map_nil]
  simp [Receipt.message]

/-- Draining a script subscription's route only ever adds to the end of what the subscription has
seen: messages are recorded one by one, in the order they were routed to it. -/
theorem drain_seen {w : World} (hb : w.bus.WellFormed) {id sub : Nat} {echo : Bool}
    {r : Bus.Route Handler} (hr : w.bus.route? id = some r) (hh : r.handler = .note sub echo)
    (hsub : sub < w.subs.size) (fuel : Nat) :
    ∃ more, seen (w.drain id fuel) sub id = seen w sub id ++ more := by
  -- the invariant: the route is still the subscription's, and what it has seen has only grown
  let Inv (w' : World) : Prop := w'.bus.WellFormed ∧
    (∃ r, w'.bus.route? id = some r ∧ r.handler = .note sub echo) ∧ sub < w'.subs.size ∧
    ∃ more, seen w' sub id = seen w sub id ++ more
  have hstep : ∀ w' r' m rest, Inv w' → w'.bus.route? id = some r' → r'.live = true →
      r'.channel = m :: rest →
      Inv (({ w' with bus := w'.bus.modify id fun r => { r with channel := rest } } : World).handle
        id m r'.handler).1 := by
    rintro w' r' m rest ⟨hb', ⟨r'', hr'', hh''⟩, hsub', more, hmore⟩ hr' - hch
    cases hr'.symm.trans hr''
    obtain ⟨hsize, more', hroute, hseen⟩ := seen_turn hb' hr' hh'' hch hsub'
    exact ⟨turn_wellFormed hb' id m rest _, ⟨_, hroute, hh''⟩, hsize ▸ hsub', more ++ more',
      by rw [hseen, hmore, List.append_assoc]⟩
  exact (drain_induction Inv id hstep ⟨hb, ⟨r, hr, hh⟩, hsub, [], by simp⟩ fuel).2.2.2

/-! ## Request inboxes keep the first reply -/

theorem drain_inbox_keeps {w : World} {id : Nat} {r : Bus.Route Handler}
    (hr : w.bus.route? id = some r) (hh : r.handler = .inbox) {p : Nat × Message}
    (hkept : w.replies.find? (·.1 == id) = some p) (fuel : Nat) :
    (w.drain id fuel).replies.find? (·.1 == id) = some p := by
  -- the invariant: the route is still an inbox, and its reply is kept
  let Inv (w' : World) : Prop := (∃ r, w'.bus.route? id = some r ∧ r.handler = .inbox) ∧
    w'.replies.find? (·.1 == id) = some p
  have hstep : ∀ w' r' m rest, Inv w' → w'.bus.route? id = some r' → r'.live = true →
      r'.channel = m :: rest →
      Inv (({ w' with bus := w'.bus.modify id fun r => { r with channel := rest } } : World).handle
        id m r'.handler).1 := by
    rintro w' r' m rest ⟨⟨r'', hr'', hh''⟩, hkept'⟩ hr' - -
    cases hr'.symm.trans hr''
    -- an inbox that has a reply ignores the message
    have hany : (w'.replies.any fun x => x.1 == id) = true := by
      have hp := List.find?_some hkept'
      rw [List.any_eq_true]
      exact ⟨p, List.mem_of_find?_eq_some hkept', hp⟩
    simp only [hh'', handle, hany, if_true]
    exact ⟨⟨_, route?_pop hr' rest, hh''⟩, hkept'⟩
  exact (drain_induction Inv id hstep ⟨⟨r, hr, hh⟩, hkept⟩ fuel).2

theorem takeReply_snd (w : World) (id : Nat) :
    (w.takeReply id).map Prod.snd = (w.replies.find? (·.1 == id)).map Prod.snd := by
  unfold takeReply
  cases w.replies.find? (·.1 == id) <;> rfl

/-- An inbox without a reply keeps the first message waiting for it, whatever comes after. -/
theorem drain_inbox_first {w : World} {id : Nat} {r : Bus.Route Handler}
    (hr : w.bus.route? id = some r) (hh : r.handler = .inbox) (hlive : r.live = true)
    {m : Message} {rest : List Message} (hch : r.channel = m :: rest)
    (hnone : w.replies.find? (·.1 == id) = none) (fuel : Nat) :
    (w.drain id (fuel + 1)).replies.find? (·.1 == id) = some (id, m) := by
  have hany : (w.replies.any fun x => x.1 == id) = false := by
    simpa [List.find?_eq_none] using hnone
  rw [drain_cons hr hlive hch]
  simp only [hh, handle, hany, Bool.false_eq_true, if_false]
  refine drain_inbox_keeps (r := { r with channel := rest }) ?_ hh ?_ fuel
  · exact route?_pop hr rest
  · simp [List.find?_append, hnone]

/-! ## Requests -/

theorem mem_toDigitsCore {b f n : Nat} {ds : List Char} {c : Char} (hb : 0 < b)
    (h : c ∈ Nat.toDigitsCore b f n ds) : c ∈ ds ∨ ∃ k < b, c = Nat.digitChar k := by
  induction f generalizing n ds with
  | zero => exact .inl h
  | succ f ih =>
    simp only [Nat.toDigitsCore] at h
    -- the digit of `n % b` goes in front, then the higher digits
    have hd : c ∈ Nat.digitChar (n % b) :: ds → c ∈ ds ∨ ∃ k < b, c = Nat.digitChar k := by
      intro h
      rcases List.mem_cons.mp h with rfl | h
      · exact .inr ⟨n % b, Nat.mod_lt _ hb, rfl⟩
      · exact .inl h
    split at h
    · exact hd h
    · rcases ih h with h | h
      · exact hd h
      · exact .inr h

theorem hexDigit_plain : ∀ k < 16, Subject.forbidden (Nat.digitChar k) = false ∧
    Nat.digitChar k ≠ '.' ∧ Nat.digitChar k ≠ '*' ∧ Nat.digitChar k ≠ '>' := by
  decide

/-- An inbox name is `_INBOX` and one token of hexadecimal digits, padded with zeros. -/
theorem freshInbox_tokens (w : World) : ∃ token : String,
    w.freshInbox.2.text = "_INBOX" ++ "." ++ token ∧ w.freshInbox.2.tokens = ["_INBOX", token] ∧
      token.isEmpty = false ∧
      ∀ c ∈ token.toList, Subject.forbidden c = false ∧ c ≠ '.' ∧ c ≠ '*' ∧ c ≠ '>' := by
  let digits := String.ofList (Nat.toDigits 16 (w.inboxes + 1))
  let token := String.ofList (List.replicate (32 - digits.length) '0') ++ digits
  have htoken : ∀ c ∈ token.toList,
      Subject.forbidden c = false ∧ c ≠ '.' ∧ c ≠ '*' ∧ c ≠ '>' := by
    intro c hc
    simp only [token, digits, String.toList_append, String.toList_ofList, List.mem_append,
      List.mem_replicate] at hc
    rcases hc with ⟨-, rfl⟩ | hc
    · decide
    · rcases mem_toDigitsCore (by decide) hc with hc | ⟨k, hk, rfl⟩
      · simp at hc
      · exact hexDigit_plain k hk
  have htext : w.freshInbox.2.text = "_INBOX" ++ "." ++ token := by
    simp only [freshInbox, token, digits]
    rw [String.append_assoc]
    rfl
  have hdot : '.' ∉ token.toList := fun h => (htoken _ h).2.1 rfl
  have hname : Text.split "_INBOX" '.' = ["_INBOX"] := Text.split_of_not_mem (by decide)
  refine ⟨token, htext, ?_, by simp [token, digits, ← String.toList_inj, Nat.toDigits_ne_nil],
    htoken⟩
  simp only [Subject.tokens, htext, Text.split_dot_append, Text.split_of_not_mem hdot, hname]
  simp [← String.toList_inj]

theorem freshInbox_valid (w : World) : w.freshInbox.2.validate = .ok () := by
  obtain ⟨token, htext, htokens, hne, htoken⟩ := freshInbox_tokens w
  have hempty : w.freshInbox.2.text.isEmpty = false := by
    simp [htext, ← String.toList_inj]
  have hchars : (w.freshInbox.2.text.toList.any Subject.forbidden) = false := by
    rw [htext, String.toList_append, List.any_append, Bool.or_eq_false_iff]
    exact ⟨by decide, List.any_eq_false.mpr fun c hc => by simp [(htoken c hc).1]⟩
  unfold Subject.validate
  rw [hempty, hchars, htokens]
  simp [Subject.checkTokens, hne, Subject.rest]

theorem freshInbox_isWildcard (w : World) : w.freshInbox.2.isWildcard = false := by
  obtain ⟨token, -, htokens, -, htoken⟩ := freshInbox_tokens w
  have hone : token ≠ "*" := fun h => (htoken '*' (by simp [h])).2.2.1 rfl
  have hrest : token ≠ ">" := fun h => (htoken '>' (by simp [h])).2.2.2 rfl
  simp [Subject.isWildcard, htokens, Subject.one, Subject.rest, hone, hrest]

/-- A request reaches its subject's targets, chosen by the routing rules on the bus with its
inbox route added; it fails with no responders exactly when it reaches none, and otherwise
waits on its inbox, a live route that keeps replies. -/
theorem openRequest_spec {w : World} (hb : w.bus.WellFormed) {m : Message}
    (hv : m.subject.validate = .ok ()) (hw : m.subject.isWildcard = false) :
    ∃ (b : Table Handler) (ids : List Nat),
      b.routes = w.bus.routes ++
        [{ id := w.bus.nextId, pattern := w.freshInbox.2, group := none, handler := .inbox }] ∧
      Routed b m.subject ids ∧
      ((w.openRequest m).2 = .error (.noResponders m.subject) ↔ ids = []) ∧
      (ids ≠ [] → (w.openRequest m).2 = .ok w.bus.nextId ∧ ∃ r,
        (w.openRequest m).1.bus.route? w.bus.nextId = some r ∧ r.handler = .inbox ∧
          r.live = true ∧ r.pattern = w.freshInbox.2) := by
  have hpub : publishable m.subject = .ok () := by simp [publishable, hv, hw]
  -- the bus the request is delivered on: counted, with the inbox route
  let b : Table Handler := { w.bus.countRequest with
    routes := w.bus.routes ++
      [{ id := w.bus.nextId, pattern := w.freshInbox.2, group := none, handler := .inbox }]
    nextId := w.bus.nextId + 1 }
  have hadd : w.bus.countRequest.add w.freshInbox.2 none .inbox = .ok (b, w.bus.nextId) := by
    simp [Table.add, freshInbox_valid, b, Table.countRequest]
  have hbwf : b.WellFormed := hb.countRequest.add hadd
  refine ⟨b, (b.targets m.subject).2, rfl, targets_routed hbwf m.subject, ?_⟩
  simp only [openRequest, hpub]
  split
  · rename_i e he
    cases he.symm.trans hadd
  · rename_i bus id he
    obtain ⟨rfl, rfl⟩ := Prod.mk.inj (Except.ok.inj (he.symm.trans hadd))
    simp only [deliver_snd]
    by_cases hids : (b.targets m.subject).2 = []
    · simp [hids]
    · -- the inbox route is in the table, live and keeping replies
      have hmem : ({ id := w.bus.nextId, pattern := w.freshInbox.2, group := none,
                     handler := .inbox } : Route Handler) ∈ b.routes := by simp [b]
      refine ⟨by simp [hids], fun _ => ⟨by simp [hids], ?_⟩⟩
      simp only [List.isEmpty_eq_false_iff.mpr hids, Bool.false_eq_true, if_false, deliver_fst_bus]
      exact ⟨_, deliver_route? hbwf _ hmem, rfl, rfl, rfl⟩

/-! ## Routing on the bus, all together -/

/-- What the bus does with a message to a valid subject without wildcards, from a state of the
world. -/
structure RoutesExactly (w : World) (m : Message) : Prop where
  /-- A publication reaches the targets the routing rules choose, each getting one copy at the
  end of its channel; every other route stays as it was. -/
  publish : ∃ b' ids, w.bus.publish m = .ok (b', ids) ∧ b'.WellFormed ∧ Routed w.bus m.subject ids ∧
    ∀ r ∈ w.bus.routes,
      b'.route? r.id = some { r with channel := r.channel ++ if r.id ∈ ids then [m] else [] }
  /-- A handler gets the oldest waiting message; the others wait, in order, ahead of whatever it
  routes back to its own route. -/
  oldestFirst : ∀ id r, w.bus.route? id = some r → ∀ m' rest, ∃ more,
    (({ w with bus := w.bus.modify id fun r => { r with channel := rest } } : World).handle
      id m' r.handler).1.bus.route? id = some { r with channel := rest ++ more }
  /-- A script's subscription records the messages routed to it in the order they came. -/
  inOrder : ∀ id sub echo r, w.bus.route? id = some r → r.handler = .note sub echo →
    sub < w.subs.size → ∀ fuel, ∃ more, seen (w.drain id fuel) sub id = seen w sub id ++ more
  /-- A request fails with no responders exactly when it reaches no route. -/
  request : ∃ (b : Table Handler) (ids : List Nat),
    b.routes = w.bus.routes ++
      [{ id := w.bus.nextId, pattern := w.freshInbox.2, group := none, handler := .inbox }] ∧
    Routed b m.subject ids ∧
    ((w.openRequest m).2 = .error (.noResponders m.subject) ↔ ids = []) ∧
    (ids ≠ [] → (w.openRequest m).2 = .ok w.bus.nextId ∧ ∃ r,
      (w.openRequest m).1.bus.route? w.bus.nextId = some r ∧ r.handler = .inbox ∧
        r.live = true ∧ r.pattern = w.freshInbox.2)
  /-- A request's inbox gives the first message that reached it and ignores the later ones. -/
  firstReply : ∀ id r m' rest, w.bus.route? id = some r → r.handler = .inbox → r.live = true →
    r.channel = m' :: rest → w.replies.find? (·.1 == id) = none →
    ∀ fuel, ((w.drain id (fuel + 1)).takeReply id).map Prod.snd = some m'

theorem memory_bus_routes_exactly {w : World} (hb : w.bus.WellFormed) {m : Message}
    (hv : m.subject.validate = .ok ()) (hw : m.subject.isWildcard = false) :
    RoutesExactly w m where
  publish := publish_spec hb hv hw
  oldestFirst _ _ hr m' rest := turn_keeps_rest hb hr m' rest
  inOrder _ _ _ _ hr hh hsub := drain_seen hb hr hh hsub
  request := openRequest_spec hb hv hw
  firstReply _ _ _ _ hr hh hlive hch hnone fuel := by
    rw [takeReply_snd, drain_inbox_first hr hh hlive hch hnone fuel]
    rfl

/-- A plain subscription and a queue group of two workers on orders, all covering `orders.eu`. -/
theorem orders_routes_exactly :
    let w : World := {
      bus := {
        routes := [⟨0, ⟨"orders.*"⟩, none, .note 0 false, [], true⟩,
          ⟨1, ⟨"orders.>"⟩, some "workers", .note 1 false, [], true⟩,
          ⟨2, ⟨"orders.eu"⟩, some "workers", .note 2 false, [], true⟩]
        nextId := 3 }
      subs := #[{ route := 0 }, { route := 1 }, { route := 2 }] }
    let m : Message := { subject := ⟨"orders.eu"⟩ }
    w.bus.WellFormed ∧ m.subject.validate = .ok () ∧ m.subject.isWildcard = false ∧
      RoutesExactly w m := by
  intro w m
  have hb : w.bus.WellFormed := ⟨by decide, by decide⟩
  have hv : m.subject.validate = .ok () := by decide
  have hw : m.subject.isWildcard = false := by decide
  exact ⟨hb, hv, hw, memory_bus_routes_exactly hb hv hw⟩

end World

end Courier.Runtime
