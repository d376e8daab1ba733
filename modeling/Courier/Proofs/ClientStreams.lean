import Courier.Proofs.Tasks
import Courier.Runtime.Client
import Mathlib.Logic.Relation

/-!
# The life of a client stream

A client stream listens for its replies through one route of the bus, made by the first `send`
or `listen` that finds it neither listening nor closed. Closing the stream retires that route,
cancels the stream's context and makes every later send, listen and receive fail; dropping it
hands the retirement to a release task. The routes listening for a stream are its `listeners`;
the table never loses a route, so they are every subscription the stream ever made.

Calls on a stream run at the same time from many tasks, each stopping at its await points
(`Pending`), so a `Flight` is the world with the calls in flight on one stream. A step starts a
call, lets one call in flight go on from its await point (one waiting for the lock only when no
other call holds it), or lets the world's own tasks run (`Calm`). Every interleaving of these is
a run (`Flight.Reaches`).

`Lifecycle` is the invariant of a stream its owner holds, over the calls in flight: its flags,
at most one call holding the lock and at most one close past its flags, and where it stands
with its subscription (`Stage`): idle, perhaps with one call subscribing; listening on the one
route that listens for it; released by the close that took the route; or retired. A close that
set the flags while a subscription was on its way waits for the lock, so it takes the route the
subscription made. Every step keeps the invariant (`Lifecycle.step`), and from it follow the
laws of `client_stream_laws`, over every interleaving.
-/

namespace Courier

namespace Tokens

/-- Every token's parent is older than the token. -/
def Older (t : Tokens) : Prop := ∀ k p : Nat, t.parents[k]? = some (some p) → p < k

theorem cancelledWithin_cancel_of_lt {t : Tokens} (h : t.Older) {k : Nat} :
    ∀ (fuel j : Nat), j < k → (t.cancel k).cancelledWithin fuel j = t.cancelledWithin fuel j := by
  intro fuel
  induction fuel with
  | zero => intro j _; rfl
  | succ fuel ih =>
    intro j hj
    -- the walk up from `j` only meets tokens older than `j`, so never `k`
    have hflag : (t.cancel k).flags.getD j false = t.flags.getD j false := by
      simp [cancel, Array.set!_eq_setIfInBounds, Ne.symm (Nat.ne_of_lt hj)]
    simp only [cancelledWithin, hflag]
    congr 1
    have hparents : (t.cancel k).parents = t.parents := rfl
    rw [hparents]
    cases hp : t.parents.getD j none with
    | none => rfl
    | some p =>
      have hpj : p < j := by
        apply h j p
        rw [Array.getD_eq_getD_getElem?] at hp
        cases hq : t.parents[j]? with
        | none => rw [hq] at hp; cases hp
        | some q => rw [hq] at hp; rw [show q = some p from hp]
      exact ih p (Nat.lt_trans hpj hj)

theorem isCancelled_cancel_of_lt {t : Tokens} (h : t.Older) {j k : Nat} (hj : j < k) :
    (t.cancel k).isCancelled j = t.isCancelled j :=
  cancelledWithin_cancel_of_lt h _ j hj

theorem Older.of_parents {t t' : Tokens} (h : t.Older) (hp : t'.parents = t.parents) :
    t'.Older :=
  fun k p hk => h k p (hp ▸ hk)

theorem Older.fresh {t : Tokens} (h : t.Older) {p : Nat} (hp : p < t.parents.size) :
    (t.fresh (some p)).1.Older := by
  intro k q hq
  change (t.parents.push (some p))[k]? = some (some q) at hq
  rw [Array.getElem?_push] at hq
  split at hq
  · next hk =>
    obtain rfl : p = q := by simpa using hq
    omega
  · exact h k q hq

end Tokens

namespace Bus.Table

variable {α : Type}

/-- A route taken out of the table is retired, whether or not it was there to take. -/
theorem remove_retires (b : Table α) (id : Nat) :
    ∀ r ∈ (b.remove id).1.routes, r.id = id → r.live = false := by
  intro r hr hid
  unfold remove at hr
  split at hr
  · obtain ⟨r₀, -, rfl⟩ := List.mem_map.mp hr
    split <;> simp_all
  · next hnone =>
    have hne := List.find?_eq_none.mp hnone r hr
    simp [hid] at hne

end Bus.Table

namespace Runtime

/-- Whether a handler hands replies on to client stream `i`. -/
def Handler.listensFor (i : Nat) : Handler → Bool
  | .service _ (.listen j) => j == i
  | _ => false

theorem CallStream.eq_of_control {s s' : CallStream} (h : s'.control = s.control) {β : Type}
    (f : CallStream → β) (hf : ∀ s : CallStream, f s.control = f s) : f s' = f s := by
  rw [← hf s', h, hf s]

namespace World

open Bus Bus.Table

/-- The routes of the table that hand replies on to stream `i`: its reply subscriptions, live or
retired. -/
def listeners (w : World) (i : Nat) : List (Route Handler) :=
  w.bus.routes.filter (·.handler.listensFor i)

theorem Keeps.listeners {w w' : World} (h : Keeps w.bus w'.bus) (i : Nat) :
    List.Forall₂ Route.Kept (w.listeners i) (w'.listeners i) := by
  refine List.rel_filter (fun r r' hr => ?_) h
  simp [hr.2.1]

theorem forall₂_kept_ids {l l' : List (Route Handler)} (h : List.Forall₂ Route.Kept l l') :
    l'.map (·.id) = l.map (·.id) := by
  induction h with
  | nil => rfl
  | cons hr _ ih => simp [hr.1, ih]

theorem forall₂_kept_dead {l l' : List (Route Handler)} (h : List.Forall₂ Route.Kept l l')
    (hd : ∀ r ∈ l, r.live = false) : ∀ r ∈ l', r.live = false := by
  induction h with
  | nil => simp
  | cons hr _ ih =>
    intro r' hr'
    rcases List.mem_cons.mp hr' with rfl | hmem
    · cases hl : r'.live
      · rfl
      · exact absurd (hr.2.2 hl) (by simp [hd _ List.mem_cons_self])
    · exact ih (fun r hr => hd r (List.mem_cons_of_mem _ hr)) r' hmem

theorem Calm.stream? {w w' : World} (hc : Calm w w') {i : Nat} {s : CallStream}
    (hs : w.stream? i = some s) : ∃ s', w'.stream? i = some s' ∧ s'.control = s.control := by
  have hstream : (w'.stream? i).map CallStream.control = some s.control := by
    have hmap := congrArg (·[i]?) hc.streams
    simp only [Array.getElem?_map] at hmap
    rw [World.stream?, hmap, show w.streams[i]? = some s from hs]
    rfl
  obtain ⟨s', hs', hctl⟩ := Option.map_eq_some_iff.mp hstream
  exact ⟨s', hs', hctl⟩

/-! ## The steps of a call -/

@[simp] theorem stream?_modifyStream_self {w : World} {i : Nat} {s : CallStream}
    (h : w.stream? i = some s) (f : CallStream → CallStream) :
    (w.modifyStream i f).stream? i = some (f s) := by
  simp only [stream?, modifyStream, Array.getElem?_modify] at h ⊢
  simp [h]

@[simp]
theorem wake_tokens (w : World) (t : Task) : (w.wake t).tokens = w.tokens := by
  unfold wake
  split <;> rfl

theorem mem_wake_ready (w : World) (t : Task) : t ∈ (w.wake t).ready := by
  unfold wake
  split
  · next h => simpa using h
  · simp

theorem foldl_tokens {β : Type} {f : World → β → World} (hf : ∀ w b, (f w b).tokens = w.tokens) :
    ∀ (l : List β) (w : World), (l.foldl f w).tokens = w.tokens
  | [], _ => rfl
  | b :: l, w => (foldl_tokens hf l (f w b)).trans (hf w b)

theorem cancel_calm (w : World) (k : Nat) :
    Calm w (w.cancel k) ∧ (w.cancel k).tokens = w.tokens.cancel k := by
  unfold cancel
  dsimp only
  -- the flag is set, the loops of the services `k` shuts down are woken, then the watcher
  generalize hv : List.foldl _ _ _ = v
  have hloops : Calm w v ∧ v.tokens = w.tokens.cancel k := by
    rw [← hv]
    have hflag : Calm w { w with tokens := w.tokens.cancel k } := ⟨rfl, Keeps.refl _, rfl⟩
    constructor
    · refine hflag.trans (foldl_calm (fun u j => ?_) _ _)
      split
      · split
        · split
          · exact wake_calm _ _
          · exact Calm.refl _
        · exact Calm.refl _
      · exact Calm.refl _
    · refine foldl_tokens (fun u j => ?_) _ _
      split
      · split
        · split
          · exact wake_tokens _ _
          · rfl
        · rfl
      · rfl
  split
  · split
    · exact ⟨hloops.1.trans (wake_calm v _), (wake_tokens v _).trans hloops.2⟩
    · exact hloops
  · exact hloops

/-- Subscribing an inbox for stream `i` adds one route, which listens for the stream, and
changes no stream or token. -/
theorem subscribeTo_listen {w w' : World} {svc : Nat} {subject : Subject} {i id : Nat}
    (h : w.subscribeTo svc subject (.listen i) = .ok (w', id)) :
    w'.streams = w.streams ∧ w'.tokens = w.tokens ∧
      (w'.listeners i).map (·.id) = (w.listeners i).map (·.id) ++ [id] := by
  unfold subscribeTo subscribeRoute Bus.Table.add at h
  split at h
  · cases h
  · dsimp only at h
    simp only [Except.ok.injEq, Prod.mk.injEq] at h
    obtain ⟨rfl, rfl⟩ := h
    refine ⟨rfl, rfl, ?_⟩
    simp [listeners, countSubscribe, Handler.listensFor]

theorem id_of_listeners {l : List (Route Handler)} {id : Nat} (hl : l.map (·.id) = [id])
    {r : Route Handler} (hr : r ∈ l) : r.id = id := by
  have hmem : r.id ∈ l.map (·.id) := List.mem_map.mpr ⟨r, hr, rfl⟩
  rw [hl, List.mem_singleton] at hmem
  exact hmem

/-- Once route `id` is retired, a stream that only route `id` listened for has no live
listener. -/
theorem unsubscribeRoute_silences {w : World} {i id : Nat}
    (hl : (w.listeners i).map (·.id) = [id]) :
    ∀ r ∈ (w.unsubscribeRoute id).listeners i, r.live = false := by
  have hids := (forall₂_kept_ids (Keeps.listeners (unsubscribeRoute_calm w id).routes i)).trans hl
  intro r hr
  have hmem : r ∈ (w.bus.unsubscribe id).routes := (List.mem_filter.mp hr).1
  rw [unsubscribe_routes] at hmem
  exact remove_retires w.bus id r hmem (id_of_listeners hids hr)

/-! ## Drops -/

section Drops

variable {w : World} {i : Nat} {s : CallStream}

theorem listeners_dropStream (w : World) (i j : Nat) :
    (w.dropStream i).listeners j = w.listeners j := by
  unfold listeners World.dropStream
  split
  · rfl
  · split
    · rw [wake_bus]
      rfl
    · rfl

theorem dropStream_ready (hs : w.stream? i = some s) (hr : s.route = none) :
    (w.dropStream i).ready = w.ready := by
  simp [World.dropStream, hs, hr, modifyStream]

theorem release_mem_dropStream {id : Nat} (hs : w.stream? i = some s) (hr : s.route = some id) :
    Task.release id ∈ (w.dropStream i).ready := by
  simp only [World.dropStream, hs, hr]
  exact mem_wake_ready _ _

theorem cancelled_cancel_of_lt (hw : w.tokens.Older) {j k : Nat} (hj : j < k) :
    (w.cancel k).cancelled j = w.cancelled j := by
  simp only [cancelled, (cancel_calm w k).2]
  exact Tokens.isCancelled_cancel_of_lt hw hj

end Drops

end World

/-! ## Calls in flight -/

namespace Pending

/-- Whether a call at this await point is a close past its flags. -/
def closes : Pending → Bool
  | .take => true
  | .unsubscribe _ => true
  | _ => false

/-- Whether a call at this await point is a close waiting for the lock. -/
def isTake : Pending → Bool
  | .take => true
  | _ => false

/-- The route a close at this await point unsubscribes. -/
def unsubscribing : Pending → Option Nat
  | .unsubscribe id => some id
  | _ => none

/-- Whether a call at this await point leaves the subscription to others: a listen or send
before the lock, a send at the queue, a receive. -/
def inert : Pending → Bool
  | .lock _ => true
  | .enqueue _ _ => true
  | .receive _ => true
  | _ => false

theorem inert_holdsLock {p : Pending} (h : p.inert = true) : p.holdsLock = false := by
  cases p <;> simp_all [inert, holdsLock]

theorem inert_closes {p : Pending} (h : p.inert = true) : p.closes = false := by
  cases p <;> simp_all [inert, closes]

theorem isTake_of_closes {p : Pending} (h : p.closes = false) : p.isTake = false := by
  cases p <;> simp_all [closes, isTake]

theorem unsubscribing_of_closes {p : Pending} (h : p.closes = false) : p.unsubscribing = none := by
  cases p <;> simp_all [closes, unsubscribing]

end Pending

/-- The calls in flight on one client stream, each at its await point, and the world they
share. -/
structure Flight where
  world : World
  calls : List Pending

/-- A call a client makes on a stream. -/
inductive StreamCall where
  | send (request : Json.Value)
  | listen
  | receive (shape : Shape)
  | closeSend
  | close

/-- Starts a call on stream `i`: it runs to its end, or to its first await point. -/
def StreamCall.start (i : Nat) (w : World) : StreamCall → Resumed
  | .send request => w.startSubscriber i (some request)
  | .listen => w.startSubscriber i none
  | .receive shape => .pending w (.receive shape)
  | .closeSend => .done (w.closeSend i) .done
  | .close => w.startClose i

/-- The flight once a call ran on: a call that ended leaves, one that stopped again joins the
others at its await point. -/
def Resumed.into (calls : List Pending) : Resumed → Flight
  | .done w _ => ⟨w, calls⟩
  | .pending w p => ⟨w, p :: calls⟩

/-- A call run on its own from where it stands, through `n` await points at most. -/
def Resumed.alone (i : Nat) : Nat → Resumed → Resumed
  | 0, r => r
  | _ + 1, .done w o => .done w o
  | n + 1, .pending w p =>
    match w.resume i p with
    | some r => Resumed.alone i n r
    | none => .pending w p

namespace Flight

/-- One step on client stream `i`: a task starts a call; a call in flight goes on from its await
point, one waiting for the lock only when no other call holds it; or the world's own tasks run. -/
inductive Step (i : Nat) : Flight → Flight → Prop where
  | start (w : World) (calls : List Pending) (c : StreamCall) :
      Step i ⟨w, calls⟩ ((c.start i w).into calls)
  | resume {w : World} {pre post : List Pending} {p : Pending} {r : Resumed}
      (hlock : p.needsLock = true → ∀ q ∈ pre ++ post, q.holdsLock = false)
      (hr : w.resume i p = some r) : Step i ⟨w, pre ++ p :: post⟩ (r.into (pre ++ post))
  | world {w w' : World} (calls : List Pending) (hc : World.Calm w w') :
      Step i ⟨w, calls⟩ ⟨w', calls⟩

/-- The flights that steps on stream `i` lead to, in any interleaving. -/
def Reaches (i : Nat) : Flight → Flight → Prop := Relation.ReflTransGen (Step i)

end Flight

namespace World

open Bus Bus.Table

/-- No call in flight holds the lock. -/
def Free (calls : List Pending) : Prop := ∀ p ∈ calls, p.holdsLock = false

/-- A close in flight waits for the lock. -/
def Taking (calls : List Pending) : Prop := ∃ p ∈ calls, p.isTake = true

theorem Taking.tail {p : Pending} {calls : List Pending} (h : Taking (p :: calls))
    (hp : p.isTake = false) : Taking calls := by
  obtain ⟨q, hq, ht⟩ := h
  rcases List.mem_cons.mp hq with rfl | hq
  · simp [hp] at ht
  · exact ⟨q, hq, ht⟩

/-! ## Where a stream stands -/

/-- Where client stream `s`, at index `i`, stands with its reply subscription, with `calls` in
flight. -/
inductive Stage (w : World) (i : Nat) (s : CallStream) (calls : List Pending) : Prop where
  /-- Not listening: no route listens for it, though a call may be subscribing; once closed, its
  close waits for the lock. -/
  | idle (hr : s.route = none) (hl : w.listeners i = [])
      (hu : calls.filterMap Pending.unsubscribing = []) (ht : s.closed = true → Taking calls)
  /-- Listening on route `id`, the one route that listens for it; once closed, its close waits
  for the lock to take it. -/
  | listening (id : Nat) (hr : s.route = some id) (hl : (w.listeners i).map (·.id) = [id])
      (hf : Free calls) (hu : calls.filterMap Pending.unsubscribing = [])
      (ht : s.closed = true → Taking calls)
  /-- Closed, and its close unsubscribing route `id`, the one route that listened for it. -/
  | releasing (id : Nat) (hc : s.closed = true) (hr : s.route = none)
      (hl : (w.listeners i).map (·.id) = [id]) (hf : Free calls)
      (hu : calls.filterMap Pending.unsubscribing = [id])
  /-- Closed: at most one route listened for it, and none does any more. -/
  | retired (hc : s.closed = true) (hr : s.route = none) (hl : (w.listeners i).length ≤ 1)
      (hd : ∀ r ∈ w.listeners i, r.live = false) (hf : Free calls)
      (hu : calls.filterMap Pending.unsubscribing = [])

/-- The invariant of client stream `i`, as `s`, with the calls in flight on it, while its owner
holds it. -/
structure Lifecycle (f : Flight) (i : Nat) (s : CallStream) : Prop where
  stream : f.world.stream? i = some s
  held : s.dropped = false
  tornDown : s.tornDown = s.closed
  sendClosed : s.closed = true → s.sendClosed = true
  older : s.parent.token < s.context.token
  forest : f.world.tokens.Older
  /-- At most one call holds the lock. -/
  lock : (f.calls.filter Pending.holdsLock).length ≤ 1
  /-- Only the close that set the flags goes on past them. -/
  closing : (f.calls.filter Pending.closes).length ≤ 1
  opened : s.closed = false → ∀ p ∈ f.calls, p.closes = false
  stage : Stage f.world i s f.calls

section Stages

variable {w w' : World} {i : Nat} {s s' : CallStream} {calls calls' : List Pending}

theorem Stage.length_le (h : Stage w i s calls) : (w.listeners i).length ≤ 1 := by
  cases h with
  | idle _ hl _ _ => simp [hl]
  | listening _ _ hl _ _ _ | releasing _ _ _ hl _ _ =>
    have hlen := congrArg List.length hl
    simp only [List.length_map, List.length_singleton] at hlen
    omega
  | retired _ _ hl _ _ _ => exact hl

/-- A stage depends on the stream only through its flag and route, and on the table only
through the routes it keeps. -/
theorem Stage.kept (h : Stage w i s calls)
    (hk : List.Forall₂ Route.Kept (w.listeners i) (w'.listeners i))
    (hc : s'.closed = s.closed) (hr : s'.route = s.route) : Stage w' i s' calls := by
  have hclosed : s'.closed = true → s.closed = true := fun h' => hc.symm.trans h'
  cases h with
  | idle hr₀ hl hu ht =>
    rw [hl] at hk
    exact .idle (hr.trans hr₀) (List.forall₂_nil_left_iff.mp hk) hu (ht ∘ hclosed)
  | listening id hr₀ hl hf hu ht =>
    exact .listening id (hr.trans hr₀) ((forall₂_kept_ids hk).trans hl) hf hu (ht ∘ hclosed)
  | releasing id hc₀ hr₀ hl hf hu =>
    exact .releasing id (hc.trans hc₀) (hr.trans hr₀) ((forall₂_kept_ids hk).trans hl) hf hu
  | retired hc₀ hr₀ hl hd hf hu =>
    exact .retired (hc.trans hc₀) (hr.trans hr₀) (hk.length_eq ▸ hl) (forall₂_kept_dead hk hd)
      hf hu

theorem Stage.perm (h : Stage w i s calls) (hp : calls.Perm calls') : Stage w i s calls' := by
  have hfree : Free calls → Free calls' := fun hf p hp' => hf p (hp.mem_iff.mpr hp')
  have htaking : Taking calls → Taking calls' := fun ⟨p, hp', ht⟩ => ⟨p, hp.mem_iff.mp hp', ht⟩
  have hu := hp.filterMap Pending.unsubscribing
  cases h with
  | idle hr hl hnil ht => exact .idle hr hl (hnil ▸ hu).symm.eq_nil (htaking ∘ ht)
  | listening id hr hl hf hnil ht =>
    exact .listening id hr hl (hfree hf) (hnil ▸ hu).symm.eq_nil (htaking ∘ ht)
  | releasing id hc hr hl hf hid =>
    exact .releasing id hc hr hl (hfree hf) (List.perm_singleton.mp (hid ▸ hu).symm)
  | retired hc hr hl hd hf hnil => exact .retired hc hr hl hd (hfree hf) (hnil ▸ hu).symm.eq_nil

theorem Stage.cons (h : Stage w i s calls) {p : Pending} (hp : p.inert = true) :
    Stage w i s (p :: calls) := by
  have hfree : Free calls → Free (p :: calls) := fun hf =>
    List.forall_mem_cons.mpr ⟨Pending.inert_holdsLock hp, hf⟩
  have htaking : Taking calls → Taking (p :: calls) := fun ⟨q, hq, ht⟩ =>
    ⟨q, List.mem_cons_of_mem p hq, ht⟩
  have hu : (p :: calls).filterMap Pending.unsubscribing = calls.filterMap Pending.unsubscribing :=
    List.filterMap_cons_none (Pending.unsubscribing_of_closes (Pending.inert_closes hp))
  cases h with
  | idle hr hl hnil ht => exact .idle hr hl (hu.trans hnil) (htaking ∘ ht)
  | listening id hr hl hf hnil ht =>
    exact .listening id hr hl (hfree hf) (hu.trans hnil) (htaking ∘ ht)
  | releasing id hc hr hl hf hid => exact .releasing id hc hr hl (hfree hf) (hu.trans hid)
  | retired hc hr hl hd hf hnil => exact .retired hc hr hl hd (hfree hf) (hu.trans hnil)

theorem Stage.tail {p : Pending} (h : Stage w i s (p :: calls)) (hp : p.closes = false) :
    Stage w i s calls := by
  have hfree : Free (p :: calls) → Free calls := fun hf q hq => hf q (List.mem_cons_of_mem p hq)
  have htaking : Taking (p :: calls) → Taking calls := fun ht =>
    ht.tail (Pending.isTake_of_closes hp)
  have hu : (p :: calls).filterMap Pending.unsubscribing = calls.filterMap Pending.unsubscribing :=
    List.filterMap_cons_none (Pending.unsubscribing_of_closes hp)
  cases h with
  | idle hr hl hnil ht => exact .idle hr hl (hu ▸ hnil) (htaking ∘ ht)
  | listening id hr hl hf hnil ht =>
    exact .listening id hr hl (hfree hf) (hu ▸ hnil) (htaking ∘ ht)
  | releasing id hc hr hl hf hid => exact .releasing id hc hr hl (hfree hf) (hu ▸ hid)
  | retired hc hr hl hd hf hnil => exact .retired hc hr hl hd (hfree hf) (hu ▸ hnil)

/-- The calls that hold or take the route: the stream's own route and a close unsubscribing
one, one at most. -/
theorem Stage.owners_le (h : Stage w i s calls) :
    (s.route.toList ++ calls.filterMap Pending.unsubscribing).length ≤ 1 := by
  cases h with
  | idle hr _ hu _ => simp [hr, hu]
  | listening _ hr _ _ hu _ => simp [hr, hu]
  | releasing _ _ hr _ _ hu => simp [hr, hu]
  | retired _ hr _ _ _ hu => simp [hr, hu]

end Stages

/-! ## Each step keeps the invariant -/

/-- What a step may do to stream `i`, seen as `s` before and `s'` after: close it for sending or
for good but never reopen it, add a listening route but lose none, and once it is closed with no
call holding the lock, add no route and let no call take the lock. -/
structure Advances (f f' : Flight) (i : Nat) (s s' : CallStream) : Prop where
  closed : s.closed = true → s'.closed = true
  sendClosed : s.sendClosed = true → s'.sendClosed = true
  listeners : (f.world.listeners i).map (·.id) <+: (f'.world.listeners i).map (·.id)
  sealed : s.closed = true → Free f.calls →
    (f'.world.listeners i).map (·.id) = (f.world.listeners i).map (·.id) ∧ Free f'.calls

theorem Advances.refl (f : Flight) (i : Nat) (s : CallStream) : Advances f f i s s :=
  ⟨id, id, List.prefix_refl _, fun _ hf => ⟨rfl, hf⟩⟩

theorem Advances.trans {f₁ f₂ f₃ : Flight} {i : Nat} {s₁ s₂ s₃ : CallStream}
    (h₁ : Advances f₁ f₂ i s₁ s₂) (h₂ : Advances f₂ f₃ i s₂ s₃) : Advances f₁ f₃ i s₁ s₃ where
  closed := h₂.closed ∘ h₁.closed
  sendClosed := h₂.sendClosed ∘ h₁.sendClosed
  listeners := h₁.listeners.trans h₂.listeners
  sealed hc hf :=
    have ⟨hids₁, hf₂⟩ := h₁.sealed hc hf
    have ⟨hids₂, hf₃⟩ := h₂.sealed (h₁.closed hc) hf₂
    ⟨hids₂.trans hids₁, hf₃⟩

/-- A step that keeps the stream's flags and the listeners' ids, and lets no call take the lock,
advances nothing. -/
theorem Advances.of_ids {f f' : Flight} {i : Nat} {s s' : CallStream}
    (hids : (f'.world.listeners i).map (·.id) = (f.world.listeners i).map (·.id))
    (hc : s'.closed = s.closed) (hsc : s'.sendClosed = s.sendClosed)
    (hfree : Free f.calls → Free f'.calls) : Advances f f' i s s' :=
  ⟨fun h => hc.trans h, fun h => hsc.trans h, hids ▸ List.prefix_refl _,
    fun _ hf => ⟨hids, hfree hf⟩⟩

theorem Advances.drop (w : World) (i : Nat) (s : CallStream) (p : Pending) (rest : List Pending) :
    Advances ⟨w, p :: rest⟩ ⟨w, rest⟩ i s s :=
  Advances.of_ids rfl rfl rfl fun hf q hq => hf q (List.mem_cons_of_mem p hq)

theorem Advances.join (w : World) (i : Nat) (s : CallStream) {p : Pending}
    (hp : p.holdsLock = false) (calls : List Pending) :
    Advances ⟨w, calls⟩ ⟨w, p :: calls⟩ i s s :=
  Advances.of_ids rfl rfl rfl fun hf => List.forall_mem_cons.mpr ⟨hp, hf⟩

section Invariant

variable {w w' : World} {i : Nat} {s : CallStream} {calls rest : List Pending}

theorem Lifecycle.perm {calls' : List Pending} (h : Lifecycle ⟨w, calls⟩ i s)
    (hp : calls.Perm calls') : Lifecycle ⟨w, calls'⟩ i s where
  stream := h.stream
  held := h.held
  tornDown := h.tornDown
  sendClosed := h.sendClosed
  older := h.older
  forest := h.forest
  lock := (hp.filter _).length_eq ▸ h.lock
  closing := (hp.filter _).length_eq ▸ h.closing
  opened hc p hp' := h.opened hc p (hp.mem_iff.mpr hp')
  stage := h.stage.perm hp

theorem Lifecycle.cons (h : Lifecycle ⟨w, calls⟩ i s) {p : Pending} (hp : p.inert = true) :
    Lifecycle ⟨w, p :: calls⟩ i s := by
  have hl : (p :: calls).filter Pending.holdsLock = calls.filter Pending.holdsLock :=
    List.filter_cons_of_neg (by simp [Pending.inert_holdsLock hp])
  have hc : (p :: calls).filter Pending.closes = calls.filter Pending.closes :=
    List.filter_cons_of_neg (by simp [Pending.inert_closes hp])
  refine ⟨h.stream, h.held, h.tornDown, h.sendClosed, h.older, h.forest, hl ▸ h.lock,
    hc ▸ h.closing, fun hcl q hq => ?_, h.stage.cons hp⟩
  rcases List.mem_cons.mp hq with rfl | hq
  · exact Pending.inert_closes hp
  · exact h.opened hcl q hq

theorem Lifecycle.leave {p : Pending} (h : Lifecycle ⟨w, p :: rest⟩ i s) (hs : Stage w i s rest) :
    Lifecycle ⟨w, rest⟩ i s :=
  have hsub := List.sublist_cons_self p rest
  ⟨h.stream, h.held, h.tornDown, h.sendClosed, h.older, h.forest,
    ((hsub.filter _).length_le).trans h.lock, ((hsub.filter _).length_le).trans h.closing,
    fun hc q hq => h.opened hc q (List.mem_cons_of_mem p hq), hs⟩

theorem Lifecycle.tail {p : Pending} (h : Lifecycle ⟨w, p :: rest⟩ i s) (hp : p.closes = false) :
    Lifecycle ⟨w, rest⟩ i s :=
  h.leave (h.stage.tail hp)

theorem others_of_filter_le {q : Pending → Bool} {p : Pending} {calls : List Pending}
    (h : ((p :: calls).filter q).length ≤ 1) (hp : q p = true) : ∀ p' ∈ calls, q p' = false := by
  rw [List.filter_cons_of_pos hp, List.length_cons] at h
  have hnil : calls.filter q = [] := List.eq_nil_of_length_eq_zero (by omega)
  intro p' hp'
  simpa using List.filter_eq_nil_iff.mp hnil p' hp'

/-- The world's own tasks keep the invariant: they leave the stream, apart from its channel, the
listening routes and the shape of the token forest as they were. -/
theorem Lifecycle.calm (h : Lifecycle ⟨w, calls⟩ i s) (hc : Calm w w') :
    ∃ s', Lifecycle ⟨w', calls⟩ i s' ∧ Advances ⟨w, calls⟩ ⟨w', calls⟩ i s s' := by
  obtain ⟨s', hs', hctl⟩ := hc.stream? h.stream
  have same {β : Type} (f : CallStream → β) (hf : ∀ s : CallStream, f s.control = f s) :
      f s' = f s :=
    CallStream.eq_of_control hctl f hf
  have hclosed := same CallStream.closed fun _ => rfl
  have hsendClosed := same CallStream.sendClosed fun _ => rfl
  have hk := Keeps.listeners hc.routes i
  refine ⟨s', ⟨hs', ?_, ?_, ?_, ?_, h.forest.of_parents hc.parents, h.lock, h.closing,
      fun hc' => h.opened (hclosed.symm.trans hc'),
      h.stage.kept hk hclosed (same CallStream.route fun _ => rfl)⟩,
    Advances.of_ids (forall₂_kept_ids hk) hclosed hsendClosed id⟩
  · exact (same CallStream.dropped fun _ => rfl).trans h.held
  · rw [same CallStream.tornDown fun _ => rfl, hclosed]
    exact h.tornDown
  · rw [hclosed, hsendClosed]
    exact h.sendClosed
  · rw [same CallStream.parent fun _ => rfl, same CallStream.context fun _ => rfl]
    exact h.older

theorem Lifecycle.finish {p : Pending} (h : Lifecycle ⟨w, p :: rest⟩ i s) (hp : p.closes = false)
    (hc : Calm w w') :
    ∃ s', Lifecycle ⟨w', rest⟩ i s' ∧ Advances ⟨w, p :: rest⟩ ⟨w', rest⟩ i s s' := by
  obtain ⟨s', h', ha⟩ := (h.tail hp).calm hc
  exact ⟨s', h', (Advances.drop w i s p rest).trans ha⟩

end Invariant

/-! ## Starting a call -/

section Starts

variable {w : World} {i : Nat} {s : CallStream} {calls : List Pending}

theorem startSubscriber_cases (w : World) (i : Nat) (request : Option Json.Value) :
    (∃ o, w.startSubscriber i request = .done w o) ∨
      w.startSubscriber i request = .pending w (.lock request) := by
  unfold startSubscriber
  split
  · exact .inl ⟨_, rfl⟩
  · split
    · exact .inl ⟨_, rfl⟩
    · split
      · exact .inl ⟨_, rfl⟩
      · exact .inr rfl

/-- A listen or a send starts without touching the world: it ends at its checks or waits for
the lock. -/
theorem Lifecycle.startSubscriber (h : Lifecycle ⟨w, calls⟩ i s) (request : Option Json.Value) :
    ∃ s', Lifecycle ((w.startSubscriber i request).into calls) i s' ∧
      Advances ⟨w, calls⟩ ((w.startSubscriber i request).into calls) i s s' := by
  rcases startSubscriber_cases w i request with ⟨o, hd⟩ | hp
  · rw [hd]
    exact ⟨s, h, Advances.refl _ i s⟩
  · rw [hp]
    exact ⟨s, h.cons rfl, Advances.join w i s rfl calls⟩

theorem Lifecycle.closeSend (h : Lifecycle ⟨w, calls⟩ i s) :
    Lifecycle ⟨w.closeSend i, calls⟩ i { s with sendClosed := true } ∧
      Advances ⟨w, calls⟩ ⟨w.closeSend i, calls⟩ i s { s with sendClosed := true } :=
  ⟨⟨stream?_modifyStream_self h.stream _, h.held, h.tornDown, fun _ => rfl, h.older, h.forest,
      h.lock, h.closing, h.opened, h.stage.kept (Keeps.listeners (Keeps.refl w.bus) i) rfl rfl⟩,
    ⟨id, fun _ => rfl, List.prefix_refl _, fun _ hf => ⟨rfl, hf⟩⟩⟩

theorem Stage.close {w' : World} {s' : CallStream} (h : Stage w i s calls) (hc : s.closed = false)
    (hk : List.Forall₂ Route.Kept (w.listeners i) (w'.listeners i)) (hr : s'.route = s.route) :
    Stage w' i s' (.take :: calls) := by
  have htaking : Taking (.take :: calls) := ⟨.take, List.mem_cons_self, rfl⟩
  have hu : (Pending.take :: calls).filterMap Pending.unsubscribing =
      calls.filterMap Pending.unsubscribing := rfl
  cases h with
  | idle hr₀ hl hnil _ =>
    rw [hl] at hk
    exact .idle (hr.trans hr₀) (List.forall₂_nil_left_iff.mp hk) (hu.trans hnil) fun _ => htaking
  | listening id hr₀ hl hf hnil _ =>
    exact .listening id (hr.trans hr₀) ((forall₂_kept_ids hk).trans hl)
      (List.forall_mem_cons.mpr ⟨rfl, hf⟩) (hu.trans hnil) fun _ => htaking
  | releasing _ hc' _ _ _ _ | retired hc' _ _ _ _ _ => simp [hc] at hc'

/-- A close sets the flags of a stream not torn down yet and cancels its context at once, then
waits for the lock; of a stream torn down already, it does nothing. -/
theorem Lifecycle.startClose (h : Lifecycle ⟨w, calls⟩ i s) :
    ∃ s', Lifecycle ((w.startClose i).into calls) i s' ∧
      Advances ⟨w, calls⟩ ((w.startClose i).into calls) i s s' := by
  unfold World.startClose
  rw [h.stream]
  dsimp only
  split
  · exact ⟨s, h, Advances.refl _ i s⟩
  · next ht =>
    dsimp only [Resumed.into]
    have hc : s.closed = false := by
      rw [← h.tornDown]
      simpa using ht
    let s₁ : CallStream := { s with tornDown := true, sendClosed := true, closed := true }
    -- past the flags, the cancellation is a calm step
    have hcalm : Calm (w.modifyStream i fun s =>
        { s with tornDown := true, sendClosed := true, closed := true }) (w.closeFlags i s) :=
      (cancel_calm _ _).1
    obtain ⟨s', hs', hctl⟩ := hcalm.stream? (stream?_modifyStream_self h.stream _)
    have same {β : Type} (f : CallStream → β) (hf : ∀ s : CallStream, f s.control = f s) :
        f s' = f s₁ :=
      CallStream.eq_of_control hctl f hf
    have hclosed : s'.closed = true := same CallStream.closed fun _ => rfl
    have hsend : s'.sendClosed = true := same CallStream.sendClosed fun _ => rfl
    have hk := Keeps.listeners hcalm.routes i
    have hnone : calls.filter Pending.closes = [] :=
      List.filter_eq_nil_iff.mpr fun p hp => by simp [h.opened hc p hp]
    refine ⟨s', ⟨hs', ?_, ?_, fun _ => hsend, ?_, h.forest.of_parents hcalm.parents, ?_, ?_,
        fun hc' => by simp [hclosed] at hc', h.stage.close hc hk (same CallStream.route fun _ => rfl)⟩,
      ⟨fun _ => hclosed, fun _ => hsend, (forall₂_kept_ids hk) ▸ List.prefix_refl _,
        fun hc' => by simp [hc] at hc'⟩⟩
    · exact (same CallStream.dropped fun _ => rfl).trans h.held
    · rw [same CallStream.tornDown fun _ => rfl, hclosed]
    · rw [same CallStream.parent fun _ => rfl, same CallStream.context fun _ => rfl]
      exact h.older
    · simpa [List.filter_cons, Pending.holdsLock] using h.lock
    · simp [List.filter_cons, Pending.closes, hnone]

/-- Every call starts keeping the invariant. -/
theorem Lifecycle.start (h : Lifecycle ⟨w, calls⟩ i s) (c : StreamCall) :
    ∃ s', Lifecycle ((c.start i w).into calls) i s' ∧
      Advances ⟨w, calls⟩ ((c.start i w).into calls) i s s' := by
  cases c with
  | send request => exact h.startSubscriber (some request)
  | listen => exact h.startSubscriber none
  | receive shape => exact ⟨s, h.cons rfl, Advances.join w i s rfl calls⟩
  | closeSend => exact ⟨_, h.closeSend.1, h.closeSend.2⟩
  | close => exact h.startClose

end Starts

/-! ## Going on from an await point -/

section Resumes

variable {w : World} {i : Nat} {s : CallStream} {rest : List Pending}

theorem Lifecycle.afterListening (h : Lifecycle ⟨w, rest⟩ i s) (s₀ : CallStream)
    (request : Option Json.Value) :
    ∃ s', Lifecycle ((w.afterListening s₀ request).into rest) i s' ∧
      Advances ⟨w, rest⟩ ((w.afterListening s₀ request).into rest) i s s' := by
  cases request with
  | none => exact ⟨s, h, Advances.refl _ i s⟩
  | some request =>
    unfold World.afterListening
    dsimp only
    split
    · next hoffer => exact h.calm (offer_calm hoffer)
    · exact ⟨s, h.cons rfl, Advances.join w i s rfl rest⟩

/-- Holding the lock, a listen or send of a closed stream is refused, one of a listening stream
goes on, and one of an idle stream keeps the lock to subscribe. -/
theorem Lifecycle.lockStep {request : Option Json.Value}
    (h : Lifecycle ⟨w, .lock request :: rest⟩ i s) (hfree : Free rest) :
    ∃ s', Lifecycle ((w.lockStep i request).into rest) i s' ∧
      Advances ⟨w, .lock request :: rest⟩ ((w.lockStep i request).into rest) i s s' := by
  have ht := h.tail rfl
  have hdrop := Advances.drop w i s (.lock request) rest
  unfold World.lockStep
  rw [h.stream]
  dsimp only
  split
  · exact ⟨s, ht, hdrop⟩
  · next hc =>
    have hc : s.closed = false := by simpa using hc
    split
    · obtain ⟨s', h', ha⟩ := ht.afterListening s request
      exact ⟨s', h', hdrop.trans ha⟩
    · next hr =>
      -- an open stream with no route is idle: no route listens for it, no close is in flight
      have hstage : Stage w i s (.subscribe request :: rest) := by
        cases ht.stage with
        | idle _ hl hu _ => exact .idle hr hl hu fun h' => by simp [hc] at h'
        | listening _ hr' _ _ _ _ => simp [hr] at hr'
        | releasing _ hc' _ _ _ _ | retired hc' _ _ _ _ _ => simp [hc] at hc'
      have hnil : rest.filter Pending.holdsLock = [] :=
        List.filter_eq_nil_iff.mpr fun q hq => by simp [hfree q hq]
      have hlock : ((Pending.subscribe request :: rest).filter Pending.holdsLock).length ≤ 1 := by
        simp [List.filter_cons, Pending.holdsLock, hnil]
      refine ⟨s, ⟨h.stream, h.held, h.tornDown, h.sendClosed, h.older, h.forest, hlock,
          h.closing, fun _ q hq => ?_, hstage⟩,
        ⟨fun h => h, fun h => h, List.prefix_refl _, fun hc' => by simp [hc] at hc'⟩⟩
      rcases List.mem_cons.mp hq with rfl | hq
      · rfl
      · exact h.opened hc q (List.mem_cons_of_mem _ hq)

/-- The subscription of the call holding the lock: refused, it leaves the stream as it was;
made, the stream listens on the new route, the one route that listens for it. -/
theorem Lifecycle.subscribeStep {request : Option Json.Value}
    (h : Lifecycle ⟨w, .subscribe request :: rest⟩ i s) :
    ∃ s', Lifecycle ((w.subscribeStep i request).into rest) i s' ∧
      Advances ⟨w, .subscribe request :: rest⟩ ((w.subscribeStep i request).into rest) i s s' := by
  have ht := h.tail rfl
  have hdrop := Advances.drop w i s (.subscribe request) rest
  have hfree : Free rest := others_of_filter_le h.lock rfl
  -- the call holds the lock, so the stream is idle, though a close may have come meanwhile
  obtain ⟨hl, hu, htk⟩ : w.listeners i = [] ∧ rest.filterMap Pending.unsubscribing = [] ∧
      (s.closed = true → Taking rest) := by
    cases h.stage with
    | idle _ hl hu htk => exact ⟨hl, hu, fun hc => (htk hc).tail rfl⟩
    | listening _ _ _ hf _ _ | releasing _ _ _ _ hf _ | retired _ _ _ _ hf _ =>
      simp [Free, Pending.holdsLock] at hf
  unfold World.subscribeStep
  rw [h.stream]
  dsimp only
  split
  · exact ⟨s, ht, hdrop⟩
  · next w₁ hsub =>
    unfold subscribeReply at hsub
    split at hsub
    · cases hsub
    · next w₂ id hto =>
      cases hsub
      obtain ⟨hstreams, htokens, hids⟩ := subscribeTo_listen hto
      have hs₂ : w₂.stream? i = some s := by
        rw [← h.stream]
        simp only [stream?, hstreams]
      have h₃ : Lifecycle ⟨w₂.modifyStream i fun s => { s with route := some id }, rest⟩ i
          { s with route := some id } := by
        refine ⟨stream?_modifyStream_self hs₂ _, h.held, h.tornDown, h.sendClosed, h.older, ?_,
          ht.lock, ht.closing, ht.opened, .listening id rfl ?_ hfree hu htk⟩
        · show w₂.tokens.Older
          rw [htokens]
          exact h.forest
        · show (w₂.listeners i).map (·.id) = [id]
          simp [hids, hl]
      have hgrow : Advances ⟨w, .subscribe request :: rest⟩
          ⟨w₂.modifyStream i fun s => { s with route := some id }, rest⟩ i s
          { s with route := some id } := by
        refine ⟨fun h => h, fun h => h, ?_, fun _ hf => ?_⟩
        · show (w.listeners i).map (·.id) <+: (w₂.listeners i).map (·.id)
          rw [hids]
          exact List.prefix_append _ _
        · simp [Free, Pending.holdsLock] at hf
      obtain ⟨s', h', ha⟩ := h₃.afterListening s request
      exact ⟨s', h', hgrow.trans ha⟩

/-- Holding the lock, the close takes the route the stream listens on, to unsubscribe it; a
stream that listens on none is retired at once. -/
theorem Lifecycle.takeStep (h : Lifecycle ⟨w, .take :: rest⟩ i s) (hfree : Free rest) :
    ∃ s', Lifecycle ((w.takeStep i).into rest) i s' ∧
      Advances ⟨w, .take :: rest⟩ ((w.takeStep i).into rest) i s s' := by
  have hc : s.closed = true := by
    cases hc : s.closed
    · simpa [Pending.closes] using h.opened hc _ List.mem_cons_self
    · rfl
  have hsole : ∀ q ∈ rest, q.closes = false := others_of_filter_le h.closing rfl
  have hu : rest.filterMap Pending.unsubscribing = [] :=
    List.filterMap_eq_nil_iff.mpr fun q hq => Pending.unsubscribing_of_closes (hsole q hq)
  have hs₁ := stream?_modifyStream_self h.stream fun s => { s with route := none }
  have hsub := List.sublist_cons_self Pending.take rest
  -- the stream once its route is taken, with the calls left in flight
  have taken : ∀ {calls : List Pending}, (calls.filter Pending.holdsLock).length ≤ 1 →
      (calls.filter Pending.closes).length ≤ 1 →
      Stage (w.modifyStream i fun s => { s with route := none }) i { s with route := none } calls →
      Lifecycle ⟨w.modifyStream i fun s => { s with route := none }, calls⟩ i
        { s with route := none } := fun hl hcl hst =>
    ⟨hs₁, h.held, h.tornDown, h.sendClosed, h.older, h.forest, hl, hcl,
      fun hc' => by simp [hc] at hc', hst⟩
  unfold World.takeStep takeRoute
  rw [h.stream]
  dsimp only
  cases h.stage with
  | idle hr hl _ _ =>
    rw [hr]
    refine ⟨_, taken ((hsub.filter _).length_le.trans h.lock)
      ((hsub.filter _).length_le.trans h.closing) (.retired hc rfl ?_ ?_ hfree hu),
      Advances.of_ids rfl rfl rfl fun _ => hfree⟩
    · show (w.listeners i).length ≤ 1
      simp [hl]
    · show ∀ r ∈ w.listeners i, r.live = false
      simp [hl]
  | listening id hr hl _ _ _ =>
    rw [hr]
    have hfree' : Free (.unsubscribe id :: rest) := List.forall_mem_cons.mpr ⟨rfl, hfree⟩
    refine ⟨_, taken ?_ ?_ (.releasing id hc rfl hl hfree' (by simp [Pending.unsubscribing, hu])),
      Advances.of_ids rfl rfl rfl fun _ => hfree'⟩
    · have hl := h.lock
      simp only [List.filter_cons, Pending.holdsLock] at hl ⊢
      exact hl
    · have hcl := h.closing
      simp only [List.filter_cons, Pending.closes] at hcl ⊢
      exact hcl
  | releasing id _ _ _ _ hid =>
    have hid : rest.filterMap Pending.unsubscribing = [id] := hid
    simp [hu] at hid
  | retired _ hr hl hd _ _ =>
    rw [hr]
    exact ⟨_, taken ((hsub.filter _).length_le.trans h.lock)
      ((hsub.filter _).length_le.trans h.closing) (.retired hc rfl hl hd hfree hu),
      Advances.of_ids rfl rfl rfl fun _ => hfree⟩

theorem Stage.unsubscribed {id : Nat} (h : Stage w i s (.unsubscribe id :: rest))
    (hd : ∀ r ∈ w.listeners i, r.live = false) : Stage w i s rest := by
  cases h with
  | releasing id' hc hr hl hf hu =>
    have hlen := congrArg List.length hl
    simp only [List.length_map, List.length_singleton] at hlen
    have hu : id :: rest.filterMap Pending.unsubscribing = [id'] := hu
    exact .retired hc hr hlen.le hd (fun q hq => hf q (List.mem_cons_of_mem _ hq))
      (List.cons.inj hu).2
  | idle _ _ hu _ | listening _ _ _ _ hu _ | retired _ _ _ _ _ hu =>
    simp [Pending.unsubscribing] at hu

theorem Lifecycle.unsubscribeStep {id : Nat} (h : Lifecycle ⟨w, .unsubscribe id :: rest⟩ i s) :
    ∃ s', Lifecycle ⟨w.unsubscribeRoute id, rest⟩ i s' ∧
      Advances ⟨w, .unsubscribe id :: rest⟩ ⟨w.unsubscribeRoute id, rest⟩ i s s' := by
  -- the route taken is the one route that listens for the stream
  have hl : (w.listeners i).map (·.id) = [id] := by
    cases h.stage with
    | releasing id' _ _ hl _ hu =>
      have hu : id :: rest.filterMap Pending.unsubscribing = [id'] := hu
      rw [hl, (List.cons.inj hu).1]
    | idle _ _ hu _ | listening _ _ _ _ hu _ | retired _ _ _ _ _ hu =>
      simp [Pending.unsubscribing] at hu
  obtain ⟨s', h', ha⟩ := h.calm (unsubscribeRoute_calm w id)
  exact ⟨s', h'.leave (h'.stage.unsubscribed (unsubscribeRoute_silences hl)),
    ha.trans (Advances.drop _ i s' _ rest)⟩

/-- Every call in flight goes on keeping the invariant, one waiting for the lock when no other
call holds it. -/
theorem Lifecycle.resume {p : Pending} {r : Resumed} (h : Lifecycle ⟨w, p :: rest⟩ i s)
    (hlock : p.needsLock = true → Free rest) (hr : w.resume i p = some r) :
    ∃ s', Lifecycle (r.into rest) i s' ∧ Advances ⟨w, p :: rest⟩ (r.into rest) i s s' := by
  cases p with
  | lock request =>
    cases hr
    exact h.lockStep (hlock rfl)
  | subscribe request =>
    cases hr
    exact h.subscribeStep
  | enqueue svc m =>
    obtain ⟨⟨w', o⟩, hoffer, rfl⟩ := Option.map_eq_some_iff.mp hr
    exact h.finish rfl (offer_calm hoffer)
  | take =>
    cases hr
    exact h.takeStep (hlock rfl)
  | unsubscribe id =>
    cases hr
    exact h.unsubscribeStep
  | receive shape =>
    obtain ⟨⟨w', o⟩, hcheck, rfl⟩ := Option.map_eq_some_iff.mp hr
    exact h.finish rfl (check_calm hcheck)

end Resumes

/-! ## Every run keeps the invariant -/

theorem Advances.perm {w : World} {calls calls' : List Pending} {f' : Flight} {i : Nat}
    {s s' : CallStream} (h : Advances ⟨w, calls⟩ f' i s s') (hp : calls'.Perm calls) :
    Advances ⟨w, calls'⟩ f' i s s' :=
  ⟨h.closed, h.sendClosed, h.listeners,
    fun hc hf => h.sealed hc fun q hq => hf q (hp.mem_iff.mpr hq)⟩

/-- One step of any kind keeps the invariant. -/
theorem Lifecycle.step {f f' : Flight} {i : Nat} {s : CallStream} (h : Lifecycle f i s)
    (hs : Flight.Step i f f') : ∃ s', Lifecycle f' i s' ∧ Advances f f' i s s' := by
  cases hs with
  | start w calls c => exact h.start c
  | resume hlock hr =>
    -- the call goes on as if it stood first among those in flight
    obtain ⟨s', h', ha⟩ := (h.perm List.perm_middle).resume hlock hr
    exact ⟨s', h', ha.perm List.perm_middle⟩
  | world calls hc => exact h.calm hc

/-- Every run, in any interleaving of calls and the world's tasks, keeps the invariant; the
induction is on the run, one step at a time. -/
theorem Lifecycle.reaches {f f' : Flight} {i : Nat} {s : CallStream} (h : Lifecycle f i s)
    (hr : Flight.Reaches i f f') : ∃ s', Lifecycle f' i s' ∧ Advances f f' i s s' := by
  induction hr with
  | refl => exact ⟨s, h, Advances.refl f i s⟩
  | tail _ hstep ih =>
    obtain ⟨s₁, h₁, ha₁⟩ := ih
    obtain ⟨s₂, h₂, ha₂⟩ := h₁.step hstep
    exact ⟨s₂, h₂, ha₁.trans ha₂⟩

/-! ## The laws of a client stream -/

section Laws

variable {w : World} {f : Flight} {i : Nat} {s : CallStream}

/-- Once the close that set the flags has ended, the stream is retired: it holds no route, none
listens for it, and no call holds the lock. -/
theorem Lifecycle.retired (h : Lifecycle f i s) (ht : s.tornDown = true)
    (hnone : ∀ p ∈ f.calls, p.closes = false) :
    s.route = none ∧ (∀ r ∈ f.world.listeners i, r.live = false) ∧ Free f.calls := by
  have hc : s.closed = true := h.tornDown.symm.trans ht
  have hnt : ¬Taking f.calls := fun ⟨p, hp, htk⟩ => by
    simp [Pending.isTake_of_closes (hnone p hp)] at htk
  cases h.stage with
  | idle _ _ _ htk => exact absurd (htk hc) hnt
  | listening _ _ _ _ _ htk => exact absurd (htk hc) hnt
  | releasing id _ _ _ _ hu =>
    -- a close still unsubscribing is in flight
    have hmem : id ∈ f.calls.filterMap Pending.unsubscribing := by simp [hu]
    obtain ⟨p, hp, hpu⟩ := List.mem_filterMap.mp hmem
    simp [Pending.unsubscribing_of_closes (hnone p hp)] at hpu
  | retired _ hr _ hd hf _ => exact ⟨hr, hd, hf⟩

theorem startSubscriber_of_sendClosed (hs : w.stream? i = some s) (hsc : s.sendClosed = true)
    (request : Option Json.Value) :
    w.startSubscriber i request = .done w (.callFailure .sendClosed) := by
  simp [startSubscriber, sendRefusal, hs, hsc]

theorem resume_receive_of_closed (hs : w.stream? i = some s) (hc : s.closed = true)
    (shape : Shape) : w.resume i (.receive shape) = some (.done w (.callFailure .streamClosed)) := by
  simp [resume, check, hs, hc]

theorem startClose_of_tornDown (hs : w.stream? i = some s) (ht : s.tornDown = true) :
    w.startClose i = .done w .done := by
  simp [startClose, hs, ht]

/-- A close cancels the stream's own context, never its parent's. -/
theorem Lifecycle.closeFlags_parent (h : Lifecycle f i s) :
    (f.world.closeFlags i s).cancelled s.parent.token = f.world.cancelled s.parent.token :=
  cancelled_cancel_of_lt (show (f.world.modifyStream i fun s =>
    { s with tornDown := true, sendClosed := true, closed := true }).tokens.Older from h.forest)
    h.older

/-- Dropped with no call in flight, a stream leaves at most one route listening; a live one goes
to a release task, which retires it; once closed, there is nothing to release. -/
theorem Lifecycle.dropped (h : Lifecycle ⟨w, []⟩ i s) :
    ((w.dropStream i).listeners i).length ≤ 1 ∧
      (∀ r ∈ w.listeners i, r.live = true → Task.release r.id ∈ (w.dropStream i).ready ∧
        ∀ r' ∈ ((w.dropStream i).poll (.release r.id)).listeners i, r'.live = false) ∧
      (s.tornDown = true → (w.dropStream i).ready = w.ready) := by
  refine ⟨by rw [listeners_dropStream]; exact h.stage.length_le, fun r hr hlive => ?_,
    fun ht => dropStream_ready h.stream (h.retired ht (by simp)).1⟩
  -- a live listener is the route the stream listens on
  cases h.stage with
  | idle _ hl _ _ => simp [hl] at hr
  | listening id hroute hl _ _ _ =>
    rw [id_of_listeners hl hr]
    refine ⟨release_mem_dropStream h.stream hroute, unsubscribeRoute_silences ?_⟩
    rw [listeners_dropStream]
    exact hl
  | releasing _ _ _ _ _ hu => simp at hu
  | retired _ _ _ hd _ _ => simp [hd r hr] at hlive

end Laws

/-- The laws of client stream `i` at a flight `f` that steps led to from `f₀`. -/
structure StreamLaws (i : Nat) (f₀ f : Flight) : Prop where
  /-- No route that listened for the stream is lost, and none is put before them. -/
  kept : (f₀.world.listeners i).map (·.id) <+: (f.world.listeners i).map (·.id)
  /-- At most one route listens for the stream, and one party at most holds it to unsubscribe:
  the stream or the close that took it. -/
  single : (f.world.listeners i).length ≤ 1 ∧ ∀ s, f.world.stream? i = some s →
    (s.route.toList ++ f.calls.filterMap Pending.unsubscribing).length ≤ 1
  /-- Once the close that set the flags has ended, the stream holds no route and none listens
  for it, and no later step, in any interleaving, makes another. -/
  closed : ∀ s, f.world.stream? i = some s → s.tornDown = true →
    (∀ p ∈ f.calls, p.closes = false) →
    s.route = none ∧ (∀ r ∈ f.world.listeners i, r.live = false) ∧
      ∀ f', Flight.Reaches i f f' → (f'.world.listeners i).map (·.id) = (f.world.listeners i).map (·.id)
  /-- A close that comes once the flags are set, while the first close may still be in flight,
  ends at once and leaves the world as it was. -/
  closeOnce : ∀ s, f.world.stream? i = some s → s.tornDown = true →
    StreamCall.close.start i f.world = .done f.world .done
  /-- After `closeSend` or `close`, a send or a listen ends at once in `SendClosed` and leaves
  the world as it was. -/
  sendRefused : ∀ s, f.world.stream? i = some s → s.sendClosed = true → ∀ request,
    (StreamCall.send request).start i f.world = .done f.world (.callFailure .sendClosed) ∧
      StreamCall.listen.start i f.world = .done f.world (.callFailure .sendClosed)
  /-- After `close`, every receive, one already waiting included, ends in `StreamClosed` and
  leaves the world as it was. -/
  receiveRefused : ∀ s, f.world.stream? i = some s → s.closed = true → ∀ shape,
    f.world.resume i (.receive shape) = some (.done f.world (.callFailure .streamClosed))
  /-- Cancelling the stream's context, by itself or by a close, leaves its parent's as it was. -/
  parentKept : ∀ s, f.world.stream? i = some s →
    (f.world.cancel s.context.token).cancelled s.parent.token = f.world.cancelled s.parent.token ∧
      (f.world.closeFlags i s).cancelled s.parent.token = f.world.cancelled s.parent.token
  /-- Dropped with no call in flight, the stream leaves at most one route listening; a live one
  goes to a release task, which retires it; once closed, there is nothing to release. -/
  dropped : f.calls = [] →
    ((f.world.dropStream i).listeners i).length ≤ 1 ∧
      (∀ r ∈ f.world.listeners i, r.live = true → Task.release r.id ∈ (f.world.dropStream i).ready ∧
        ∀ r' ∈ ((f.world.dropStream i).poll (.release r.id)).listeners i, r'.live = false) ∧
      (∀ s, f.world.stream? i = some s → s.tornDown = true →
        (f.world.dropStream i).ready = f.world.ready)

/-- A stream just opened, on a fresh index that no route listens for, stands idle. -/
theorem openStream_lifecycle {w w' : World} {svc : Nat} {remote : Remote} {parent : Context}
    {path : String} {i : Nat} (h : w.openStream svc remote parent path = .ok (w', i))
    (hforest : w.tokens.Older) (hparent : parent.token < w.tokens.parents.size)
    (hfree : w.listeners w.streams.size = []) : ∃ s, Lifecycle ⟨w', []⟩ i s := by
  unfold openStream at h
  split at h
  · cases h
  · dsimp only at h
    simp only [Except.ok.injEq, Prod.mk.injEq] at h
    obtain ⟨rfl, rfl⟩ := h
    exact ⟨_, ⟨Array.getElem?_push_size, rfl, rfl, fun h => h, hparent, hforest.fresh hparent,
      by simp, by simp, fun _ _ h => absurd h List.not_mem_nil,
      .idle rfl hfree rfl fun h => nomatch h⟩⟩

theorem openStream_ok (w : World) (svc : Nat) {remote : Remote} (parent : Context) {path : String}
    {subject : Subject} (h : remote.subjectFor path = .ok subject) :
    ∃ w₀, w.openStream svc remote parent path = .ok (w₀, w.streams.size) := by
  unfold openStream
  rw [h]
  exact ⟨_, rfl⟩

/-- The life of a client stream: opened on a fresh index under a context of the world's token
forest, it keeps its laws along every run of calls started and resumed in any order, each
waiting at its await points, interleaved with the world's own tasks. -/
theorem client_stream_laws {w w₀ : World} {svc : Nat} {remote : Remote} {parent : Context}
    {path : String} {i : Nat} (hopen : w.openStream svc remote parent path = .ok (w₀, i))
    (hforest : w.tokens.Older) (hparent : parent.token < w.tokens.parents.size)
    (hfree : w.listeners w.streams.size = []) (f : Flight) (hf : Flight.Reaches i ⟨w₀, []⟩ f) :
    StreamLaws i ⟨w₀, []⟩ f := by
  obtain ⟨s₀, h₀⟩ := openStream_lifecycle hopen hforest hparent hfree
  obtain ⟨s, h, ha⟩ := h₀.reaches hf
  -- every law is about the one stream at index `i`
  have hs : ∀ s', f.world.stream? i = some s' → s' = s := fun s' hs' =>
    Option.some.inj (hs'.symm.trans h.stream)
  refine ⟨ha.listeners, ⟨h.stage.length_le, fun s' hs' => ?_⟩, fun s' hs' ht hnone => ?_,
    fun s' hs' ht => ?_, fun s' hs' hsc request => ?_, fun s' hs' hc shape => ?_,
    fun s' hs' => ?_, fun hnil => ?_⟩
  · rw [hs s' hs']
    exact h.stage.owners_le
  · obtain rfl := hs s' hs'
    obtain ⟨hr, hd, hfree'⟩ := h.retired ht hnone
    refine ⟨hr, hd, fun f' hf' => ?_⟩
    obtain ⟨_, _, ha'⟩ := h.reaches hf'
    exact (ha'.sealed (h.tornDown.symm.trans ht) hfree').1
  · exact startClose_of_tornDown hs' ht
  · exact ⟨startSubscriber_of_sendClosed hs' hsc _, startSubscriber_of_sendClosed hs' hsc _⟩
  · exact resume_receive_of_closed hs' hc shape
  · obtain rfl := hs s' hs'
    exact ⟨cancelled_cancel_of_lt h.forest h.older, h.closeFlags_parent⟩
  · obtain ⟨world, calls⟩ := f
    cases hnil
    obtain ⟨hlen, hrel, hready⟩ := h.dropped
    exact ⟨hlen, hrel, fun s' hs' ht => hready (hs s' hs' ▸ ht)⟩

/-- A stream of the sample service's `Test` method, opened under the caller's context in a world
that holds that context's token alone; a listen starts and waits for the lock, and a close starts
meanwhile. -/
theorem sample_stream_laws :
    let remote : Remote :=
      { registry := ⟨[(ServiceDescriptor.sample.fullName, ServiceDescriptor.sample)]⟩,
        pre := "test_prefix.server" }
    let w : World := { tokens := ⟨#[none], #[false]⟩ }
    ∃ w₀, w.openStream 0 remote { token := 0 } "/types.rpc.TestService/Test" = .ok (w₀, 0) ∧
      let f₁ := (StreamCall.listen.start 0 w₀).into []
      let f₂ := (StreamCall.close.start 0 f₁.world).into f₁.calls
      Flight.Reaches 0 ⟨w₀, []⟩ f₂ ∧ StreamLaws 0 ⟨w₀, []⟩ f₂ := by
  intro remote w
  have hsubject : remote.subjectFor "/types.rpc.TestService/Test" =
      .ok ⟨"test_prefix.server.override.test.override.test.method"⟩ := by
    decide +kernel
  obtain ⟨w₀, hopen⟩ := openStream_ok w 0 { token := 0 } hsubject
  have hforest : w.tokens.Older := by
    intro k p hp
    rcases k with _ | k <;> simp_all [w]
  have hrun : Flight.Reaches 0 ⟨w₀, []⟩ ((StreamCall.close.start 0
      ((StreamCall.listen.start 0 w₀).into []).world).into
      ((StreamCall.listen.start 0 w₀).into []).calls) :=
    .tail (.single (.start _ _ _)) (.start _ _ _)
  exact ⟨w₀, hopen, hrun, client_stream_laws hopen hforest (by decide) rfl _ hrun⟩

/-! ## A call on its own

Run alone, with no other call in flight and no task of the world between its steps, a listen and
a close end as the script's calls do. -/

/-- A listen run on its own is `listen`. -/
theorem listen_alone (w : World) (i : Nat) :
    (StreamCall.listen.start i w).alone i 2 = .done (w.listen i).1 (w.listen i).2 := by
  simp only [StreamCall.start, startSubscriber, listen]
  cases hs : w.stream? i with
  | none => rfl
  | some s =>
    dsimp only
    cases w.sendRefusal s with
    | some e => rfl
    | none =>
      simp only [Option.isSome_none, Bool.false_and, Bool.false_eq_true, if_false, Resumed.alone,
        resume, lockStep, listenOn, hs]
      cases s.closed with
      | true => rfl
      | false =>
        cases s.route with
        | some id => rfl
        | none =>
          simp only [Bool.false_eq_true, if_false, Resumed.alone, resume, subscribeStep, hs]
          cases w.subscribeReply i s <;> rfl

/-- A close run on its own is `closeStream`. -/
theorem closeStream_alone (w : World) (i : Nat) :
    (StreamCall.close.start i w).alone i 2 = .done (w.closeStream i) .done := by
  simp only [StreamCall.start, startClose, closeStream]
  cases hs : w.stream? i with
  | none => rfl
  | some s =>
    dsimp only
    cases s.tornDown with
    | true => rfl
    | false =>
      simp only [Bool.false_eq_true, if_false, Resumed.alone, resume, takeStep]
      cases (w.closeFlags i s).takeRoute i with
      | mk w' route => cases route <;> rfl

end World

end Runtime

end Courier
