import Courier.Proofs.Registration

/-!
# The publish queue

A service's envelopes wait in its publish queue until its run loop hands them to the bus. An
enqueue appends an envelope when the queue has room, fails with `cancelled` once the service's
shutdown token is cancelled and with `publishQueueClosed` once the queue has been dropped, and
otherwise waits (`offer_cases`). The loop takes the queue's oldest envelope first; it stops, and
drops the queue, once the service is cancelled (`pollLoopSends_live`, `pollLoopSends_cancelled`).

`Line` is what holds of one service's queue along any interleaving of enqueues, starts,
cancellations, turns of the ready tasks and ticks of the clock (`QueueEvent`): the envelopes the
loop has handed to the bus are the first of those whose enqueue succeeded, in order, and while
the queue is open they are followed by the queue itself; nothing is handed over before the
service starts; the queue never holds more than its size (`line_run`, `publish_queue_fifo`).

A start that fails leaves the service started with its queue dropped for good
(`failed_service_start_closes_queue`).
-/

namespace Courier.Runtime

open Bus Bus.Table

theorem Runner.fields_of_gear {r₁ r₂ : Runner} (h : r₁.gear = r₂.gear) :
    r₁.service = r₂.service ∧ r₁.shutdown = r₂.shutdown ∧ r₁.queue = r₂.queue ∧
      r₁.receiver = r₂.receiver ∧ r₁.loop = r₂.loop ∧ r₁.ping = r₂.ping :=
  ⟨(congrArg Runner.service h :), (congrArg Runner.shutdown h :), (congrArg Runner.queue h :),
    (congrArg Runner.receiver h :), (congrArg Runner.loop h :), (congrArg Runner.ping h :)⟩

namespace World

/-! ## Runners -/

@[simp]
theorem runner?_modifyRunner_self (w : World) (svc : Nat) (f : Runner → Runner) :
    (w.modifyRunner svc f).runner? svc = (w.runner? svc).map f := by
  simp [runner?, modifyRunner, Array.getElem?_modify]

theorem runner?_modifyRunner_ne (w : World) {svc i : Nat} (f : Runner → Runner) (h : i ≠ svc) :
    (w.modifyRunner svc f).runner? i = w.runner? i := by
  simp [runner?, modifyRunner, Array.getElem?_modify, Ne.symm h]

theorem Quiet.runner?_gear {w w' : World} (h : Quiet w w') (svc : Nat) :
    (w'.runner? svc).map Runner.gear = (w.runner? svc).map Runner.gear := by
  simpa only [runner?, Array.getElem?_map] using congrArg (·[svc]?) h.gear

@[simp]
theorem runner?_unsubscribeRoute (w : World) (id i : Nat) :
    (w.unsubscribeRoute id).runner? i = w.runner? i := rfl

@[simp]
theorem runner?_wake (w : World) (t : Task) (i : Nat) : (w.wake t).runner? i = w.runner? i := by
  simp [runner?]

theorem runner?_stopLoop {w : World} {svc : Nat} {r : Runner} (hr : w.runner? svc = some r) :
    (w.stopLoop svc).runner? svc =
      some { r with queue := [], receiver := .dropped, loop := .finished } := by
  unfold stopLoop
  rw [hr]
  dsimp only
  split <;> simp [hr]

/-! ## The envelopes a loop hands to the bus -/

/-- A service's loop, as `pollLoop` runs it, with the queued envelopes it hands to the bus in
the order it hands them. -/
def pollLoopSends (w : World) (svc : Nat) : Nat → World × List Message
  | 0 => (w, [])
  | fuel + 1 =>
    match w.runner? svc with
    | none => (w, [])
    | some r =>
      match r.loop with
      | .running tick =>
        if w.cancelled r.shutdown then (w.stopLoop svc, [])
        else match r.queue with
          | m :: rest =>
            let w := w.modifyRunner svc fun r => { r with queue := rest }
            let p := pollLoopSends (w.attempt (w.publishNow svc m)) svc fuel
            (p.1, m :: p.2)
          | [] =>
            if tick ≤ w.now then
              let period := r.service.options.telemetryPeriodMs
              let w := w.modifyRunner svc fun r => { r with loop := .running (tick + period) }
              pollLoopSends (w.report svc) svc fuel
            else (w, [])
      | _ => (w, [])

theorem pollLoopSends_fst (w : World) (svc fuel : Nat) :
    (w.pollLoopSends svc fuel).1 = w.pollLoop svc fuel := by
  induction fuel generalizing w with
  | zero => rfl
  | succ fuel ih =>
    unfold pollLoopSends pollLoop
    cases w.runner? svc with
    | none => rfl
    | some r =>
      dsimp only
      cases r.loop with
      | running tick =>
        dsimp only
        split
        · rfl
        · cases r.queue with
          | cons m rest => exact ih _
          | nil =>
            dsimp only
            split
            · exact ih _
            · rfl
      | idle => rfl
      | finished => rfl

theorem pollLoopSends_idle {w : World} {svc : Nat} {r : Runner} (hr : w.runner? svc = some r)
    (hl : ∀ t, r.loop ≠ .running t) (fuel : Nat) : w.pollLoopSends svc fuel = (w, []) := by
  cases fuel with
  | zero => rfl
  | succ fuel =>
    unfold pollLoopSends
    rw [hr]
    dsimp only
    split
    · next t h => exact absurd h (hl t)
    · rfl

/-- A running loop of a cancelled service stops at once, handing nothing over. -/
theorem pollLoopSends_cancelled {w : World} {svc : Nat} {r : Runner} {tick : Nat}
    (hr : w.runner? svc = some r) (hl : r.loop = .running tick)
    (hc : w.cancelled r.shutdown = true) (fuel : Nat) :
    w.pollLoopSends svc (fuel + 1) = (w.stopLoop svc, []) := by
  unfold pollLoopSends
  rw [hr]
  dsimp only
  rw [hl]
  dsimp only
  rw [if_pos hc]

/-- A running loop of a live service hands over its queue's oldest envelopes, in order, and
keeps the rest queued; it keeps running and leaves the receiving end where it is. -/
theorem pollLoopSends_live {w : World} {svc : Nat} {r : Runner} {tick : Nat}
    (hr : w.runner? svc = some r) (hl : r.loop = .running tick)
    (hc : w.cancelled r.shutdown = false) (fuel : Nat) :
    ∃ r', (w.pollLoopSends svc fuel).1.runner? svc = some r' ∧ r'.service = r.service ∧
      r'.shutdown = r.shutdown ∧ r'.receiver = r.receiver ∧
      (w.pollLoopSends svc fuel).2 ++ r'.queue = r.queue ∧ ∃ t, r'.loop = .running t := by
  induction fuel generalizing w r tick with
  | zero => exact ⟨r, hr, rfl, rfl, rfl, rfl, tick, hl⟩
  | succ fuel ih =>
    -- each pass changes the runner as it says, then calls effects that leave its gear
    have hnext : ∀ (v : World) (f : Runner → Runner), Quiet (w.modifyRunner svc f) v →
        ∃ r₁, v.runner? svc = some r₁ ∧ r₁.gear = (f r).gear ∧ v.cancelled r.shutdown = false := by
      intro v f hq
      have hgear := hq.runner?_gear svc
      rw [runner?_modifyRunner_self, hr] at hgear
      obtain ⟨r₁, hr₁, hg₁⟩ := Option.map_eq_some_iff.mp hgear
      exact ⟨r₁, hr₁, hg₁, by simpa [cancelled, hq.tokens, modifyRunner] using hc⟩
    unfold pollLoopSends
    rw [hr]
    dsimp only
    rw [hl]
    dsimp only
    rw [if_neg (by simp [hc])]
    split
    · -- the oldest envelope goes to the bus
      next m rest hq =>
      obtain ⟨r₁, hr₁, hg₁, hc₁⟩ := hnext _ (fun r => { r with queue := rest })
        (handlerClosed_quiet.attempt fun _ => handlerClosed_quiet.publishNow)
      obtain ⟨hs₁, hsh₁, hq₁, hrec₁, hl₁, -⟩ := Runner.fields_of_gear hg₁
      obtain ⟨r', hr', hs, hsh, hrec, hsent, hl'⟩ :=
        ih hr₁ (hl₁.trans hl) (hsh₁ ▸ hc₁)
      refine ⟨r', hr', hs.trans hs₁, hsh.trans hsh₁, hrec.trans hrec₁, ?_, hl'⟩
      rw [List.cons_append, hsent, hq₁, hq]
    · split
      · -- a report is due
        obtain ⟨r₁, hr₁, hg₁, hc₁⟩ := hnext _
          (fun r₀ => { r₀ with loop := .running (tick + r.service.options.telemetryPeriodMs) })
          (quiet_report _ svc)
        obtain ⟨hs₁, hsh₁, hq₁, hrec₁, hl₁, -⟩ := Runner.fields_of_gear hg₁
        obtain ⟨r', hr', hs, hsh, hrec, hsent, hl'⟩ := ih hr₁ hl₁ (hsh₁ ▸ hc₁)
        exact ⟨r', hr', hs.trans hs₁, hsh.trans hsh₁, hrec.trans hrec₁, hsent.trans hq₁, hl'⟩
      · exact ⟨r, hr, rfl, rfl, rfl, rfl, tick, hl⟩

/-! ## Enqueues and starts -/

theorem modifyRunner_modifyRunner (w : World) (svc : Nat) (f g : Runner → Runner) :
    (w.modifyRunner svc f).modifyRunner svc g = w.modifyRunner svc (g ∘ f) := by
  unfold modifyRunner
  congr 1
  apply Array.ext_getElem?
  intro i
  simp only [Array.getElem?_modify]
  split <;> simp [Option.map_map]

/-- An enqueue tried once the service's shutdown token is cancelled fails with `cancelled` and
changes nothing. -/
theorem offer_cancelled {w : World} {svc : Nat} {r : Runner} (hr : w.runner? svc = some r)
    (hc : w.cancelled r.shutdown = true) (m : Message) :
    w.offer svc m = some (w, .serviceFailure .cancelled) := by
  simp [offer, hr, hc]

/-- An enqueue into a dropped queue of a live service fails with `publishQueueClosed` and
changes nothing. -/
theorem offer_dropped {w : World} {svc : Nat} {r : Runner} (hr : w.runner? svc = some r)
    (hc : w.cancelled r.shutdown = false) (hd : r.receiver = .dropped) (m : Message) :
    w.offer svc m = some (w, .serviceFailure .publishQueueClosed) := by
  simp [offer, hr, hc, hd]

/-- What an enqueue does when it does not wait: it fails and changes nothing, or, for a live
service whose queue is open and has room, appends the envelope and wakes the loop. -/
theorem offer_cases {w w' : World} {svc : Nat} {m : Message} {o : Outcome}
    (h : w.offer svc m = some (w', o)) :
    (w' = w ∧ ∃ e, o = .serviceFailure e) ∨
      ∃ r, w.runner? svc = some r ∧ w.cancelled r.shutdown = false ∧ r.receiver ≠ .dropped ∧
        r.queue.length < r.service.options.publishQueueSize ∧ o = .done ∧
        w'.runner? svc = some { r with queue := r.queue ++ [m] } ∧
        ∀ i, i ≠ svc → w'.runner? i = w.runner? i := by
  unfold offer at h
  split at h
  · cases h
    exact .inl ⟨rfl, _, rfl⟩
  · next r hr =>
    split at h
    · cases h
      exact .inl ⟨rfl, _, rfl⟩
    · next hc =>
      split at h
      · cases h
        exact .inl ⟨rfl, _, rfl⟩
      · next hd =>
        split at h
        · next hroom =>
          -- the envelope is appended, and a running loop is woken
          simp only [Option.some.injEq, Prod.mk.injEq] at h
          obtain ⟨rfl, rfl⟩ := h
          refine .inr ⟨r, hr, by simpa using hc, hd, hroom, rfl, ?_, fun i hi => ?_⟩
          · split <;> simp [hr]
          · split <;> simp [runner?_modifyRunner_ne _ _ hi]
        · cases h

/-- An enqueue waits only while a live service's open queue is full. -/
theorem offer_none {w : World} {svc : Nat} {m : Message} (h : w.offer svc m = none) :
    ∃ r, w.runner? svc = some r ∧ w.cancelled r.shutdown = false ∧ r.receiver ≠ .dropped ∧
      r.service.options.publishQueueSize ≤ r.queue.length := by
  unfold offer at h
  split at h
  · cases h
  · next r hr =>
    split at h
    · cases h
    · next hc =>
      split at h
      · cases h
      · next hd =>
        split at h
        · cases h
        · next hfull => exact ⟨r, hr, by simpa using hc, hd, by omega⟩

theorem subscribeTo_invalid {w : World} {svc : Nat} {subject : Subject} {duty : Duty}
    {ve : SubjectError} (hve : subject.validate = .error ve) :
    w.subscribeTo svc subject duty = .error (.transport ve.message) := by
  unfold subscribeTo subscribeRoute Bus.Table.add
  rw [hve]
  rfl

theorem subscribeTo_error {w : World} {svc : Nat} {subject : Subject} {duty : Duty}
    {e : ServiceError} (h : w.subscribeTo svc subject duty = .error e) :
    ∃ ve, subject.validate = .error ve ∧ e = .transport ve.message := by
  cases hv : subject.validate with
  | error ve =>
    rw [subscribeTo_invalid hv] at h
    cases h
    exact ⟨ve, rfl, rfl⟩
  | ok u =>
    unfold subscribeTo subscribeRoute Bus.Table.add at h
    rw [hv] at h
    cases h

/-- A start of a service that has not started takes the receiving end of its queue and
subscribes its ping route; when the bus refuses that, the start fails and drops the queue,
changing nothing else. -/
theorem start_eq_failure {w w' : World} {svc : Nat} {r : Runner} {e : ServiceError}
    (hr : w.runner? svc = some r) (hheld : r.receiver = .held) :
    w.start svc = (w', .serviceFailure e) ↔
      (∃ ve, (r.service.subject ["telemetry", "ping"]).validate = .error ve ∧
        e = .transport ve.message) ∧
      w' = w.modifyRunner svc fun r => { r with receiver := .dropped, queue := [] } := by
  unfold start
  rw [hr]
  dsimp only
  rw [hheld]
  dsimp only
  split
  · next e' hsub =>
    obtain ⟨ve, hve, rfl⟩ := subscribeTo_error hsub
    rw [modifyRunner_modifyRunner]
    simp only [Prod.mk.injEq, Outcome.serviceFailure.injEq]
    constructor
    · rintro ⟨rfl, rfl⟩
      exact ⟨⟨ve, hve, rfl⟩, rfl⟩
    · rintro ⟨⟨ve', hve', rfl⟩, rfl⟩
      rw [hve] at hve'
      cases hve'
      exact ⟨rfl, rfl⟩
  · next w₁ id hsub =>
    simp only [Prod.mk.injEq, reduceCtorEq, and_false, false_iff, not_and]
    intro ⟨ve, hve, _⟩
    rw [subscribeTo_invalid hve] at hsub
    cases hsub

/-- A start changes no runner but its own. A start of a service that has not started either
fails and drops the queue, or takes the queue's receiving end and runs the loop. -/
theorem start_cases (w : World) (svc : Nat) :
    (w.start svc).1 = w ∨
      ∃ r, w.runner? svc = some r ∧ r.receiver = .held ∧
        (∀ i, i ≠ svc → (w.start svc).1.runner? i = w.runner? i) ∧
        ((w.start svc).1.runner? svc = some { r with receiver := .dropped, queue := [] } ∨
          ∃ r', (w.start svc).1.runner? svc = some r' ∧ r'.service = r.service ∧
            r'.queue = r.queue ∧ r'.receiver = .taken ∧ ∃ t, r'.loop = .running t) := by
  unfold start
  split
  · exact .inl rfl
  · next r hr =>
    split
    · next hheld =>
      refine .inr ⟨r, hr, hheld, ?_⟩
      dsimp only
      split
      · -- the ping route is refused
        exact ⟨fun i hi => by simp [runner?_modifyRunner_ne _ _ hi], .inl (by simp [hr])⟩
      · -- the ping route is subscribed and the loop runs
        next w₂ id hsub =>
        obtain ⟨rfl, rfl⟩ := subscribeTo_ok hsub
        refine ⟨fun i hi => ?_, .inr ⟨{ r with
            receiver := .taken
            ping := some w.bus.nextId
            loop := .running (w.now + r.service.options.telemetryPeriodMs)
            lastReport := w.now }, ?_, rfl, rfl, rfl, _, rfl⟩⟩
        · simp [runner?, modifyRunner, Array.getElem?_modify, Ne.symm hi]
        · have hr' : w.runners[svc]? = some r := hr
          simp [runner?, modifyRunner, Array.getElem?_modify, hr']
    · exact .inl rfl

theorem pollWatcher_runners (w : World) : w.pollWatcher.runners = w.runners := by
  unfold pollWatcher
  split
  · split
    · simp [foldl_unsubscribeRoute]
    · rfl
  · rfl

end World

/-! ## What a step does to a queue -/

/-- What one step may do to a service's runner, with the envelopes the step hands to the bus
and those whose enqueue it accepts. -/
inductive Runner.Moves : Runner → Runner → List Message → List Message → Prop
  /-- Nothing the queue depends on changes. -/
  | still {r r' : Runner} : r'.gear = r.gear → Runner.Moves r r' [] []
  /-- An enqueue appends its envelope to an open queue with room. -/
  | accept {r : Runner} {m : Message} : r.receiver ≠ .dropped →
      r.queue.length < r.service.options.publishQueueSize →
      Runner.Moves r { r with queue := r.queue ++ [m] } [] [m]
  /-- A start takes the receiving end and runs the loop. -/
  | start {r r' : Runner} : r.receiver = .held → r'.service = r.service → r'.queue = r.queue →
      r'.receiver = .taken → (∃ t, r'.loop = .running t) → Runner.Moves r r' [] []
  /-- A start that fails drops the queue. -/
  | fail {r : Runner} : r.receiver = .held →
      Runner.Moves r { r with receiver := .dropped, queue := [] } [] []
  /-- A running loop hands its oldest envelopes to the bus. -/
  | send {r r' : Runner} {sent : List Message} : (∃ t, r.loop = .running t) →
      r'.service = r.service → r'.receiver = r.receiver → sent ++ r'.queue = r.queue →
      (∃ t, r'.loop = .running t) → Runner.Moves r r' sent []
  /-- A running loop of a cancelled service stops and drops the queue. -/
  | stop {r : Runner} : (∃ t, r.loop = .running t) →
      Runner.Moves r { r with queue := [], receiver := .dropped, loop := .finished } [] []

namespace World

variable {w w' : World} {svc : Nat} {r : Runner}

theorem moves_of_gear (hr : w.runner? svc = some r)
    (hg : (w'.runner? svc).map Runner.gear = (w.runner? svc).map Runner.gear) :
    ∃ r', w'.runner? svc = some r' ∧ r.Moves r' [] [] := by
  rw [hr] at hg
  obtain ⟨r', hr', hg'⟩ := Option.map_eq_some_iff.mp hg
  exact ⟨r', hr', .still hg'⟩

theorem moves_of_runner (hr : w.runner? svc = some r) (h : w'.runner? svc = w.runner? svc) :
    ∃ r', w'.runner? svc = some r' ∧ r.Moves r' [] [] :=
  moves_of_gear hr (by rw [h])

@[simp]
theorem runner?_cancel (w : World) (k i : Nat) : (w.cancel k).runner? i = w.runner? i := by
  simp only [runner?, (cancel_woken w k).1.runners]

@[simp]
theorem runner?_fire (w : World) (t i : Nat) :
    ({ w with now := t }.fire t).runner? i = w.runner? i := by
  simp only [runner?, (fire_woken w t).runners]

theorem runner?_addService (w : World) (s : Service) :
    ∃ r, (w.addService s).1.runner? (w.addService s).2 = some r ∧ r.service = s ∧
      r.receiver = .held ∧ r.queue = [] ∧ r.loop = .idle :=
  ⟨{ service := s, shutdown := (w.tokens.fresh none).2, createdAt := w.now, lastReport := w.now },
    by simp [addService, runner?, freshToken], rfl, rfl, rfl, rfl⟩

theorem poll_runner?_gear (w : World) {t : Task} (ht : t ≠ .loop svc) :
    ((w.poll t).runner? svc).map Runner.gear = (w.runner? svc).map Runner.gear := by
  cases t with
  | route id => exact (handlerClosed_quiet.pollRoute w id).runner?_gear svc
  | loop i => exact (loopQuiet_pollLoop w i pollBudget).others svc fun h => ht (h ▸ rfl)
  | watcher => simp only [poll, runner?, pollWatcher_runners]
  | release id => rfl

theorem pollLoopSends_moves (hr : w.runner? svc = some r) :
    ∃ r', (w.pollLoopSends svc pollBudget).1.runner? svc = some r' ∧
      r.Moves r' (w.pollLoopSends svc pollBudget).2 [] := by
  cases hl : r.loop with
  | running tick =>
    cases hc : w.cancelled r.shutdown with
    | true =>
      -- the budget is not zero, so the loop looks at the cancellation
      rw [show pollBudget = 99999 + 1 from rfl, pollLoopSends_cancelled hr hl hc]
      exact ⟨_, runner?_stopLoop hr, .stop ⟨tick, hl⟩⟩
    | false =>
      obtain ⟨r', hr', hs, -, hrec, hsent, hl'⟩ := pollLoopSends_live hr hl hc pollBudget
      exact ⟨r', hr', .send ⟨tick, hl⟩ hs hrec hsent hl'⟩
  | idle | finished =>
    rw [pollLoopSends_idle hr (by simp [hl])]
    exact ⟨r, hr, .still rfl⟩

theorem start_moves (hr : w.runner? svc = some r) (i : Nat) :
    ∃ r', (w.start i).1.runner? svc = some r' ∧ r.Moves r' [] [] := by
  rcases start_cases w i with h | ⟨r₀, hr₀, hheld, hothers, hcase⟩
  · exact moves_of_runner hr (by rw [h])
  by_cases hi : svc = i
  · subst hi
    obtain rfl : r₀ = r := Option.some.inj (hr₀.symm.trans hr)
    rcases hcase with hfail | ⟨r', hr', hs, hq, hrec, hl⟩
    · exact ⟨_, hfail, .fail hheld⟩
    · exact ⟨r', hr', .start hheld hs hq hrec hl⟩
  · exact moves_of_runner hr (hothers svc hi)

end World

/-! ## One service's queue along a run -/

/-- What the envelopes of one service's queue went through: those whose enqueue succeeded, and
those the loop handed to the bus, each in order. -/
structure QueueLog where
  accepted : List Message := []
  published : List Message := []

/-- The log with envelopes handed to the bus and envelopes accepted added. -/
def QueueLog.record (log : QueueLog) (sent acc : List Message) : QueueLog :=
  { accepted := log.accepted ++ acc, published := log.published ++ sent }

@[simp]
theorem QueueLog.record_nil (log : QueueLog) : log.record [] [] = log := by
  simp [record]

@[simp]
theorem QueueLog.record_accepted (log : QueueLog) (sent acc : List Message) :
    (log.record sent acc).accepted = log.accepted ++ acc := rfl

@[simp]
theorem QueueLog.record_published (log : QueueLog) (sent acc : List Message) :
    (log.record sent acc).published = log.published ++ sent := rfl

namespace Runner

/-- What holds of a service's queue and its log along every run: what the loop handed to the bus
is a prefix of what was accepted, and while the queue is open the queue holds the rest; nothing
is handed over before the start; only a loop that holds the receiving end runs; a dropped queue
is empty; the queue never outgrows its size. -/
structure Line (r : Runner) (log : QueueLog) : Prop where
  sent : log.published <+: log.accepted
  flowing : r.receiver ≠ .dropped → log.published ++ r.queue = log.accepted
  unstarted : r.receiver = .held → log.published = []
  running : ∀ t, r.loop = .running t → r.receiver = .taken
  closed : r.receiver = .dropped → r.queue = []
  bounded : r.queue.length ≤ r.service.options.publishQueueSize

theorem Line.fresh {r : Runner} (hheld : r.receiver = .held) (hq : r.queue = [])
    (hl : r.loop = .idle) : r.Line {} where
  sent := List.prefix_refl []
  flowing _ := by simp [hq]
  unstarted _ := rfl
  running t h := absurd (hl.symm.trans h) nofun
  closed h := absurd (hheld.symm.trans h) nofun
  bounded := by simp [hq]

theorem Line.of_gear {r r' : Runner} {log : QueueLog} (h : r.Line log) (hg : r'.gear = r.gear) :
    r'.Line log := by
  obtain ⟨hs, -, hq, hrec, hl, -⟩ := Runner.fields_of_gear hg
  exact ⟨h.sent, hrec ▸ hq ▸ h.flowing, hrec ▸ h.unstarted, hrec ▸ hl ▸ h.running,
    hrec ▸ hq ▸ h.closed, hs ▸ hq ▸ h.bounded⟩

theorem Line.moves {r r' : Runner} {sent acc : List Message} {log : QueueLog} (h : r.Line log)
    (hm : r.Moves r' sent acc) : r'.Line (log.record sent acc) := by
  cases hm with
  | still hg => simpa using h.of_gear hg
  | accept hnd hroom =>
    refine ⟨by simpa using h.sent.trans (List.prefix_append _ [_]), fun _ => ?_,
      by simpa using h.unstarted, h.running, fun hd => absurd hd hnd,
      by simpa using Nat.succ_le_of_lt hroom⟩
    simp [← h.flowing hnd]
  | start hheld hs hq hrec hl =>
    simp only [QueueLog.record_nil]
    exact ⟨h.sent, fun _ => hq ▸ h.flowing (by simp [hheld]),
      fun hh => absurd (hrec.symm.trans hh) nofun,
      fun _ _ => hrec, fun hd => absurd (hrec.symm.trans hd) nofun, hs ▸ hq ▸ h.bounded⟩
  | fail hheld =>
    simp only [QueueLog.record_nil]
    refine ⟨h.sent, fun hd => absurd rfl hd, nofun, fun t ht => ?_, fun _ => rfl, by simp⟩
    -- a loop runs only once the queue is taken, and this one was still held
    exact absurd (hheld.symm.trans (h.running t ht)) nofun
  | send hrun hs hrec hsent _ =>
    obtain ⟨t, ht⟩ := hrun
    have htaken := h.running t ht
    have hflow := h.flowing (by simp [htaken])
    rw [← hsent, ← List.append_assoc] at hflow
    refine ⟨⟨_, by simpa using hflow⟩, fun _ => by simpa using hflow,
      fun hh => absurd (hrec.trans htaken ▸ hh) nofun, fun _ _ => hrec.trans htaken,
      fun hd => absurd (hrec.trans htaken ▸ hd) nofun, ?_⟩
    calc r'.queue.length ≤ (sent ++ r'.queue).length := by simp
      _ = r.queue.length := by rw [hsent]
      _ ≤ _ := hs ▸ h.bounded
  | stop _ =>
    simp only [QueueLog.record_nil]
    exact ⟨h.sent, fun hd => absurd rfl hd, nofun, nofun, fun _ => rfl, by simp⟩

theorem Moves.service {r r' : Runner} {sent acc : List Message} (hm : r.Moves r' sent acc) :
    r'.service = r.service := by
  cases hm with
  | still hg => exact (Runner.fields_of_gear hg).1
  | start _ hs | send _ hs => exact hs
  | accept | fail | stop => rfl

/-- A queue dropped for good: nobody holds its receiving end and it is empty. -/
def Closed (r : Runner) : Prop := r.receiver = .dropped ∧ r.queue = []

theorem Closed.moves {r r' : Runner} {sent acc : List Message} (h : r.Closed)
    (hm : r.Moves r' sent acc) : r'.Closed ∧ sent = [] ∧ acc = [] := by
  obtain ⟨hd, hq⟩ := h
  cases hm with
  | still hg =>
    obtain ⟨-, -, hq', hrec, -⟩ := Runner.fields_of_gear hg
    exact ⟨⟨hrec.trans hd, hq'.trans hq⟩, rfl, rfl⟩
  | accept hnd => exact absurd hd hnd
  | start hheld | fail hheld => exact absurd (hheld.symm.trans hd) nofun
  | send _ _ hrec hsent =>
    rw [hq, List.append_eq_nil_iff] at hsent
    exact ⟨⟨hrec.trans hd, hsent.2⟩, hsent.1, rfl⟩
  | stop => exact ⟨⟨rfl, rfl⟩, rfl, rfl⟩

end Runner

/-- What may happen around the services' queues: an enqueue tried by any task, a start, the
cancellation of a token, a turn of the ready tasks and a tick of the clock. -/
inductive QueueEvent where
  | offer (svc : Nat) (m : Message)
  | start (svc : Nat)
  | cancel (k : Nat)
  | turn
  | tick (t : Nat)

namespace QueueEvent

/-- An event's effect on the world; an enqueue that waits changes nothing. -/
def apply (w : World) : QueueEvent → World
  | offer svc m => ((w.offer svc m).map (·.1)).getD w
  | start svc => (w.start svc).1
  | cancel k => w.cancel k
  | turn => w.turn
  | tick t => { w with now := t }.fire t

/-- An event with what it adds to the log of service `svc`'s queue: an enqueue into it that
succeeds adds its envelope to those accepted, and a turn of its loop the envelopes the loop
hands to the bus. -/
def step (svc : Nat) (p : World × QueueLog) : QueueEvent → World × QueueLog
  | offer i m =>
    match p.1.offer i m with
    | some (w, .done) => (w, if i = svc then p.2.record [] [m] else p.2)
    | some (w, _) => (w, p.2)
    | none => p
  | turn =>
    match p.1.ready with
    | t :: rest =>
      if t = .loop svc then
        let q := { p.1 with ready := rest }.pollLoopSends svc pollBudget
        (q.1, p.2.record q.2 [])
      else ({ p.1 with ready := rest }.poll t, p.2)
    | [] => p
  | e => (apply p.1 e, p.2)

/-- Events one after another. -/
def run (svc : Nat) (p : World × QueueLog) (es : List QueueEvent) : World × QueueLog :=
  es.foldl (step svc) p

/-- The log only watches: an event changes the world as the program does. -/
theorem step_fst (svc : Nat) (p : World × QueueLog) (e : QueueEvent) :
    (step svc p e).1 = apply p.1 e := by
  cases e with
  | offer i m =>
    simp only [step, apply]
    split <;> simp_all
  | turn =>
    simp only [step, apply]
    split
    · next t rest hr =>
      rw [World.turn_of_ready hr]
      split
      · next ht =>
        subst ht
        exact World.pollLoopSends_fst _ _ _
      · rfl
    · next hr => simp [World.turn, hr]
  | start i => rfl
  | cancel k => rfl
  | tick t => rfl

/-- The world after events one after another. -/
def play (w : World) (es : List QueueEvent) : World := es.foldl apply w

theorem run_fst (svc : Nat) (p : World × QueueLog) (es : List QueueEvent) :
    (run svc p es).1 = play p.1 es := by
  induction es generalizing p with
  | nil => rfl
  | cons e es ih => exact (ih (step svc p e)).trans (congrArg (play · es) (step_fst svc p e))

/-- Every move of service `svc`'s runner from `p` to `q` is one `Moves` step, logged as it is. -/
def Moved (svc : Nat) (p q : World × QueueLog) : Prop :=
  ∀ r, p.1.runner? svc = some r →
    ∃ r' sent acc, q.1.runner? svc = some r' ∧ r.Moves r' sent acc ∧ q.2 = p.2.record sent acc

theorem Moved.refl (svc : Nat) (p : World × QueueLog) : Moved svc p p :=
  fun r hr => ⟨r, [], [], hr, .still rfl, (QueueLog.record_nil _).symm⟩

theorem Moved.of_moves {svc : Nat} {p : World × QueueLog} {w' : World}
    (h : ∀ r, p.1.runner? svc = some r → ∃ r', w'.runner? svc = some r' ∧ r.Moves r' [] []) :
    Moved svc p (w', p.2) := by
  intro r hr
  obtain ⟨r', hr', hm⟩ := h r hr
  exact ⟨r', [], [], hr', hm, (QueueLog.record_nil _).symm⟩

/-- An enqueue that goes through appends to its own service's queue alone; one that fails or
waits changes nothing. -/
theorem offer_moved (svc i : Nat) (m : Message) (p : World × QueueLog) :
    Moved svc p (step svc p (offer i m)) := by
  cases ho : p.1.offer i m with
  | none =>
    simp only [step, ho]
    exact Moved.refl svc p
  | some q =>
    obtain ⟨w', o⟩ := q
    rcases World.offer_cases ho with ⟨rfl, e, rfl⟩ | ⟨r₀, hr₀, -, hnd, hroom, rfl, hself, hothers⟩
    · simp only [step, ho]
      exact Moved.of_moves fun r hr => ⟨r, hr, .still rfl⟩
    · simp only [step, ho]
      intro r hr
      by_cases hi : i = svc
      · subst hi
        obtain rfl : r₀ = r := Option.some.inj (hr₀.symm.trans hr)
        exact ⟨_, [], [m], hself, .accept hnd hroom, by simp⟩
      · obtain ⟨r', hr', hm⟩ := World.moves_of_runner hr (hothers svc (Ne.symm hi))
        exact ⟨r', [], [], hr', hm, by simp [hi]⟩

/-- A turn of the ready tasks: the loop of service `svc` hands over its oldest envelopes, and any
other task leaves the runner in its gear. -/
theorem turn_moved (svc : Nat) (p : World × QueueLog) : Moved svc p (step svc p turn) := by
  cases hready : p.1.ready with
  | nil =>
    simp only [step, hready]
    exact Moved.refl svc p
  | cons t rest =>
    by_cases ht : t = .loop svc
    · subst ht
      simp only [step, hready, if_true]
      intro r hr
      obtain ⟨r', hr', hm⟩ := World.pollLoopSends_moves (w := { p.1 with ready := rest }) hr
      exact ⟨r', _, [], hr', hm, rfl⟩
    · simp only [step, hready, if_neg ht]
      exact Moved.of_moves fun r hr => World.moves_of_gear hr (World.poll_runner?_gear _ ht)

theorem step_moved (svc : Nat) (p : World × QueueLog) (e : QueueEvent) :
    Moved svc p (step svc p e) := by
  cases e with
  | offer i m => exact offer_moved svc i m p
  | start i => exact Moved.of_moves fun r hr => World.start_moves hr i
  | cancel k => exact Moved.of_moves fun r hr => World.moves_of_runner hr (by simp [apply])
  | turn => exact turn_moved svc p
  | tick t => exact Moved.of_moves fun r hr => World.moves_of_runner hr (by simp [apply])

/-- What every move keeps holds of service `svc`'s runner and its log along every run. -/
theorem run_moved (P : Runner → QueueLog → Prop)
    (hP : ∀ {r r' sent acc log}, P r log → r.Moves r' sent acc → P r' (log.record sent acc))
    {svc : Nat} (es : List QueueEvent) {p : World × QueueLog} {r : Runner}
    (hr : p.1.runner? svc = some r) (h : P r p.2) :
    ∃ r', (run svc p es).1.runner? svc = some r' ∧ P r' (run svc p es).2 := by
  induction es generalizing p r with
  | nil => exact ⟨r, hr, h⟩
  | cons e es ih =>
    obtain ⟨r₁, sent, acc, hr₁, hm, hlog⟩ := step_moved svc p e r hr
    exact ih hr₁ (hlog ▸ hP h hm)

/-- Along every run, the runner of service `svc` keeps its line and its service. -/
theorem line_run {svc : Nat} (es : List QueueEvent) {p : World × QueueLog} {r : Runner}
    (hr : p.1.runner? svc = some r) (h : r.Line p.2) :
    ∃ r', (run svc p es).1.runner? svc = some r' ∧ r'.Line (run svc p es).2 ∧
      r'.service = r.service :=
  run_moved (fun r' log => r'.Line log ∧ r'.service = r.service)
    (fun ⟨hl, hs⟩ hm => ⟨hl.moves hm, hm.service.trans hs⟩) es hr ⟨h, rfl⟩

/-- A closed queue stays closed along every run. -/
theorem closed_play {svc : Nat} (w : World) (es : List QueueEvent) {r : Runner}
    (hr : w.runner? svc = some r) (hc : r.Closed) :
    ∃ r', (play w es).runner? svc = some r' ∧ r'.Closed := by
  obtain ⟨r', hr', hc'⟩ :=
    @run_moved (fun r _ => r.Closed) (fun h hm => (h.moves hm).1) svc es (w, {}) r hr hc
  exact ⟨r', run_fst svc (w, {}) es ▸ hr', hc'⟩

end QueueEvent

namespace World

/-- The publish queue of an added service along any interleaving of enqueues, starts,
cancellations, turns of the ready tasks and ticks of the clock: the envelopes its loop hands to
the bus are a prefix of those whose enqueue went through, in order, and none is handed over
before the service starts; the queue never outgrows its size; and once the service is
cancelled every enqueue, new or waiting for room, fails with `cancelled` and queues nothing. -/
theorem publish_queue_fifo (w : World) (s : Service) (es : List QueueEvent) :
    let svc := (w.addService s).2
    let p := QueueEvent.run svc ((w.addService s).1, {}) es
    ∃ r, p.1.runner? svc = some r ∧
      p.2.published <+: p.2.accepted ∧
      (p.1.isStarted svc = false → p.2.published = []) ∧
      r.queue.length ≤ s.options.publishQueueSize ∧
      (p.1.cancelled r.shutdown = true → ∀ m,
        p.1.enqueue svc m = .finished p.1 (.serviceFailure .cancelled) ∧
        p.1.check (.room svc m) = some (p.1, .serviceFailure .cancelled)) := by
  intro svc p
  obtain ⟨r₀, hr₀, hs₀, hheld, hq, hl⟩ := runner?_addService w s
  obtain ⟨r, hr, hline, hs⟩ := @QueueEvent.line_run svc es ((w.addService s).1, {}) r₀ hr₀
    (Runner.Line.fresh hheld hq hl)
  replace hr : p.1.runner? svc = some r := hr
  refine ⟨r, hr, hline.sent, fun hns => hline.unstarted ?_, hs.trans hs₀ ▸ hline.bounded,
    fun hc m => ?_⟩
  · simpa [isStarted, hr] using hns
  · have ho := offer_cancelled hr hc m
    exact ⟨by simp [enqueue, ho], by simp [check, ho]⟩

/-! ## A failed start -/

variable {w : World} {svc : Nat} {r : Runner}

theorem start_closed (hr : w.runner? svc = some r) (hc : r.Closed) :
    w.isStarted svc = true ∧ w.start svc = (w, .serviceFailure .alreadyStarted) := by
  obtain ⟨hd, -⟩ := hc
  exact ⟨by simp [isStarted, hr, hd], by simp [start, hr, hd]⟩

/-- An enqueue into a closed queue fails at once and changes nothing: with `cancelled` once the
service is shut down, and with `publishQueueClosed` before. -/
theorem enqueue_closed (hr : w.runner? svc = some r) (hc : r.Closed) (m : Message) :
    w.enqueue svc m = .finished w
      (.serviceFailure (if w.isShutdown svc then .cancelled else .publishQueueClosed)) := by
  cases hk : w.cancelled r.shutdown with
  | true => simp [enqueue, isShutdown, hr, hk, offer_cancelled hr hk m]
  | false => simp [enqueue, isShutdown, hr, hk, offer_dropped hr hk hc.1 m]

/-- A start that fails, because the bus refuses the service's ping subject, drops the queue for
good: the queued envelopes are gone, and along any events after it the service counts as
started, a second start is refused as already started, and every enqueue fails at once, with
`cancelled` once the service is shut down and with `publishQueueClosed` before. -/
theorem failed_service_start_closes_queue {w' : World} {e : ServiceError}
    (hr : w.runner? svc = some r) (hheld : r.receiver = .held)
    (hfail : w.start svc = (w', .serviceFailure e)) (es : List QueueEvent) :
    let v := QueueEvent.play w' es
    (∃ ve, (r.service.subject ["telemetry", "ping"]).validate = .error ve ∧
      e = .transport ve.message) ∧
    ∃ r', v.runner? svc = some r' ∧ r'.queue = [] ∧ v.isStarted svc = true ∧
      v.start svc = (v, .serviceFailure .alreadyStarted) ∧
      ∀ m, v.enqueue svc m = .finished v
        (.serviceFailure (if v.isShutdown svc then .cancelled else .publishQueueClosed)) := by
  intro v
  obtain ⟨hve, hw'⟩ := (start_eq_failure hr hheld).mp hfail
  have hr' : w'.runner? svc = some { r with receiver := .dropped, queue := [] } := by
    rw [hw', runner?_modifyRunner_self, hr]
    rfl
  obtain ⟨r', hr'', hc⟩ := QueueEvent.closed_play w' es hr' ⟨rfl, rfl⟩
  replace hr'' : v.runner? svc = some r' := hr''
  exact ⟨hve, r', hr'', hc.2, (start_closed hr'' hc).1, (start_closed hr'' hc).2,
    enqueue_closed hr'' hc⟩

/-- A service of prefix `a$b`, which subjects cannot hold, with one envelope queued: its start
fails at the ping subject and drops the queue. -/
theorem start_at_reserved_prefix :
    let r : Runner :=
      { service := ⟨{ pre := "a$b", name := "svc" }, .json, {}⟩, shutdown := 0, queue := [default] }
    let w : World := { tokens := (({} : Tokens).fresh none).1, runners := #[r] }
    w.runner? 0 = some r ∧
      w.start 0 = (w.modifyRunner 0 fun r => { r with receiver := .dropped, queue := [] },
        .serviceFailure
          (.transport "subject `a$b.svc.telemetry.ping` contains invalid characters")) := by
  intro r w
  have hve : (r.service.subject ["telemetry", "ping"]).validate =
      .error (.invalidCharacters "a$b.svc.telemetry.ping") := by
    decide +kernel
  exact ⟨rfl, (start_eq_failure rfl rfl).mpr ⟨⟨_, hve, rfl⟩, rfl⟩⟩

/-- The service of prefix `a$b` with one envelope queued fails to start, and after an enqueue, a
turn and a second start it counts as started. -/
theorem failed_start_at_reserved_prefix :
    ∃ (w w' : World) (r : Runner) (e : ServiceError),
      w.runner? 0 = some r ∧ r.receiver = .held ∧ w.start 0 = (w', .serviceFailure e) ∧
      e = .transport "subject `a$b.svc.telemetry.ping` contains invalid characters" ∧
      (QueueEvent.play w' [.offer 0 default, .turn, .start 0]).isStarted 0 = true := by
  obtain ⟨hr, hstart⟩ := start_at_reserved_prefix
  obtain ⟨-, -, -, -, hstarted, -⟩ :=
    failed_service_start_closes_queue hr rfl hstart [.offer 0 default, .turn, .start 0]
  exact ⟨_, _, _, _, hr, rfl, hstart, rfl, hstarted⟩

/-- A start that fails drops what was queued and counts the service as started: the service of
prefix `a$b` with one envelope queued fails to start at the ping subject, after which it is
started, its queue is empty, a second start is refused as already started and an enqueue fails
with `publishQueueClosed`. -/
theorem failed_start_drops_queue :
    ∃ (w w' : World) (e : ServiceError),
      w.isStarted 0 = false ∧ (w.runner? 0).map (·.queue.length) = some 1 ∧
      w.start 0 = (w', .serviceFailure e) ∧
      w'.isStarted 0 = true ∧ (w'.runner? 0).map (·.queue.length) = some 0 ∧
      w'.start 0 = (w', .serviceFailure .alreadyStarted) ∧
      w'.enqueue 0 default = .finished w' (.serviceFailure .publishQueueClosed) := by
  obtain ⟨hr, hstart⟩ := start_at_reserved_prefix
  -- after the failed start the queue is closed: dropped and empty
  have hr' := (runner?_modifyRunner_self _ 0 fun r =>
    { r with receiver := .dropped, queue := [] }).trans (congrArg _ hr)
  have hclosed := start_closed hr' ⟨rfl, rfl⟩
  refine ⟨_, _, _, by rw [isStarted, hr]; rfl, by rw [hr]; rfl, hstart, hclosed.1,
    by rw [hr']; rfl, hclosed.2, ?_⟩
  rw [enqueue_closed hr' ⟨rfl, rfl⟩]
  rfl

end World

end Courier.Runtime
