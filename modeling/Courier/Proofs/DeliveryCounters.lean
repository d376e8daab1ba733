import Courier.Proofs.Crossings
import Mathlib.Data.Nat.ModEq

/-!
# Delivery counters

A service's delivery counters count every envelope that crosses its boundary with the bus, once.

`Replays svc c log c'` says the counters of service `svc` go from `c` to `c'` through a log of
crossings: out for a publication or request of the service, in for a verified delivery or reply,
back to zero when a report takes them. Every traced step replays its own crossings (`Follows`,
one lemma per traced function, built up from the counting of a single envelope), so along every
run of events the counters replay the whole log (`BusEvent.counters_replay_run`). From a replay,
`Replays.tally`: what the reports took plus the counters now is, field by field and modulo
`2^64`, the counters at the start plus the count of the crossings (`counters_tally_crossings`).
-/

namespace Courier.Runtime

open Json Bus

/-! ## Counting a log -/

namespace Counters

/-- Counters added field by field, unwrapped. -/
def plus (a b : Counters) : Counters :=
  { msgIn := a.msgIn + b.msgIn, msgOut := a.msgOut + b.msgOut, bytesIn := a.bytesIn + b.bytesIn,
    bytesOut := a.bytesOut + b.bytesOut }

/-- One message of `bytes` bytes out. -/
def oneOut (bytes : Nat) : Counters := { msgOut := 1, bytesOut := bytes }

/-- One message of `bytes` bytes in. -/
def oneIn (bytes : Nat) : Counters := { msgIn := 1, bytesIn := bytes }

/-- Counters that agree field by field modulo `modulus`. -/
structure ModEq (a b : Counters) : Prop where
  msgIn : a.msgIn ≡ b.msgIn [MOD modulus]
  msgOut : a.msgOut ≡ b.msgOut [MOD modulus]
  bytesIn : a.bytesIn ≡ b.bytesIn [MOD modulus]
  bytesOut : a.bytesOut ≡ b.bytesOut [MOD modulus]

@[simp]
theorem zero_plus (c : Counters) : ({} : Counters).plus c = c := by
  simp [plus]

@[simp]
theorem plus_zero (c : Counters) : c.plus {} = c := by
  simp [plus]

theorem plus_assoc (a b c : Counters) : (a.plus b).plus c = a.plus (b.plus c) := by
  simp only [plus, Nat.add_assoc]

theorem ModEq.of_eq {a b : Counters} (h : a = b) : a.ModEq b :=
  h ▸ ⟨.refl _, .refl _, .refl _, .refl _⟩

theorem ModEq.trans {a b c : Counters} (h₁ : a.ModEq b) (h₂ : b.ModEq c) : a.ModEq c :=
  ⟨h₁.msgIn.trans h₂.msgIn, h₁.msgOut.trans h₂.msgOut, h₁.bytesIn.trans h₂.bytesIn,
    h₁.bytesOut.trans h₂.bytesOut⟩

theorem ModEq.plus_left (c : Counters) {a b : Counters} (h : a.ModEq b) :
    (c.plus a).ModEq (c.plus b) :=
  ⟨h.msgIn.add_left _, h.msgOut.add_left _, h.bytesIn.add_left _, h.bytesOut.add_left _⟩

theorem ModEq.plus_right (c : Counters) {a b : Counters} (h : a.ModEq b) :
    (a.plus c).ModEq (b.plus c) :=
  ⟨h.msgIn.add_right _, h.msgOut.add_right _, h.bytesIn.add_right _, h.bytesOut.add_right _⟩

theorem recordOut_modEq (c : Counters) (bytes : Nat) :
    (c.recordOut bytes).ModEq (c.plus (oneOut bytes)) :=
  ⟨.refl _, Nat.mod_modEq _ _, .refl _, Nat.mod_modEq _ _⟩

theorem recordIn_modEq (c : Counters) (bytes : Nat) :
    (c.recordIn bytes).ModEq (c.plus (oneIn bytes)) :=
  ⟨Nat.mod_modEq _ _, .refl _, Nat.mod_modEq _ _, .refl _⟩

/-- The sum of a list of counters, unwrapped. -/
def sum (l : List Counters) : Counters := l.foldr plus {}

@[simp]
theorem sum_nil : sum [] = {} := rfl

@[simp]
theorem sum_cons (c : Counters) (l : List Counters) : sum (c :: l) = c.plus (sum l) := rfl

end Counters

namespace Crossing

/-- What a crossing adds to the counters of service `svc`: a publication or request of the
service one message out, a delivery or reply to it that passed the identity check one in. -/
def adds (svc : Nat) : Crossing → Counters
  | .sent i m | .requested i m => if i = svc then .oneOut m.size else {}
  | .delivered i m v | .replied i m v => if i = svc ∧ v = true then .oneIn m.size else {}
  | .took _ _ => {}

/-- What a crossing takes from the counters of service `svc`: a report of the service takes them
all. -/
def takes (svc : Nat) : Crossing → Counters
  | .took i c => if i = svc then c else {}
  | _ => {}

/-- What the crossings of a log add to the counters of service `svc`, unwrapped. -/
def tally (svc : Nat) (log : List Crossing) : Counters := Counters.sum (log.map (adds svc))

/-- What the reports of a log take from the counters of service `svc`, unwrapped. -/
def taken (svc : Nat) (log : List Crossing) : Counters := Counters.sum (log.map (takes svc))

@[simp]
theorem tally_nil (svc : Nat) : tally svc [] = {} := rfl

@[simp]
theorem tally_cons (svc : Nat) (x : Crossing) (l : List Crossing) :
    tally svc (x :: l) = (x.adds svc).plus (tally svc l) := rfl

@[simp]
theorem taken_nil (svc : Nat) : taken svc [] = {} := rfl

@[simp]
theorem taken_cons (svc : Nat) (x : Crossing) (l : List Crossing) :
    taken svc (x :: l) = (x.takes svc).plus (taken svc l) := rfl

theorem adds_of_ne {svc : Nat} {x : Crossing} (h : x.service ≠ svc) : x.adds svc = {} := by
  cases x <;> simp_all [service, adds]

theorem takes_of_ne {svc : Nat} {x : Crossing} (h : x.service ≠ svc) : x.takes svc = {} := by
  cases x <;> simp_all [service, takes]

end Crossing

/-- The counters of service `svc` going from `c` to `c'` through the crossings of a log: a
publication or request of the service counts one message out, a delivery or reply to it one in
when it passed the identity check, a report takes the counters as they are and leaves them at
zero, and the crossings of other services leave them. -/
inductive Replays (svc : Nat) : Counters → List Crossing → Counters → Prop
  | nil (c : Counters) : Replays svc c [] c
  | sent {c c' : Counters} {m : Message} {l : List Crossing} :
    Replays svc (c.recordOut m.size) l c' → Replays svc c (.sent svc m :: l) c'
  | requested {c c' : Counters} {m : Message} {l : List Crossing} :
    Replays svc (c.recordOut m.size) l c' → Replays svc c (.requested svc m :: l) c'
  | delivered {c c' : Counters} {m : Message} {v : Bool} {l : List Crossing} :
    Replays svc (if v then c.recordIn m.size else c) l c' →
      Replays svc c (.delivered svc m v :: l) c'
  | replied {c c' : Counters} {m : Message} {v : Bool} {l : List Crossing} :
    Replays svc (if v then c.recordIn m.size else c) l c' →
      Replays svc c (.replied svc m v :: l) c'
  | took {c c' : Counters} {l : List Crossing} :
    Replays svc {} l c' → Replays svc c (.took svc c :: l) c'
  | other {c c' : Counters} {x : Crossing} {l : List Crossing} :
    x.service ≠ svc → Replays svc c l c' → Replays svc c (x :: l) c'

namespace Replays

variable {svc : Nat}

theorem append {c₁ c₂ c₃ : Counters} {l₁ l₂ : List Crossing}
    (h₁ : Replays svc c₁ l₁ c₂) (h₂ : Replays svc c₂ l₂ c₃) :
    Replays svc c₁ (l₁ ++ l₂) c₃ := by
  induction h₁ with
  | nil => exact h₂
  | sent _ ih => exact .sent (ih h₂)
  | requested _ ih => exact .requested (ih h₂)
  | delivered _ ih => exact .delivered (ih h₂)
  | replied _ ih => exact .replied (ih h₂)
  | took _ ih => exact .took (ih h₂)
  | other hx _ ih => exact .other hx (ih h₂)

theorem tally_out {c c' : Counters} {l : List Crossing} (bytes : Nat)
    (ih : ((Crossing.taken svc l).plus c').ModEq
      ((c.recordOut bytes).plus (Crossing.tally svc l))) :
    ((Crossing.taken svc l).plus c').ModEq
      (c.plus ((Counters.oneOut bytes).plus (Crossing.tally svc l))) := by
  rw [← Counters.plus_assoc]
  exact ih.trans ((Counters.recordOut_modEq c bytes).plus_right _)

theorem tally_in {c c' : Counters} {l : List Crossing} (bytes : Nat) (v : Bool)
    (ih : ((Crossing.taken svc l).plus c').ModEq
      ((if v then c.recordIn bytes else c).plus (Crossing.tally svc l))) :
    ((Crossing.taken svc l).plus c').ModEq
      (c.plus ((if v then Counters.oneIn bytes else {}).plus (Crossing.tally svc l))) := by
  cases v with
  | false => simpa using ih
  | true =>
    rw [if_pos rfl, ← Counters.plus_assoc]
    exact ih.trans ((Counters.recordIn_modEq c bytes).plus_right _)

/-- What the reports of a replayed log took plus the counters at its end is, modulo `2^64`, what
the counters at its start plus the log's tally come to. -/
theorem tally {c c' : Counters} {l : List Crossing} (h : Replays svc c l c') :
    ((Crossing.taken svc l).plus c').ModEq (c.plus (Crossing.tally svc l)) := by
  induction h with
  | nil c => exact .of_eq (by simp)
  | sent _ ih => simpa [Crossing.adds, Crossing.takes] using tally_out _ ih
  | requested _ ih => simpa [Crossing.adds, Crossing.takes] using tally_out _ ih
  | @delivered c c' m v l _ ih => simpa [Crossing.adds, Crossing.takes] using tally_in m.size v ih
  | @replied c c' m v l _ ih => simpa [Crossing.adds, Crossing.takes] using tally_in m.size v ih
  | @took c c' l _ ih =>
    simp only [Crossing.taken_cons, Crossing.tally_cons, Crossing.takes, Crossing.adds, if_pos,
      Counters.zero_plus, Counters.plus_assoc] at ih ⊢
    exact ih.plus_left c
  | other hx _ ih => simpa [Crossing.adds_of_ne hx, Crossing.takes_of_ne hx] using ih

end Replays

namespace World

/-! ## Every traced step replays its crossings -/

/-- From a world to a traced result, the counters of every service replay the result's
crossings. -/
def Follows (w : World) (p : World × List Crossing) : Prop :=
  ∀ svc r, w.runner? svc = some r →
    ∃ r', p.1.runner? svc = some r' ∧ Replays svc r.counters p.2 r'.counters

/-- A traced handler's world and crossings, without whether it fell asleep. -/
def worldLog (x : (World × Bool) × List Crossing) : World × List Crossing := (x.1.1, x.2)

namespace Follows

theorem trans {w : World} {p q : World × List Crossing} (h₁ : Follows w p)
    (h₂ : Follows p.1 q) :
    Follows w (q.1, p.2 ++ q.2) := by
  intro svc r hr
  obtain ⟨r₁, hr₁, h₁'⟩ := h₁ svc r hr
  obtain ⟨r₂, hr₂, h₂'⟩ := h₂ svc r₁ hr₁
  exact ⟨r₂, hr₂, h₁'.append h₂'⟩

theorem of_counters {w w' : World}
    (h : ∀ svc r, w.runner? svc = some r →
      ∃ r', w'.runner? svc = some r' ∧ r'.counters = r.counters) :
    Follows w (w', []) := by
  intro svc r hr
  obtain ⟨r', hr', hc⟩ := h svc r hr
  exact ⟨r', hr', hc ▸ .nil _⟩

theorem of_runners {w w' : World} (h : w'.runners = w.runners) : Follows w (w', []) :=
  .of_counters fun svc r hr => ⟨r, by rw [runner?, h]; exact hr, rfl⟩

theorem refl (w : World) : Follows w (w, []) := .of_runners rfl

theorem pre {w w' : World} {q : World × List Crossing} (h : Follows w (w', []))
    (hq : Follows w' q) :
    Follows w q := by
  simpa using h.trans hq

theorem keep {w : World} {p : World × List Crossing} (h : Follows w p) (w' : World)
    (h' : w'.runners = p.1.runners) : Follows w (w', p.2) := by
  simpa using h.trans (of_runners h')

theorem attempt {w : World} {r : Except ServiceError (World × List Crossing)}
    (h : ∀ p, r = .ok p → Follows w p) : Follows w (w.attemptTraced r) := by
  cases r with
  | ok p => exact h p rfl
  | error e => exact .refl w

end Follows

theorem follows_modifyRunner (w : World) (svc : Nat) {f : Runner → Runner}
    (hf : ∀ r, (f r).counters = r.counters) : Follows w (w.modifyRunner svc f, []) := by
  refine .of_counters fun i r hr => ?_
  by_cases hi : i = svc
  · subst hi
    exact ⟨f r, by simp [hr], hf r⟩
  · exact ⟨r, by rw [runner?_modifyRunner_ne _ _ hi]; exact hr, rfl⟩

theorem follows_countOut (w : World) {svc : Nat} {m : Message} {x : Crossing}
    (hx : x = .sent svc m ∨ x = .requested svc m) :
    Follows w (w.count svc false m.size, [x]) := by
  intro i r hr
  by_cases hi : i = svc
  · subst hi
    refine ⟨{ r with counters := r.counters.recordOut m.size }, by simp [count, hr], ?_⟩
    rcases hx with rfl | rfl
    · exact .sent (.nil _)
    · exact .requested (.nil _)
  · refine ⟨r, by rw [count, runner?_modifyRunner_ne _ _ hi]; exact hr, .other ?_ (.nil _)⟩
    rcases hx with rfl | rfl <;> exact fun h => hi h.symm

/-- Counting a message in for a service when it passed the identity check replays its delivery
or reply, whether it passed or not. -/
theorem follows_countIn (w : World) {svc : Nat} {m : Message} (v : Bool) {x : Crossing}
    (hx : x = .delivered svc m v ∨ x = .replied svc m v) :
    Follows w (if v then w.count svc true m.size else w, [x]) := by
  intro i r hr
  by_cases hi : i = svc
  · subst hi
    cases v with
    | true =>
      refine ⟨{ r with counters := r.counters.recordIn m.size }, by simp [count, hr], ?_⟩
      rcases hx with rfl | rfl
      · exact .delivered (.nil _)
      · exact .replied (.nil _)
    | false =>
      refine ⟨r, by simpa using hr, ?_⟩
      rcases hx with rfl | rfl
      · exact .delivered (.nil _)
      · exact .replied (.nil _)
  · refine ⟨r, ?_, .other ?_ (.nil _)⟩
    · cases v
      · simpa using hr
      · simpa [count, runner?_modifyRunner_ne _ _ hi] using hr
    · rcases hx with rfl | rfl <;> exact fun h => hi h.symm

theorem follows_took {w : World} {svc : Nat} {r : Runner} (hr : w.runner? svc = some r)
    {f : Runner → Runner} (hf : ∀ r, (f r).counters = {}) :
    Follows w (w.modifyRunner svc f, [.took svc r.counters]) := by
  intro i r' hr'
  by_cases hi : i = svc
  · subst hi
    obtain rfl : r = r' := Option.some.inj (hr.symm.trans hr')
    exact ⟨f r, by simp [hr], by rw [hf]; exact .took (.nil _)⟩
  · refine ⟨r', ?_, .other (fun h => hi h.symm) (.nil _)⟩
    rw [runner?_modifyRunner_ne _ _ hi]
    exact hr'

theorem publish_runners {w w' : World} {m : Message} (h : w.publish m = .ok w') :
    w'.runners = w.runners := by
  unfold World.publish at h
  split at h
  · cases h
  · cases h
    exact (wakeRoutes_spec _ _).2.2.1

theorem follows_publishNow {w : World} {svc : Nat} {m : Message} {p : World × List Crossing}
    (h : w.publishNowTraced svc m = .ok p) : Follows w p := by
  cases hp : w.publish m with
  | error e => simp [publishNowTraced, publishNow, hp, Except.map] at h
  | ok w₁ =>
    simp only [publishNowTraced, publishNow, hp, Except.map, Except.ok.injEq] at h
    subst h
    exact (Follows.of_runners (publish_runners hp)).trans (follows_countOut w₁ (.inl rfl))

theorem follows_respondWith {w : World} {svc : Nat} {d : Message} {pl : ByteArray} {hs : Headers}
    {p : World × List Crossing} (h : w.respondWithTraced svc d pl hs = .ok p) : Follows w p := by
  unfold respondWithTraced at h
  split at h
  · cases h
  · exact follows_publishNow h

theorem follows_sendAll {w : World} {svc : Nat} {d : Message} {hs : Headers} {vs : List Value}
    {p : World × List Crossing} (h : w.sendAllTraced svc d hs vs = .ok p) : Follows w p := by
  induction vs generalizing w p with
  | nil =>
    cases h
    exact .refl w
  | cons v vs ih =>
    unfold sendAllTraced at h
    split at h
    · next w₁ l h₁ =>
      cases hr : w₁.sendAllTraced svc d hs vs with
      | error e => rw [hr] at h; cases h
      | ok q =>
        rw [hr] at h
        cases h
        exact (follows_respondWith h₁).trans (ih hr)
    · cases h

theorem Follows.endStream {w : World} {svc : Nat} {d : Message} {label : String}
    {r : Except String (World × List Crossing)} (h : ∀ p, r = .ok p → Follows w p) :
    Follows w (w.endStreamTraced svc d label r) := by
  cases r with
  | ok p => exact h p rfl
  | error e =>
    simp only [endStreamTraced]
    split
    · exact .attempt fun _ => follows_respondWith
    · exact .refl w

theorem follows_mapError {w : World} {r : Except ServiceError (World × List Crossing)}
    (h : ∀ p, r = .ok p → Follows w p) :
    ∀ p, r.mapError (·.message) = .ok p → Follows w p := by
  intro p hp
  exact h p (mapError_eq_ok hp)

theorem follows_serveUnary (w : World) (route svc : Nat) (m : Message) (label : String)
    (slow : Bool) : Follows w (worldLog (w.serveUnaryTraced route svc m label slow)) := by
  unfold serveUnaryTraced
  split
  · exact .attempt fun _ => follows_respondWith
  · next v hv =>
    split
    · next hslow => exact .of_runners (by simp [serveUnary, hv, hslow])
    · split
      · exact .attempt fun _ => follows_respondWith
      · exact .attempt fun _ => follows_respondWith

theorem follows_serveStream (w : World) (svc : Nat) (m : Message) (label : String)
    (style : StreamStyle) : Follows w (w.serveStreamTraced svc m label style) := by
  unfold serveStreamTraced
  apply Follows.endStream
  intro p hp
  split at hp
  · cases hp
  · split at hp
    · exact follows_mapError (fun _ => follows_sendAll) p hp
    · exact follows_mapError (fun _ => follows_sendAll) p hp
    · split at hp
      · cases hp
      · exact follows_mapError (fun _ => follows_sendAll) p hp

theorem follows_serveBidi (w : World) (svc : Nat) (m : Message) (label : String) :
    Follows w (w.serveBidiTraced svc m label) := by
  unfold serveBidiTraced
  apply Follows.endStream
  intro p hp
  split at hp
  · cases hp
  · exact follows_mapError (fun _ => follows_sendAll) p hp

theorem follows_perform (w : World) (route svc : Nat) (m : Message) (duty : Duty) :
    Follows w (worldLog (w.performTraced route svc m duty)) := by
  cases duty with
  | note sub shape answer failWith =>
    cases answer with
    | some v =>
      cases hr : w.respondTraced svc m v with
      | ok p =>
        obtain ⟨w₁, l⟩ := p
        simp only [worldLog, performTraced, hr]
        exact (follows_respondWith hr).keep _ rfl
      | error e =>
        simp only [worldLog, performTraced, hr]
        exact .of_runners rfl
    | none =>
      cases failWith with
      | some t =>
        cases hr : w.respondErrorTraced svc m t with
        | ok p =>
          obtain ⟨w₁, l⟩ := p
          simp only [worldLog, performTraced, hr]
          exact (follows_respondWith hr).keep _ rfl
        | error e =>
          simp only [worldLog, performTraced, hr]
          exact .of_runners rfl
      | none => exact .of_runners rfl
  | sum =>
    simp only [performTraced]
    split
    · exact .attempt fun _ => follows_respondWith
    · exact .attempt fun _ => follows_respondWith
  | ping =>
    simp only [performTraced]
    split
    · exact .attempt fun _ => follows_respondWith
    · exact .refl w
  | listen i =>
    refine .of_runners ?_
    simp only [performTraced, perform]
    split
    · split <;> rfl
    · rfl
  | unary label slow => exact follows_serveUnary w route svc m label slow
  | serverStream label style => exact follows_serveStream w svc m label style
  | bidi label => exact follows_serveBidi w svc m label

theorem echo_runners (w : World) (m : Message) : (w.echo m).runners = w.runners := by
  unfold echo
  split
  · split
    · exact publish_runners ‹_›
    · rfl
  · rfl

theorem follows_handle (w : World) (route : Nat) (m : Message) (h : Handler) :
    Follows w (worldLog (w.handleTraced route m h)) := by
  cases h with
  | service svc duty =>
    -- the delivery is counted in when it passes the identity check, then the duty is done
    exact (follows_countIn w (w.verifies svc m) (.inl rfl)).trans
      (follows_perform _ route svc m duty)
  | note sub echo =>
    refine .of_runners ?_
    cases echo
    · rfl
    · exact echo_runners _ m
  | inbox =>
    refine .of_runners ?_
    simp only [handleTraced, handle]
    split <;> rfl

theorem follows_drain (w : World) (route fuel : Nat) : Follows w (w.drainTraced route fuel) := by
  induction fuel generalizing w with
  | zero => exact .refl w
  | succ fuel ih =>
    unfold drainTraced
    split
    · exact .refl w
    · next r hr =>
      split
      · exact .refl w
      · split
        · exact .refl w
        · next m rest hc =>
          dsimp only
          -- the message leaves the channel, then the handler takes it
          have htake : Follows w
              ({ w with bus := w.bus.modify route fun r => { r with channel := rest } }, []) :=
            .of_runners rfl
          have hh := htake.pre (follows_handle _ route m r.handler)
          generalize World.handleTraced _ route m r.handler = x at hh ⊢
          obtain ⟨⟨w₁, asleep⟩, l⟩ := x
          cases asleep
          · exact hh.trans (ih w₁)
          · exact hh

theorem follows_pollRoute (w : World) (route : Nat) : Follows w (w.pollRouteTraced route) := by
  unfold pollRouteTraced
  split
  · split
    · dsimp only
      -- the handler wakes, answers, then the channel drains
      have hwake : Follows w ({ w with naps := w.naps.filter (·.route != route) }, []) :=
        .of_runners rfl
      exact (hwake.pre (.attempt fun _ => follows_respondWith)).trans (follows_drain _ _ _)
    · exact .refl w
  · exact follows_drain w route _

theorem follows_report (w : World) (svc : Nat) : Follows w (w.reportTraced svc) := by
  unfold reportTraced
  split
  · exact .refl w
  · next r hr =>
    dsimp only
    exact (follows_took hr fun _ => rfl).trans (.attempt fun _ => follows_publishNow)

theorem follows_stopLoop (w : World) (svc : Nat) : Follows w (w.stopLoop svc, []) := by
  unfold stopLoop
  split
  · exact .refl w
  · dsimp only
    split
    · next id _ =>
      have hgone : Follows w (w.unsubscribeRoute id, []) := .of_runners rfl
      exact hgone.pre (follows_modifyRunner _ _ fun _ => rfl)
    · exact follows_modifyRunner _ _ fun _ => rfl

theorem follows_pollLoop (w : World) (svc fuel : Nat) : Follows w (w.pollLoopTraced svc fuel) := by
  induction fuel generalizing w with
  | zero => exact .refl w
  | succ fuel ih =>
    unfold pollLoopTraced
    split
    · exact .refl w
    · next r hr =>
      split
      · next tick hl =>
        split
        · exact follows_stopLoop w svc
        · dsimp only
          split
          · next m rest hq =>
            -- the oldest queued envelope goes out
            have hpop : Follows w (w.modifyRunner svc fun r => { r with queue := rest }, []) :=
              follows_modifyRunner w svc fun _ => rfl
            exact (hpop.pre (.attempt fun _ => follows_publishNow)).trans (ih _)
          · split
            · -- a report is due
              have htick : Follows w (w.modifyRunner svc fun x =>
                  { x with loop := .running (tick + r.service.options.telemetryPeriodMs) }, []) :=
                follows_modifyRunner w svc fun _ => rfl
              exact (htick.pre (follows_report _ _)).trans (ih _)
            · exact .refl w
      · exact .refl w

theorem follows_poll (w : World) (t : Task) : Follows w (w.pollTraced t) := by
  cases t with
  | route id => exact follows_pollRoute w id
  | loop svc => exact follows_pollLoop w svc _
  | watcher => exact .of_runners (pollWatcher_runners w)
  | release id => exact .refl w

theorem follows_turn (w : World) : Follows w w.turnTraced := by
  unfold turnTraced
  split
  · exact .refl w
  · next t rest _ =>
    have hpop : Follows w ({ w with ready := rest }, []) := .of_runners rfl
    exact hpop.pre (follows_poll _ t)

/-! ## The operations of a script replay their crossings -/

theorem deliver_runners (w : World) (m : Message) : (w.deliver m).1.runners = w.runners :=
  (wakeRoutes_spec _ _).2.2.1

theorem runners_ite_drop (x : World × List Nat) (id : Nat) (a b : Except Bus.BusError Nat) :
    (if x.2.isEmpty then (x.1.dropRoute id, a) else (x.1, b)).1.runners = x.1.runners := by
  split <;> rfl

theorem openRequest_runners (w : World) (m : Message) :
    (w.openRequest m).1.runners = w.runners := by
  cases hp : Bus.Table.publishable m.subject with
  | error e => simp [openRequest, hp]
  | ok u =>
    simp only [openRequest, hp]
    split
    · rfl
    · exact (runners_ite_drop _ _ _ _).trans (deliver_runners _ _)

theorem subscribeTo_runners {w w' : World} {svc : Nat} {subject : Subject} {duty : Duty} {id : Nat}
    (h : w.subscribeTo svc subject duty = .ok (w', id)) : w'.runners = w.runners := by
  obtain ⟨-, rfl⟩ := subscribeTo_ok h
  rfl

theorem cancel_runners (w : World) (k : Nat) : (w.cancel k).runners = w.runners :=
  (cancel_woken w k).1.runners

theorem follows_openRequest (w : World) {svc : Nat} {m : Message}
    (f : World → Bus.BusError → Progress) (g : World → Nat → Progress)
    (hf : ∀ w e, (f w e).world = w) (hg : ∀ w i, (g w i).world = w) :
    Follows w ((match (w.count svc false m.size).openRequest m with
      | (w, .error e) => f w e
      | (w, .ok i) => g w i).world, [.requested svc m]) := by
  have hx := openRequest_runners (w.count svc false m.size) m
  generalize (w.count svc false m.size).openRequest m = x at hx ⊢
  obtain ⟨w', r⟩ := x
  cases r with
  | error e =>
    exact (follows_countOut w (.inr rfl)).keep _ ((congrArg World.runners (hf w' e)).trans hx)
  | ok i =>
    exact (follows_countOut w (.inr rfl)).keep _ ((congrArg World.runners (hg w' i)).trans hx)

theorem follows_request (w : World) (svc : Nat) (cancelled : Bool) (payload : ByteArray)
    (subject : Subject) (headers : Headers) (shape : Option Shape) :
    Follows w ((w.request svc cancelled payload subject headers shape).world,
      w.requestCrossings svc cancelled payload subject headers) := by
  unfold request requestCrossings
  split
  · exact .refl w
  · exact follows_openRequest w _ _ (fun _ _ => rfl) (fun _ _ => rfl)

theorem follows_invoke (w : World) (svc : Nat) (remote : Remote) (ctx : Context) (path : String)
    (request : Value) (shape : Shape) :
    Follows w ((w.invoke svc remote ctx path request shape).world,
      w.invokeCrossings svc remote ctx path request) := by
  cases hs : remote.subjectFor path with
  | error e => simpa [invoke, invokeCrossings, hs, Progress.world] using Follows.refl w
  | ok subject =>
    cases he : ctx.err w.tokens w.now with
    | some e => simpa [invoke, invokeCrossings, hs, he, Progress.world] using Follows.refl w
    | none =>
      by_cases hc : (w.cancelled ctx.token || w.isShutdown svc) = true
      · simpa [invoke, invokeCrossings, hs, he, hc, Progress.world] using Follows.refl w
      · simp only [invoke, invokeCrossings, hs, he, hc]
        exact follows_openRequest w _ _ (fun _ _ => rfl) (fun _ _ => rfl)

theorem follows_offer {w w' : World} {svc : Nat} {m : Message} {o : Outcome}
    (h : w.offer svc m = some (w', o)) : Follows w (w', []) := by
  rcases offer_cases h with ⟨rfl, -⟩ | ⟨r, hr, -, -, -, -, hself, hothers⟩
  · exact .refl _
  · refine .of_counters fun i r' hr' => ?_
    by_cases hi : i = svc
    · subst hi
      obtain rfl : r = r' := Option.some.inj (hr.symm.trans hr')
      exact ⟨_, hself, rfl⟩
    · exact ⟨r', (hothers i hi).trans hr', rfl⟩

theorem follows_check_quiet {w : World} {wait : Wait}
    (h : ∀ w' o, w.check wait = some (w', o) → Follows w (w', []))
    (hx : w.replyCrossings wait = []) :
    Follows w (((w.check wait).map (·.1)).getD w, w.replyCrossings wait) := by
  rw [hx]
  cases hc : w.check wait with
  | none => exact .refl w
  | some p => exact h p.1 p.2 hc

theorem follows_takeReply {w w₁ : World} {inbox : Nat} {m : Message} (svc : Nat)
    (ht : w.takeReply inbox = some (w₁, m)) :
    Follows w (w₁.countReply svc m, [.replied svc m (w₁.verifies svc m)]) := by
  obtain rfl := takeReply_fst ht
  have hdrop : Follows w (w.dropRoute inbox, []) := .of_runners rfl
  exact hdrop.pre (follows_countIn _ _ (.inr rfl))

theorem follows_check (w : World) (wait : Wait) :
    Follows w (((w.check wait).map (·.1)).getD w, w.replyCrossings wait) := by
  cases wait with
  | sleep t =>
    refine follows_check_quiet (fun w' o h => ?_) rfl
    simp only [check] at h
    split at h
    · cases h
      exact .refl w
    · cases h
  | reply svc inbox shape =>
    cases ht : w.takeReply inbox with
    | none =>
      refine follows_check_quiet (fun w' o h => ?_) (by cases svc <;> simp [replyCrossings, ht])
      simp [check, ht] at h
    | some q =>
      obtain ⟨w₁, m⟩ := q
      cases svc with
      | none =>
        refine follows_check_quiet (fun w' o h => ?_) rfl
        simp only [check, ht, Option.map_some, Option.some.injEq, Prod.mk.injEq] at h
        obtain ⟨rfl, -⟩ := h
        obtain rfl := takeReply_fst ht
        exact .of_runners rfl
      | some svc =>
        have hw : ((w.check (.reply (some svc) inbox shape)).map (·.1)).getD w =
            w₁.countReply svc m := by
          simp only [check, ht, Option.map_some, Option.getD_some]
          cases shape with
          | none => rfl
          | some sh =>
            dsimp only
            split <;> rfl
        rw [hw]
        simpa [replyCrossings, ht] using follows_takeReply svc ht
  | call svc inbox ctx shape =>
    cases he : ctx.err w.tokens w.now with
    | some e =>
      refine follows_check_quiet (fun w' o h => ?_) (by simp [replyCrossings, he])
      simp only [check, he, Option.some.injEq, Prod.mk.injEq] at h
      obtain ⟨rfl, -⟩ := h
      exact .of_runners rfl
    | none =>
      cases ht : w.takeReply inbox with
      | none =>
        refine follows_check_quiet (fun w' o h => ?_) (by simp [replyCrossings, he, ht])
        simp [check, he, ht] at h
      | some q =>
        obtain ⟨w₁, m⟩ := q
        have hw : ((w.check (.call svc inbox ctx shape)).map (·.1)).getD w =
            w₁.countReply svc m := by
          simp only [check, he, ht, Option.map_some, Option.getD_some]
          split <;> rfl
        rw [hw]
        simpa [replyCrossings, he, ht] using follows_takeReply svc ht
  | room svc m => exact follows_check_quiet (fun _ _ h => follows_offer h) rfl
  | receive i shape =>
    refine follows_check_quiet (fun w' o h => .of_runners ?_) rfl
    simp only [check] at h
    split at h
    · cases h; rfl
    · split at h
      · cases h; rfl
      · split at h
        · cases h; rfl
        · split at h
          · cases h
          · split at h <;> (cases h; rfl)
  | finish svc =>
    refine follows_check_quiet (fun w' o h => ?_) rfl
    simp only [check] at h
    split at h
    · split at h
      · cases h
      · cases h
        exact .refl w
    · cases h
      exact .refl w

theorem follows_start (w : World) (svc : Nat) : Follows w ((w.start svc).1, []) := by
  unfold start
  split
  · exact .refl w
  · next r hr =>
    split
    · dsimp only
      have htake : Follows w (w.modifyRunner svc fun r => { r with receiver := .taken }, []) :=
        follows_modifyRunner w svc fun _ => rfl
      split
      · -- the ping route is refused and the queue dropped
        exact htake.pre (follows_modifyRunner _ svc fun _ => rfl)
      · next w₂ id hsub =>
        -- the ping route is subscribed and the loop runs
        have hsub' :
            Follows (w.modifyRunner svc fun r => { r with receiver := .taken }) (w₂, []) :=
          .of_runners (subscribeTo_runners hsub)
        have hrun : Follows w₂ (w₂.modifyRunner svc fun x => { x with
            ping := some id
            loop := .running (w₂.now + r.service.options.telemetryPeriodMs)
            lastReport := w₂.now }, []) :=
          follows_modifyRunner w₂ svc fun _ => rfl
        exact htake.pre (hsub'.pre (hrun.pre (.of_runners (wake_runners _ _))))
    · exact .refl w

theorem subscribeReply_runners {w w' : World} {i : Nat} {s : CallStream}
    (h : w.subscribeReply i s = .ok w') : w'.runners = w.runners := by
  unfold subscribeReply at h
  split at h
  · cases h
  · next w₁ id hsub =>
    cases h
    exact (subscribeTo_runners hsub : w₁.runners = w.runners)

theorem listenOn_runners {w w' : World} {i : Nat} (h : w.listenOn i = .ok w') :
    w'.runners = w.runners := by
  unfold listenOn at h
  split at h
  · cases h
  · split at h
    · cases h
    · split at h
      · cases h; rfl
      · exact subscribeReply_runners h

theorem follows_listen (w : World) (i : Nat) : Follows w ((w.listen i).1, []) := by
  refine .of_runners ?_
  unfold listen
  split
  · rfl
  · split
    · rfl
    · split
      · next w' h => exact listenOn_runners h
      · rfl

theorem takeRoute_runners (w : World) (i : Nat) : (w.takeRoute i).1.runners = w.runners := by
  unfold takeRoute
  split <;> rfl

theorem follows_closeStream (w : World) (i : Nat) : Follows w (w.closeStream i, []) := by
  refine .of_runners ?_
  unfold closeStream
  split
  · rfl
  · next s _ =>
    split
    · rfl
    · -- the flags, the cancellation and taking the route leave every runner alone
      have htake : ((w.closeFlags i s).takeRoute i).1.runners = w.runners :=
        (takeRoute_runners _ i).trans (cancel_runners _ _)
      split
      · next w₁ id h =>
        rw [h] at htake
        exact htake
      · next w₁ h =>
        rw [h] at htake
        exact htake

theorem runner?_addService_of_some {w : World} (s : Service) {i : Nat} {r : Runner}
    (hr : w.runner? i = some r) : (w.addService s).1.runner? i = some r := by
  have hi : i < w.runners.size := (Array.getElem?_eq_some_iff.mp hr).1
  simpa [addService, runner?, freshToken, Array.getElem?_push, Nat.ne_of_lt hi] using hr

theorem requestPlain_world (w : World) (m : Message) :
    (w.requestPlain m).world = (w.openRequest m).1 := by
  unfold requestPlain
  obtain ⟨w', r⟩ := w.openRequest m
  cases r <;> rfl

theorem counters_addService (w : World) (s : Service) :
    ∃ r, (w.addService s).1.runner? (w.addService s).2 = some r ∧ r.counters = {} :=
  ⟨{ service := s, shutdown := (w.tokens.fresh none).2, createdAt := w.now, lastReport := w.now },
    by simp [addService, runner?, freshToken], rfl⟩

end World

namespace BusEvent

/-- Every event replays its crossings on every service's counters. -/
theorem follows_traced (w : World) (e : BusEvent) : World.Follows w (traced w e) := by
  cases e with
  | turn => exact World.follows_turn w
  | tick t => exact .of_counters fun svc r hr => ⟨r, by simpa [traced, apply] using hr, rfl⟩
  | check wait => exact World.follows_check w wait
  | abandon wait => exact .of_runners (by cases wait <;> rfl)
  | offer svc m =>
    cases ho : w.offer svc m with
    | none => simpa [traced, apply, ho] using World.Follows.refl w
    | some q => simpa [traced, apply, ho] using World.follows_offer ho
  | start svc => exact World.follows_start w svc
  | cancel k => exact .of_runners (World.cancel_runners w k)
  | publishAtOnce svc m => exact .attempt fun _ => World.follows_publishNow
  | request svc cancelled payload subject headers shape =>
    exact World.follows_request w svc cancelled payload subject headers shape
  | invoke svc remote ctx path value shape =>
    exact World.follows_invoke w svc remote ctx path value shape
  | subscribe svc subject duty =>
    refine .of_runners ?_
    cases hs : w.subscribeTo svc subject (duty w.subs.size) with
    | error e => simp [apply, World.subscribeService, hs]
    | ok q =>
      obtain ⟨w₁, id⟩ := q
      simpa [traced, apply, World.subscribeService, hs] using World.subscribeTo_runners hs
  | unsubscribe sub =>
    refine .of_runners ?_
    simp only [apply, World.unsubscribeSub]
    split <;> rfl
  | publishPlain m =>
    refine .of_runners ?_
    cases hp : w.publish m with
    | error e => simp [apply, hp]
    | ok w₁ => simpa [traced, apply, hp] using World.publish_runners hp
  | requestPlain m =>
    refine .of_runners ?_
    simp only [apply, World.requestPlain_world]
    exact World.openRequest_runners w m
  | addService s =>
    exact .of_counters fun svc r hr => ⟨r, World.runner?_addService_of_some s hr, rfl⟩
  | listen i => exact World.follows_listen w i
  | closeStream i => exact World.follows_closeStream w i

theorem follows_run (w : World) (es : List BusEvent) : World.Follows w (run w es) := by
  induction es generalizing w with
  | nil => exact .refl w
  | cons e es ih => exact (follows_traced w e).trans (ih _)

/-- Along every run of events, the counters of a service replay the run's crossings from where
they started. -/
theorem counters_replay_run {w : World} {svc : Nat} {r : Runner} (hr : w.runner? svc = some r)
    (es : List BusEvent) :
    ∃ r', (play w es).runner? svc = some r' ∧
      Replays svc r.counters (trace w es) r'.counters := by
  obtain ⟨r', hr', h⟩ := follows_run w es svc r hr
  exact ⟨r', run_fst w es ▸ hr', h⟩

end BusEvent

namespace World

/-- The delivery counters of a service count every envelope crossing its boundary with the bus
once. Along every run of events after the service is added, what its reports took plus its
counters now is, field by field and modulo `2^64`, one message and its payload's bytes out for
each publication the bus took from it and each request it handed to the bus, and one in for each
delivery to its routes and each reply to its requests that passed the identity check. -/
theorem counters_tally_crossings (w : World) (s : Service) (es : List BusEvent) :
    let svc := (w.addService s).2
    let w₀ := (w.addService s).1
    ∃ r, (BusEvent.play w₀ es).runner? svc = some r ∧
      ((Crossing.taken svc (BusEvent.trace w₀ es)).plus r.counters).ModEq
        (Crossing.tally svc (BusEvent.trace w₀ es)) := by
  intro svc w₀
  obtain ⟨r₀, hr₀, hzero⟩ := counters_addService w s
  obtain ⟨r, hr, h⟩ := BusEvent.counters_replay_run hr₀ es
  refine ⟨r, hr, ?_⟩
  simpa [hzero] using h.tally

end World

end Courier.Runtime
