import Courier.Runtime.Handlers

/-!
# Running the world

A script runs one operation at a time on its world. An operation either finishes at once or
waits for something: a reply, room in a publish queue, a message on a stream, a run loop to
stop, or the clock. While it waits, the ready tasks run until none is left; then, if the
operation still waits, the clock jumps to the earliest timer (a report due, a sleeping handler,
the operation's own deadline, or the end of its patience) and the tasks of that time wake.

When a timer fires, the waiting operation looks first, before the tasks that woke with it: a
deadline that falls due together with a reply wins, and a report due at the moment a step
starts is published after that step. When the patience runs out first, the operation ends in
a timeout and gives up its request inbox.
-/

namespace Courier.Runtime

open Json

/-- What an operation of a script waits for. -/
inductive Wait where
  /-- The clock to reach a time. -/
  | sleep (wakeAt : Nat)
  /-- The reply in a request inbox; a service's request counts it in and, with a shape,
  decodes it. -/
  | reply (svc : Option Nat) (inbox : Nat) (shape : Option Shape)
  /-- The reply of a remote call, unless its context is done first. -/
  | call (svc : Nat) (inbox : Nat) (ctx : Context) (shape : Shape)
  /-- Room in a service's publish queue for an envelope. -/
  | room (svc : Nat) (m : Message)
  /-- A reply on a client stream, unless the stream or its context is done first. -/
  | receive (stream : Nat) (shape : Shape)
  /-- A service's run loop to stop. -/
  | finish (svc : Nat)
  deriving Inhabited

/-- How an operation of a script ends. -/
inductive Outcome where
  | done
  | message (m : Message)
  | value (v : Value)
  | busFailure (e : Bus.BusError)
  | serviceFailure (e : ServiceError)
  | callFailure (e : RpcError)
  | timeout
  deriving Inhabited

/-- An outcome as the outcome of a remote call: a service failure becomes the call's. -/
def Outcome.asCall : Outcome → Outcome
  | .serviceFailure e => .callFailure (RpcError.ofService e)
  | o => o

/-- An operation finished, or waiting. -/
inductive Progress where
  | finished (w : World) (o : Outcome)
  | waiting (w : World) (wait : Wait)

namespace World

/-- The number of timer steps one wait takes at most. -/
def awaitBudget : Nat := 10000000

/-- Runs the ready tasks until none is left. -/
def settle (w : World) : Nat → World
  | 0 => w
  | fuel + 1 =>
    match w.ready with
    | [] => w
    | t :: rest => settle ({ w with ready := rest }.poll t) fuel

/-- The earliest time a task's timer fires. -/
def nextTimer (w : World) : Option Nat :=
  let ticks := w.runners.toList.filterMap fun r =>
    match r.loop with
    | .running t => some t
    | _ => none
  (ticks ++ w.naps.map (·.wakeAt)).min?

/-- Wakes the tasks whose timers fire by time `t`. -/
def fire (w : World) (t : Nat) : World :=
  let w := (List.range w.runners.size).foldl (fun w i =>
    match w.runner? i with
    | some r =>
      match r.loop with
      | .running tick => if tick ≤ t then w.wake (.loop i) else w
      | _ => w
    | none => w) w
  w.naps.foldl (fun w nap => if nap.wakeAt ≤ t then w.wake (.route nap.route) else w) w

/-- Puts an envelope in a service's publish queue if there is room; `none` while it is full. -/
def offer (w : World) (svc : Nat) (m : Message) : Option (World × Outcome) :=
  match w.runner? svc with
  | none => some (w, .serviceFailure .cancelled)
  | some r =>
    if w.cancelled r.shutdown then some (w, .serviceFailure .cancelled)
    else match r.receiver with
      | .dropped => some (w, .serviceFailure .publishQueueClosed)
      | _ =>
        if r.queue.length < r.service.options.publishQueueSize then
          let w := w.modifyRunner svc fun r => { r with queue := r.queue ++ [m] }
          let w := match r.loop with
            | .running _ => w.wake (.loop svc)
            | _ => w
          some (w, .done)
        else none

/-- The reply that reached a request inbox, which is then given up. -/
def takeReply (w : World) (inbox : Nat) : Option (World × Message) :=
  (w.replies.find? (·.1 == inbox)).map fun (_, m) => (w.dropRoute inbox, m)

/-- Counts a reply in for a service when it passes the identity check. -/
def countReply (w : World) (svc : Nat) (m : Message) : World :=
  if w.verifies svc m then w.count svc true m.size else w

/-- How the wait of an operation ends now, if it does. -/
def check (w : World) : Wait → Option (World × Outcome)
  | .sleep t => if t ≤ w.now then some (w, .done) else none
  | .reply svc inbox shape =>
    (w.takeReply inbox).map fun (w, m) =>
      match svc with
      | none => (w, .message m)
      | some s =>
        let w := w.countReply s m
        match shape with
        | none => (w, .message m)
        | some sh =>
          match w.unmarshalFor s sh m with
          | .ok v => (w, .value v)
          | .error e => (w, .serviceFailure e)
  | .call svc inbox ctx shape =>
    match ctx.err w.tokens w.now with
    | some e => some (w.dropRoute inbox, .callFailure e)
    | none =>
      (w.takeReply inbox).map fun (w, m) =>
        let w := w.countReply svc m
        match w.unmarshalFor svc shape m with
        | .ok v => (w, .value v)
        | .error e => (w, .callFailure (RpcError.ofService e))
  | .room svc m => w.offer svc m
  | .receive i shape =>
    match w.stream? i with
    | none => some (w, .callFailure .streamClosed)
    | some s =>
      if s.closed then some (w, .callFailure .streamClosed)
      else match s.context.err w.tokens w.now with
        | some e => some (w, .callFailure e)
        | none =>
          match s.channel with
          | [] => none
          | m :: rest =>
            let w := w.modifyStream i fun s => { s with channel := rest }
            match w.unmarshalFor s.svc shape m with
            | .ok v => some (w, .value v)
            | .error e => some (w, .callFailure (RpcError.ofService e))
  | .finish svc =>
    match w.runner? svc with
    | some r =>
      match r.loop with
      | .running _ => none
      | _ => some (w, .done)
    | none => some (w, .done)

/-- The time the wait of an operation ends by itself, if any. -/
def wakeTime (w : World) : Wait → Option Nat
  | .sleep t => some t
  | .call _ _ ctx _ => ctx.deadline
  | .receive i _ => (w.stream? i).bind (·.context.deadline)
  | _ => none

/-- Gives up a wait whose patience ran out. -/
def abandon (w : World) : Wait → World
  | .reply _ inbox _ => w.dropRoute inbox
  | .call _ inbox _ _ => w.dropRoute inbox
  | _ => w

/-- Waits until the operation's wait ends or the clock reaches `limit`. -/
def await (w : World) (wait : Wait) (limit : Nat) : Nat → World × Outcome
  | 0 => (w.abandon wait, .timeout)
  | fuel + 1 =>
    let w := w.settle pollBudget
    match w.check wait with
    | some r => r
    | none =>
      let candidates := [w.nextTimer, w.wakeTime wait, some limit].filterMap id
      let t := max w.now (candidates.min?.getD limit)
      let w := { w with now := t }.fire t
      match w.check wait with
      | some r => r
      | none => if limit ≤ w.now then (w.abandon wait, .timeout) else await w wait limit fuel

/-- Lets `ms` milliseconds pass. -/
def sleepFor (w : World) (ms : Nat) : World :=
  (w.await (.sleep (w.now + ms)) (w.now + ms) awaitBudget).1

end World

/-- Finishes an operation, waiting at most `patience` milliseconds. -/
def Progress.conclude (p : Progress) (patience : Nat) : World × Outcome :=
  match p with
  | .finished w o => (w, o)
  | .waiting w wait =>
    match w.check wait with
    | some r => r
    | none => w.await wait (w.now + patience) World.awaitBudget

end Courier.Runtime
