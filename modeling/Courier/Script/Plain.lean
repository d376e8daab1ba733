import Courier.Script.Outcome
import Courier.Runtime.Services

/-!
# Plain bus scripts

A plain bus script subscribes recording handlers (which can echo the reversed payload to the
reply subject), publishes, sends requests and reads what the subscriptions received and what
the bus counted. Before every step the script lets one millisecond pass, so every step sees
the effects of the ones before it.

The members of a queue group are told apart by the bus in an order of its own; a script sees
what each member received as one list per member, the lists sorted by their JSON text.
-/

namespace Courier.Script

open Json Courier.Runtime

/-- The messages a subscription received, as values. -/
def receivedValue (w : World) (sub : Nat) : Value :=
  match w.subs[sub]? with
  | some s => .array (s.receipts.toList.map fun r => shownMessage false r.message)
  | none => .array []

/-- What each member of a queue group received, sorted by JSON text. -/
def groupValue (w : World) (group : String) : Value :=
  let members := w.subs.toList.filter fun s =>
    match w.bus.route? s.route with
    | some r => r.group == some group
    | none => false
  let lists : List Value := members.map fun s =>
    .array (s.receipts.toList.map fun r => shownMessage false r.message)
  .array (lists.mergeSort fun a b => decide (a.render ≤ b.render))

/-- The message a step publishes. -/
def plainMessage (o : Value) : Message :=
  ⟨⟨str o "subject"⟩, (strOpt o "reply").map fun r => ⟨r⟩, payloadOf o, headersOf o⟩

/-- One step of a plain bus script. -/
def plainStep (w : World) (o : Value) : World × Value :=
  match str o "op" with
  | "subscribe" =>
    match w.subscribePlain ⟨str o "subject"⟩ (strOpt o "queue") (flag o "echo") with
    | .ok (w, sub) => (w, obj [("sub", .nat sub), ("subject", .string (str o "subject"))])
    | .error e => (w, busError e)
  | "unsubscribe" => (w.unsubscribeSub (nat o "sub" 0), okTrue)
  | "publish" =>
    match w.publish (plainMessage o) with
    | .ok w => (w, okTrue)
    | .error e => (w, busError e)
  | "request" =>
    let (w, out) := (w.requestPlain (plainMessage o)).conclude (nat o "wait_ms" 1000)
    (w, outcomeValue out (fun m => obj [("reply", shownMessage false m)]) id)
  | "received" => (w, receivedValue w (nat o "sub" 0))
  | "group_received" => (w, groupValue w (str o "queue"))
  | "stats" => (w, obj (statsMembers w.bus))
  | "flush" | "acknowledge" => (w, okTrue)
  | "new_inbox" =>
    let (w, s) := w.freshInbox
    (w, obj [("subject", .string (shownSubject true s.text)), ("tokens", .nat s.tokens.length)])
  | op => (w, failure "DriverError" ("unknown op " ++ op))

/-- The answers of a plain bus script's steps. -/
def runPlain (steps : List Value) : Value :=
  let (_, out) := steps.foldl (fun (w, out) o =>
    let (w, v) := plainStep (w.sleepFor 1) o
    (w, v :: out)) (({} : World), ([] : List Value))
  ok (obj [("results", .array out.reverse)])

end Courier.Script
