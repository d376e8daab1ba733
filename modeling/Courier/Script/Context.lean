import Courier.Script.Json
import Courier.Rpc.Context

/-!
# Context scripts

A context script makes contexts (numbered in creation order), cancels them, lets time pass
and asks why they are done. Time is the bus clock in milliseconds and passes only by sleeping
and by waiting: waiting for a context to be done ends at its deadline, or, when the wait runs
out first, with a timeout. A cancelled context is done at once.
-/

namespace Courier.Script

open Json

/-- The state of a context script: the clock, the tokens and the contexts made so far. -/
structure ContextRun where
  now : Nat := 0
  tokens : Tokens := {}
  contexts : Array Context := #[]

/-- The answer of a context's state: `null`, or why it is done. -/
def doneValue (e : Option RpcError) : Value :=
  match e with
  | some e => rpcError e
  | none => .null

namespace ContextRun

/-- Adds a context and answers its number. -/
def add (r : ContextRun) (c : Context) (t : Tokens) : ContextRun × Value :=
  ({ r with tokens := t, contexts := r.contexts.push c }, obj [("ctx", .nat r.contexts.size)])

/-- The context a step names. -/
def pick (r : ContextRun) (o : Value) (key : String) : Context :=
  r.contexts.getD (nat o key 0) default

/-- Waits at most `wait` milliseconds for a context to be done. -/
def done (r : ContextRun) (c : Context) (wait : Nat) : ContextRun × Value :=
  if r.tokens.isCancelled c.token then (r, rpcError .cancelled)
  else match c.deadline with
    | some d =>
      if d ≤ r.now + wait then ({ r with now := max r.now d }, rpcError .deadlineExceeded)
      else ({ r with now := r.now + wait }, timeoutValue)
    | none => ({ r with now := r.now + wait }, timeoutValue)

/-- One step of a context script. -/
def step (r : ContextRun) (o : Value) : ContextRun × Value :=
  match str o "op" with
  | "background" | "default" =>
    let (c, t) := Context.background r.tokens
    r.add c t
  | "child" =>
    let (c, t) := (r.pick o "of").child r.tokens
    r.add c t
  | "with_timeout" =>
    let (c, t) := (r.pick o "of").withTimeout r.tokens r.now (nat o "ms" 0)
    r.add c t
  | "with_header" => r.add ((r.pick o "of").withHeader (str o "key") (str o "value")) r.tokens
  | "cancel" => ({ r with tokens := r.tokens.cancel (r.pick o "ctx").token }, .null)
  | "sleep" => ({ r with now := r.now + nat o "ms" 0 }, .null)
  | "err" => (r, doneValue ((r.pick o "ctx").err r.tokens r.now))
  | "done" => r.done (r.pick o "ctx") (nat o "wait_ms" 1000)
  | "headers" => (r, headersValue (r.pick o "ctx").headers)
  | "has_deadline" => (r, .bool (r.pick o "ctx").deadline.isSome)
  | op => (r, failure "DriverError" ("unknown op " ++ op))

end ContextRun

/-- The answers of a context script's steps. -/
def runContexts (steps : List Value) : Value :=
  let (_, out) := steps.foldl (fun (r, out) o => let (r, v) := r.step o; (r, v :: out))
    (({} : ContextRun), ([] : List Value))
  ok (obj [("results", .array out.reverse)])

end Courier.Script
