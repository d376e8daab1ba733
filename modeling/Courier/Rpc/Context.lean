import Courier.Runtime.Token
import Courier.Rpc.Error
import Courier.Message

/-!
# Call contexts

A context is a node of the cancellation forest with an optional deadline, and, on the server
side, the subject and headers of the envelope it serves. A child context has a child token and
keeps its parent's deadline; one made with a timeout keeps the earlier of its parent's deadline
and the timeout's. Adding a header makes a copy that shares the token.

A context is done when its token is cancelled, or else when its deadline is not after now;
cancellation is reported first.
-/

namespace Courier

/-- A call context. Times are milliseconds of the bus clock. -/
structure Context where
  token : Nat
  deadline : Option Nat := none
  subject : Option Subject := none
  headers : Headers := {}
  deriving Inhabited

namespace Context

/-- A root context. -/
def background (t : Tokens) : Context × Tokens :=
  let (t, k) := t.fresh none
  (⟨k, none, none, {}⟩, t)

/-- A child context. -/
def child (c : Context) (t : Tokens) : Context × Tokens :=
  let (t, k) := t.fresh (some c.token)
  ({ c with token := k }, t)

/-- A child context that expires at `deadline`, or earlier if the parent does. -/
def withDeadline (c : Context) (t : Tokens) (deadline : Nat) : Context × Tokens :=
  let (d, t) := c.child t
  ({ d with deadline := some (match c.deadline with
    | some own => min own deadline
    | none => deadline) }, t)

/-- A child context that expires `ms` milliseconds after `now`, or earlier if the parent does. -/
def withTimeout (c : Context) (t : Tokens) (now ms : Nat) : Context × Tokens :=
  c.withDeadline t (now + ms)

/-- A copy with a header appended, sharing the token. -/
def withHeader (c : Context) (key value : String) : Context :=
  { c with headers := c.headers.append key value }

/-- A copy carrying an inbound envelope's subject and headers. -/
def withEnvelope (c : Context) (subject : Subject) (headers : Headers) : Context :=
  { c with subject := some subject, headers }

/-- Why the context is done at `now`, if it is. -/
def err (c : Context) (t : Tokens) (now : Nat) : Option RpcError :=
  if t.isCancelled c.token then some .cancelled
  else match c.deadline with
    | some d => if d ≤ now then some .deadlineExceeded else none
    | none => none

end Context

end Courier
