import Courier.Message

/-!
# The in-memory bus

The bus holds routes: a subject pattern, an optional queue group, a handler and the channel of
messages waiting for it. A route is live from its subscription until it is removed.

Publishing checks the subject (it must be valid and free of wildcards), counts the message,
and delivers it to every live route whose pattern covers the subject and has no queue group,
in route order, and to one member of each queue group with a covering route: groups are taken
in name order, and each pick takes the next value of one shared cursor, modulo the number of
the group's covering members.

The bus counts publications, subscriptions, effective unsubscriptions and requests; request
inboxes are routes too, but are not counted as subscriptions.

Routes are keyed by random identifiers and visited in key order, so which plain route gets its
copy first, and which member of a group a cursor value lands on, are fixed only up to that
order. The table keeps its routes in the order they were subscribed, one of those orders.

The counters and the cursor are 64-bit words that wrap on overflow. They are natural numbers
here: one step adds one to each at most, so a wrap needs 2^64 publications, subscriptions or
picks in one run, which no run reaches.
-/

namespace Courier.Bus

/-- Why the bus refused a message. -/
inductive BusError where
  | invalidSubject (e : SubjectError)
  | wildcardPublish (s : Subject)
  | noResponders (s : Subject)
  deriving Repr, Inhabited

namespace BusError

/-- The text of a bus error. -/
def message : BusError → String
  | .invalidSubject e => e.message
  | .wildcardPublish s => "cannot publish to wildcard subject `" ++ s.text ++ "`"
  | .noResponders s => "no responders for `" ++ s.text ++ "`"

end BusError

/-- The interactions counted by the bus. -/
structure Stats where
  published : Nat := 0
  subscribed : Nat := 0
  unsubscribed : Nat := 0
  requests : Nat := 0
  deriving Repr, Inhabited

/-- The sum of every counted interaction. -/
def Stats.interactions (s : Stats) : Nat := s.published + s.subscribed + s.unsubscribed + s.requests

/-- A route: a pattern, an optional queue group, a handler and its waiting messages. -/
structure Route (α : Type) where
  id : Nat
  pattern : Subject
  group : Option String
  handler : α
  channel : List Message := []
  live : Bool := true
  deriving Inhabited

/-- The routing table, the counters and the queue cursor. -/
structure Table (α : Type) where
  routes : List (Route α) := []
  stats : Stats := {}
  cursor : Nat := 0
  nextId : Nat := 0
  deriving Inhabited

namespace Table

variable {α : Type}

/-- The route of an id. -/
def route? (b : Table α) (id : Nat) : Option (Route α) := b.routes.find? (·.id == id)

/-- Changes the route of an id. -/
def modify (b : Table α) (id : Nat) (f : Route α → Route α) : Table α :=
  { b with routes := b.routes.map fun r => if r.id == id then f r else r }

/-- Adds a route for a valid pattern; its id comes back. -/
def add (b : Table α) (pattern : Subject) (group : Option String) (handler : α) :
    Except BusError (Table α × Nat) :=
  match pattern.validate with
  | .error e => .error (.invalidSubject e)
  | .ok () =>
    let r : Route α := ⟨b.nextId, pattern, group, handler, [], true⟩
    .ok ({ b with routes := b.routes ++ [r], nextId := b.nextId + 1 }, b.nextId)

/-- Takes a route out of the table, dropping its waiting messages; whether it was live. -/
def remove (b : Table α) (id : Nat) : Table α × Bool :=
  match b.route? id with
  | some r => (b.modify id (fun r => { r with live := false, channel := [] }), r.live)
  | none => (b, false)

/-- Counts a subscription. -/
def countSubscribe (b : Table α) : Table α :=
  let st := b.stats
  { b with stats := { st with subscribed := st.subscribed + 1 } }

/-- Removes a route and counts the unsubscription when it was live. -/
def unsubscribe (b : Table α) (id : Nat) : Table α :=
  let (b, was) := b.remove id
  let st := b.stats
  if was then { b with stats := { st with unsubscribed := st.unsubscribed + 1 } } else b

/-- The number of live routes. -/
def active (b : Table α) : Nat := (b.routes.filter (·.live)).length

/-- The names of the queue groups of some routes, each once, in order. -/
def groupNames (rs : List (Route α)) : List String :=
  (rs.filterMap (·.group)).foldl (fun acc g => if acc.contains g then acc else acc ++ [g]) []
    |>.mergeSort (fun a b => decide (a ≤ b))

/-- The routes a message to a subject goes to; the queue cursor moves once per group. -/
def targets (b : Table α) (s : Subject) : Table α × List Nat :=
  let live := b.routes.filter fun r => r.live && r.pattern.covers s
  let plain := (live.filter (·.group.isNone)).map (·.id)
  let (cursor, picks) := (groupNames live).foldl (fun (c, acc) g =>
    let members := live.filter (·.group == some g)
    match members[c % members.length]? with
    | some r => (c + 1, acc ++ [r.id])
    | none => (c + 1, acc)) (b.cursor, [])
  ({ b with cursor }, plain ++ picks)

/-- Puts a message in the channels of its targets; the targets come back. -/
def deliver (b : Table α) (m : Message) : Table α × List Nat :=
  let (b, ids) := b.targets m.subject
  (ids.foldl (fun b id => b.modify id fun r => { r with channel := r.channel ++ [m] }) b, ids)

/-- Checks that a subject can be published to. -/
def publishable (s : Subject) : Except BusError Unit :=
  match s.validate with
  | .error e => .error (.invalidSubject e)
  | .ok () => if s.isWildcard then .error (.wildcardPublish s) else .ok ()

/-- Publishes a message: checked, counted and delivered. -/
def publish (b : Table α) (m : Message) : Except BusError (Table α × List Nat) :=
  let st := b.stats
  (publishable m.subject).map fun () =>
    Table.deliver { b with stats := { st with published := st.published + 1 } } m

/-- Counts a request. -/
def countRequest (b : Table α) : Table α :=
  let st := b.stats
  { b with stats := { st with requests := st.requests + 1 } }

end Table

end Courier.Bus
