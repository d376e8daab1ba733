import Courier.Message

/-!
# Headers through the NATS client

The NATS client library keeps headers in a map of its own, from names to lists of values.
Sending converts the bus's headers into it, appending every value of every name in turn;
receiving converts back, appending every value the library's map lists under each name, in the
order the map lists them.

The library's map is not part of this model. `HeaderStore` is what the conversions use of it:
the empty map, appending a value under a name, and the names with their values in the map's own
order. A message as the library hands it over carries such a map; of the status, description and
length it also carries, the conversion reads nothing.
-/

namespace Courier.Nats

/-- What the conversions use of the client library's header map `σ`: the empty map, appending a
value under a name, and every name with its values, in the map's own order. -/
structure HeaderStore (σ : Type) where
  empty : σ
  append : σ → String → String → σ
  entries : σ → List (String × List String)

/-- A message as the client library hands it over. -/
structure Delivered (σ : Type) where
  subject : String
  reply : Option String
  payload : ByteArray
  headers : Option σ

/-- Appends every value of every name in turn. -/
def appendAll {α : Type} (append : α → String → String → α) (entries : List (String × List String))
    (m : α) : α :=
  entries.foldl (fun m e => e.2.foldl (fun m v => append m e.1 v) m) m

variable {σ : Type}

/-- The library's headers of the bus's headers: every value of every name appended to the empty
map. -/
def toNatsHeaders (store : HeaderStore σ) (h : Headers) : σ :=
  appendAll store.append h.entries store.empty

/-- The bus's message of a message the library hands over: the values the library's map lists
appended to empty headers, the subject, reply subject and payload as they are. -/
def fromNats (store : HeaderStore σ) (m : Delivered σ) : Message :=
  let headers := match m.headers with
    | some nh => appendAll Headers.append (store.entries nh) {}
    | none => {}
  ⟨⟨m.subject⟩, m.reply.map Subject.mk, m.payload, headers⟩

end Courier.Nats
