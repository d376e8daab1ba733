import Courier.Keyed

/-!
# Header maps

Headers are named lists of text values, kept in key order: the map carries the proof that its
names increase, and every operation keeps it. `append` adds a value after the ones a name
already has; `insert` makes a value the only one; `merge` replaces, for every name of the other
map, the whole list of values.
-/

namespace Courier

/-- Headers: each name with its values, in name order. -/
structure Headers where
  entries : List (String × List String)
  ordered : Keyed.Ordered entries
  deriving DecidableEq, Repr

namespace Headers

/-- No headers. -/
instance : EmptyCollection Headers := ⟨⟨[], Keyed.ordered_nil⟩⟩

instance : Inhabited Headers := ⟨{}⟩

@[simp]
theorem entries_empty : ({} : Headers).entries = [] := rfl

/-- The name of the signer's identity. -/
def identity : String := "identity"

/-- The name of the signature. -/
def signature : String := "signature"

/-- The name of the time of sending. -/
def timestamp : String := "timestamp"

/-- The name of the status of a remote call. -/
def rpcStatus : String := "rpc-status"

/-- The status value that marks an error reply. -/
def rpcStatusError : String := "error"

/-- All values of a name. -/
def getAll (h : Headers) (key : String) : List String := (Keyed.find? key h.entries).getD []

/-- The first value of a name. -/
def get? (h : Headers) (key : String) : Option String := (h.getAll key).head?

/-- Makes `value` the only value of `key`. -/
def insert (h : Headers) (key value : String) : Headers :=
  ⟨Keyed.insert key [value] h.entries, Keyed.ordered_insert _ _ h.ordered⟩

/-- Adds `value` after the values of `key`. -/
def append (h : Headers) (key value : String) : Headers :=
  ⟨Keyed.insert key (h.getAll key ++ [value]) h.entries, Keyed.ordered_insert _ _ h.ordered⟩

/-- Removes a name, giving its values if it was present. -/
def remove (h : Headers) (key : String) : Option (List String) × Headers :=
  (Keyed.find? key h.entries, ⟨Keyed.erase key h.entries, Keyed.ordered_erase key h.ordered⟩)

/-- Whether a name is present. -/
def contains (h : Headers) (key : String) : Bool := Keyed.contains key h.entries

/-- Replaces, for every name of `other`, the whole list of values. -/
def merge (h other : Headers) : Headers :=
  ⟨other.entries.foldl (fun acc (k, vs) => Keyed.insert k vs acc) h.entries,
    Keyed.ordered_foldl_insert other.entries h.ordered⟩

/-- The number of names. -/
def size (h : Headers) : Nat := h.entries.length

/-- Whether there are no names. -/
def isEmpty (h : Headers) : Bool := h.entries.isEmpty

/-- The headers of pairs appended in order. -/
def ofPairs (pairs : List (String × String)) : Headers :=
  pairs.foldl (fun h (k, v) => h.append k v) {}

end Headers

end Courier
