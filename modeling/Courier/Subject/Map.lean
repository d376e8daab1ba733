import Courier.Subject
import Courier.Keyed

/-!
# Maps from subjects

A subject map assigns indices to valid subjects, each subject at most once. A search for a
subject looks for a key that covers it (or, for `overlapSearch`, that covers it or is
covered by it); when several keys qualify, the first in key order answers.
-/

namespace Courier

/-- Indices keyed by valid subjects. -/
structure SubjectMap where
  entries : List (String × Nat) := []
  deriving Repr, Inhabited

namespace SubjectMap

/-- Adds a subject: refused when it is invalid or already present. -/
def add (m : SubjectMap) (s : Subject) (index : Nat) : Except SubjectError SubjectMap :=
  match s.validate with
  | .error e => .error e
  | .ok () =>
    if Keyed.contains s.text m.entries then .error (.duplicate s.text)
    else .ok ⟨Keyed.insert s.text index m.entries⟩

/-- The index of exactly this subject. -/
def get? (m : SubjectMap) (s : Subject) : Option Nat := Keyed.find? s.text m.entries

/-- Every entry whose key covers the subject, in key order. -/
def coverers (m : SubjectMap) (s : Subject) : List (String × Nat) :=
  m.entries.filter fun (k, _) => Subject.covers ⟨k⟩ s

/-- Every entry whose key covers the subject or is covered by it, in key order. -/
def overlappers (m : SubjectMap) (s : Subject) : List (String × Nat) :=
  m.entries.filter fun (k, _) => Subject.overlaps ⟨k⟩ s

/-- An entry whose key covers the subject. -/
def search (m : SubjectMap) (s : Subject) : Option (String × Nat) := (m.coverers s).head?

/-- An entry whose key covers the subject or is covered by it. -/
def overlapSearch (m : SubjectMap) (s : Subject) : Option (String × Nat) :=
  (m.overlappers s).head?

/-- The number of subjects. -/
def size (m : SubjectMap) : Nat := m.entries.length

/-- Whether the map is empty. -/
def isEmpty (m : SubjectMap) : Bool := m.entries.isEmpty

end SubjectMap

end Courier
