/-!
# Cancellation tokens

Tokens form a forest: a token made from another is its child. Cancelling a token cancels its
whole subtree, and a child made from a cancelled token starts cancelled; so a token counts as
cancelled exactly when it or one of its ancestors was cancelled. Cancelling a child leaves its
parent alone.

Tokens are numbered in creation order, and a parent is always older than its child, which
bounds the walk up to the root.
-/

namespace Courier

/-- The tokens made so far: each one's parent and whether it was cancelled itself. -/
structure Tokens where
  parents : Array (Option Nat) := #[]
  flags : Array Bool := #[]
  deriving Inhabited

namespace Tokens

/-- A new token, a root or the child of `parent`. -/
def fresh (t : Tokens) (parent : Option Nat) : Tokens × Nat :=
  (⟨t.parents.push parent, t.flags.push false⟩, t.parents.size)

/-- Cancels a token (and so its subtree). -/
def cancel (t : Tokens) (i : Nat) : Tokens :=
  { t with flags := t.flags.set! i true }

/-- Whether a token or one of its ancestors was cancelled, looking at most `fuel` levels up. -/
def cancelledWithin (t : Tokens) : Nat → Nat → Bool
  | 0, _ => false
  | fuel + 1, i =>
    t.flags.getD i false ||
      match t.parents.getD i none with
      | some p => cancelledWithin t fuel p
      | none => false

/-- Whether a token is cancelled. -/
def isCancelled (t : Tokens) (i : Nat) : Bool := t.cancelledWithin (i + 1) i

end Tokens

end Courier
