import Courier.Subject
import Courier.Header

/-!
# Messages

A message carries a payload of bytes to a subject, with headers and, when an answer is
wanted, the subject to reply to.
-/

namespace Courier

/-- A message on the bus. -/
structure Message where
  subject : Subject
  reply : Option Subject := none
  payload : ByteArray := .empty
  headers : Headers := {}
  deriving Inhabited

namespace Message

/-- The number of payload bytes. -/
def size (m : Message) : Nat := m.payload.size

/-- Whether the payload is empty. -/
def isEmpty (m : Message) : Bool := m.payload.size == 0

end Message

end Courier
