import Courier.Number.Signed
import Courier.Header

/-!
# Hiding what differs from run to run

Two parts of a message differ from one run to the next: a generated inbox name (`_INBOX.`
followed by 32 lowercase hexadecimal digits) and a sending time (a `timestamp` header whose
value spells a signed 64-bit integer). Answers that show messages write them `_INBOX.<id>` and
`<ts>`.
-/

namespace Courier

/-- Whether a subject text is a generated inbox. -/
def isInboxText (t : String) : Bool :=
  t.startsWith "_INBOX." && t.length == 39 &&
    ((t.drop 7).toString.all fun c => c.isDigit || ('a' ≤ c && c ≤ 'f'))

/-- A subject text, with a generated inbox hidden when `hide` is set. -/
def shownSubject (hide : Bool) (t : String) : String :=
  if hide && isInboxText t then "_INBOX.<id>" else t

/-- A header value, with a sending time hidden when `hide` is set. -/
def shownHeader (hide : Bool) (key value : String) : String :=
  if hide && key == Headers.timestamp && (parseI64 value).isSome then "<ts>" else value

end Courier
