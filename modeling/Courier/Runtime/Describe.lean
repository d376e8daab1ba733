import Courier.Runtime.Outbound
import Courier.Text.Quote
import Courier.Masking

/-!
# Diagnostic texts

The diagnostic forms of the things on a bus, as their owners print them: byte strings as
`b"…"` with escapes, header maps as `HeaderMap({…})`, messages and deliveries, the two ends of
a stream, the registrar, a client connection and a service definition.

Texts that show a message can hide what differs from run to run: a sending time (a header
`timestamp` whose value reads as a signed 64-bit integer) is written `<ts>`, and a generated
inbox `_INBOX.` followed by 32 hexadecimal digits is written `_INBOX.<id>`.
-/

namespace Courier.Runtime

/-- The two lowercase hexadecimal digits of a byte. -/
def hexByte (b : UInt8) : String :=
  let d := Nat.toDigits 16 b.toNat
  String.ofList (if d.length < 2 then '0' :: d else d)

/-- The escaped form of one byte inside `b"…"`. -/
def byteEscape (b : UInt8) : String :=
  if b == 10 then "\\n"
  else if b == 13 then "\\r"
  else if b == 9 then "\\t"
  else if b == 92 then "\\\\"
  else if b == 34 then "\\\""
  else if b == 0 then "\\0"
  else if 0x20 ≤ b && b < 0x7f then (Char.ofNat b.toNat).toString
  else "\\x" ++ hexByte b

/-- A byte string as `b"…"`. -/
def bytesText (b : ByteArray) : String :=
  "b\"" ++ String.join (b.toList.map byteEscape) ++ "\""

/-- A list of quoted texts in brackets. -/
def quotedList (xs : List String) : String :=
  "[" ++ ", ".intercalate (xs.map Text.quote) ++ "]"

/-- A header map as `HeaderMap({…})`. -/
def headersText (hide : Bool) (h : Headers) : String :=
  "HeaderMap(\x7b" ++ ", ".intercalate (h.entries.map fun (k, vs) =>
    Text.quote k ++ ": " ++ quotedList (vs.map (shownHeader hide k))) ++ "\x7d)"

/-- A subject as `Subject("…")`. -/
def subjectText (hide : Bool) (s : Subject) : String :=
  "Subject(" ++ Text.quote (shownSubject hide s.text) ++ ")"

/-- A message as its owner prints it. -/
def messageText (hide : Bool) (m : Message) : String :=
  "Message \x7b subject: " ++ subjectText hide m.subject ++ ", reply: " ++
    (match m.reply with
      | some r => "Some(" ++ subjectText hide r ++ ")"
      | none => "None") ++
    ", payload: " ++ bytesText m.payload ++ ", headers: " ++ headersText hide m.headers ++ " \x7d"

/-- A delivery, showing only its message. -/
def deliveryText (hide : Bool) (m : Message) : String :=
  "Delivery \x7b message: " ++ messageText hide m ++ ", .. \x7d"

/-- The server end of a stream: the subject it arrived on, its reply headers and whether its
request was read. -/
def serverStreamText (subject : Subject) (headers : Headers) (received : Bool) : String :=
  "ServerStream \x7b subject: " ++ subjectText false subject ++ ", headers: " ++
    headersText false headers ++ ", received: " ++ toString received ++ ", .. \x7d"

/-- The client end of a stream. -/
def clientStreamText (s : CallStream) : String :=
  "ClientStream \x7b subject: " ++ subjectText true s.subject ++ ", reply_subject: " ++
    subjectText true s.reply ++ ", closed: " ++ toString s.closed ++ ", .. \x7d"

/-- A registrar: its service, its extra prefix and the names of its definitions. -/
def registrarText (service : Service) (pre : String) (names : List String) : String :=
  "ServiceRegistrar \x7b service: " ++ service.describe ++ ", prefix: " ++ Text.quote pre ++
    ", services: " ++ quotedList names ++ ", .. \x7d"

/-- A client connection: its service and the remote prefix. -/
def connText (service : Service) (pre : String) : String :=
  "ClientConn \x7b service: " ++ service.describe ++ ", prefix: " ++ Text.quote pre ++ ", .. \x7d"

/-- A service definition: its name and the names of its methods. -/
def definitionText (d : Definition) : String :=
  "ServiceDefinition \x7b full_name: " ++ Text.quote d.fullName ++ ", methods: " ++
    quotedList (d.methods.map Prod.fst) ++ " \x7d"

end Courier.Runtime
