/-!
# Service errors

Why an operation of a service fails, and the wording of each failure.
-/

namespace Courier

/-- Why an operation of a service fails. -/
inductive ServiceError where
  | alreadyStarted
  | cancelled
  | config (text : String)
  | decode (text : String)
  | encode (text : String)
  | invalidIdentity
  | invalidOptions (text : String)
  | invalidSignature
  | invalidSigningKey (text : String)
  | malformedSignature
  | noReplySubject
  | publishQueueClosed
  | remote (text : String)
  | transport (text : String)
  | unknownIdentity (identity : String)
  deriving DecidableEq, Repr, Inhabited

namespace ServiceError

/-- The wording of a failure. -/
def message : ServiceError → String
  | .alreadyStarted => "service already started"
  | .cancelled => "operation cancelled"
  | .config t => "config: " ++ t
  | .decode t => "decode: " ++ t
  | .encode t => "encode: " ++ t
  | .invalidIdentity => "invalid identity"
  | .invalidOptions t => "invalid options: " ++ t
  | .invalidSignature => "invalid signature"
  | .invalidSigningKey t => "invalid signing key: " ++ t
  | .malformedSignature => "malformed signature"
  | .noReplySubject => "message has no reply subject"
  | .publishQueueClosed => "publish queue closed"
  | .remote t => t
  | .transport t => "transport: " ++ t
  | .unknownIdentity i => "unknown identity: " ++ i

end ServiceError

end Courier
