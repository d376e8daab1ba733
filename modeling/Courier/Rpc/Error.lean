import Courier.Service.Error

/-!
# Errors of remote calls

Why a remote call, a stream or a registrar operation fails. A failure of the underlying
service is carried as it is, except that a cancellation and a remote error become the call's
own.
-/

namespace Courier

/-- Why a remote call fails. -/
inductive RpcError where
  | alreadyStarted
  | cancelled
  | callingDisabled (service method : String)
  | deadlineExceeded
  | duplicateService (name : String)
  | invalidMethod (path : String)
  | invalidSubject (text : String)
  | notStarted
  | remote (text : String)
  | sendClosed
  | service (e : ServiceError)
  | streamClosed
  | unknownMethod (service method : String)
  | unknownService (name : String)
  deriving DecidableEq, Repr, Inhabited

namespace RpcError

/-- The wording of a failure. -/
def message : RpcError → String
  | .alreadyStarted => "registrar already started"
  | .cancelled => "context cancelled"
  | .callingDisabled s m => "calling disabled: " ++ m ++ "@" ++ s
  | .deadlineExceeded => "deadline exceeded"
  | .duplicateService n => "duplicate service descriptor: " ++ n
  | .invalidMethod p => "invalid method: " ++ p
  | .invalidSubject t => "invalid subject: " ++ t
  | .notStarted => "service not started"
  | .remote t => t
  | .sendClosed => "send closed"
  | .service e => e.message
  | .streamClosed => "stream closed"
  | .unknownMethod s m => "unknown method: " ++ m ++ "@" ++ s
  | .unknownService n => "unknown service: " ++ n

/-- A service failure as a call's failure. -/
def ofService : ServiceError → RpcError
  | .cancelled => .cancelled
  | .remote t => .remote t
  | e => .service e

end RpcError

end Courier
