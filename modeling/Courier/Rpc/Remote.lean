import Courier.Rpc.Derive

/-!
# Calling subjects

A client reaches the services of a registry under a remote prefix, with optional variable
values. The subject of a call resolves the method path, derives the method's tokens under the
prefix, and replaces the variables with the service's values. A method that skips its inputs
cannot be called, and a subject left with a wildcard cannot be published to; these are
checked in that order, after the derivation.
-/

namespace Courier

/-- The services a client calls: their registry, the remote prefix and the variables. -/
structure Remote where
  registry : DescriptorRegistry
  pre : String
  vars : Option (List (String × String)) := none
  deriving Repr, Inhabited

namespace Remote

/-- The subject a call of the method path goes to, or why there is none. -/
def subjectFor (r : Remote) (path : String) : Except RpcError Subject :=
  match r.registry.resolve path with
  | .error e => .error e
  | .ok (svc, m) =>
    match Derive.subjectTokens r.pre svc m with
    | .error e => .error e
    | .ok tokens =>
      let vars := Derive.serviceVars svc.fullName r.vars
      let subject := Subject.join (Derive.parametrize tokens vars)
      if m.skipInputs then .error (.callingDisabled svc.fullName m.name)
      else if subject.isWildcard then .error (.invalidSubject subject.text)
      else .ok subject

end Remote

end Courier
