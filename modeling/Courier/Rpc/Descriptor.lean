import Courier.Keyed
import Courier.Text.Blank
import Courier.Rpc.Error

/-!
# Service descriptors

A service descriptor names a service by its full name, such as `types.rpc.TestService`, and
lists its methods; it may fix the subject tokens of the service. A method is unary, streams
responses from the server, or streams both ways; it may fix its own subject tokens, and a
method that skips its inputs cannot be called.

The registry holds descriptors by full name. A method path `/service/method` (the leading
slash optional) resolves to a descriptor and a method.
-/

namespace Courier

/-- How a method exchanges messages. -/
inductive MethodKind where
  | unary
  | serverStreaming
  | bidiStreaming
  deriving DecidableEq, Repr, Inhabited

/-- Whether a kind of method streams. -/
def MethodKind.isStreaming : MethodKind → Bool
  | .unary => false
  | _ => true

/-- A method of a service. -/
structure MethodDescriptor where
  name : String
  kind : MethodKind := .unary
  subjectSuffix : Option String := none
  skipInputs : Bool := false
  deriving DecidableEq, Repr, Inhabited

/-- A service: its full name, its methods, and the subject tokens it fixes, if any. -/
structure ServiceDescriptor where
  fullName : String
  methods : List MethodDescriptor := []
  subjectPrefix : Option String := none
  deriving DecidableEq, Repr, Inhabited

namespace ServiceDescriptor

/-- The last dotted part of the full name. -/
def name (d : ServiceDescriptor) : String :=
  (Text.split d.fullName '.').getLastD d.fullName

/-- The dotted part before the name, or empty when there is none. -/
def packageName (d : ServiceDescriptor) : String :=
  match (Text.split d.fullName '.').reverse with
  | _ :: pkg :: _ => pkg
  | _ => ""

/-- The first method of a name. -/
def method? (d : ServiceDescriptor) (name : String) : Option MethodDescriptor :=
  d.methods.find? (·.name == name)

end ServiceDescriptor

/-- Service descriptors by full name. -/
structure DescriptorRegistry where
  services : List (String × ServiceDescriptor) := []
  deriving Repr, Inhabited

namespace DescriptorRegistry

/-- Adds a descriptor; refused when its full name is taken. -/
def register (r : DescriptorRegistry) (d : ServiceDescriptor) :
    Except RpcError DescriptorRegistry :=
  if Keyed.contains d.fullName r.services then .error (.duplicateService d.fullName)
  else .ok ⟨Keyed.insert d.fullName d r.services⟩

/-- The descriptor of a full name. -/
def service? (r : DescriptorRegistry) (name : String) : Option ServiceDescriptor :=
  Keyed.find? name r.services

/-- The parts of a method path: service and method names, both nonempty, the method without a
slash. -/
def splitPath (path : String) : Option (String × String) :=
  let trimmed := if path.startsWith "/" then (path.drop 1).toString else path
  match Text.split trimmed '/' with
  | svc :: rest@(_ :: _) =>
    let m := "/".intercalate rest
    if svc.isEmpty || m.isEmpty || rest.length > 1 then none else some (svc, m)
  | _ => none

/-- The descriptor and method a path names. -/
def resolve (r : DescriptorRegistry) (path : String) :
    Except RpcError (ServiceDescriptor × MethodDescriptor) :=
  match splitPath path with
  | none => .error (.invalidMethod path)
  | some (svc, m) =>
    match r.service? svc with
    | none => .error (.unknownService svc)
    | some d =>
      match d.method? m with
      | none => .error (.unknownMethod svc m)
      | some md => .ok (d, md)

/-- The number of descriptors. -/
def size (r : DescriptorRegistry) : Nat := r.services.length

/-- Whether the registry is empty. -/
def isEmpty (r : DescriptorRegistry) : Bool := r.services.isEmpty

end DescriptorRegistry

end Courier
