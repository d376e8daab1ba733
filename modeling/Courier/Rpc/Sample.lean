import Courier.Shape
import Courier.Rpc.Descriptor

/-!
# The sample service

The sample service adds two integers. Its request carries `a`, `b` and a `count` of stream
responses; its response carries the sum, the subject the call arrived on and a header value.
Missing fields are zero or empty. Its descriptor fixes the service tokens `override.test`
and has a unary, a server-streaming and a bidirectional method, a watch on `watch.{id}`, a slow
unary method and a method that cannot be called. The summing handler of a plain service reads
the same two integers, without defaults.
-/

namespace Courier

open Json

/-- A request of the sample service. -/
def Shape.sumRequest : Shape :=
  .record "TestRequest" [("a", .int64), ("b", .int64), ("count", .int64)]
    (some [.nat 0, .nat 0, .nat 0])

/-- A response of the sample service. -/
def Shape.sumResponse : Shape :=
  .record "TestResponse" [("value", .int64), ("subject", .text), ("header", .text)]
    (some [.nat 0, .string "", .string ""])

/-- A request of the summing handler: two integers, both required. -/
def Shape.sum : Shape := .record "Sum" [("a", .int64), ("b", .int64)] none

/-- The payload of a sample response. -/
def sampleResponse (value : Int) (subject header : String) : Value :=
  .object [("value", .int value), ("subject", .string subject), ("header", .string header)]

/-- The descriptor of the sample service. -/
def ServiceDescriptor.sample : ServiceDescriptor where
  fullName := "types.rpc.TestService"
  subjectPrefix := some "override.test"
  methods := [
    { name := "Test", subjectSuffix := some "override.test.method" },
    { name := "TestStream", kind := .serverStreaming },
    { name := "TestBidi", kind := .bidiStreaming },
    { name := "Watch", kind := .serverStreaming, subjectSuffix := some "watch.\x7bid\x7d" },
    { name := "Sleep" },
    { name := "Publish", skipInputs := true }]

end Courier
