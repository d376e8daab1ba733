import Courier.Shape

/-!
# Service payloads

The shapes of the payloads services exchange: the error of a remote call, telemetry reports,
pings and pongs, delivery counters, and header maps. Every record but the counters takes a
default for a missing field.
-/

namespace Courier.Shape

open Json

/-- An error reply: `{error}`. -/
def rpcError : Shape := .record "RpcError" [("error", .text)] (some [.string ""])

/-- A telemetry report: its nonce and a table of status values. -/
def telemetry : Shape :=
  .record "Telemetry" [("nonce", .text), ("status", .table .any)] (some [.string "", .object []])

/-- A health-check request. -/
def telemetryPing : Shape :=
  .record "TelemetryPing" [("nonce", .text), ("timestamp", .text)] (some [.string "", .string ""])

/-- A health-check answer with its one-way latency. -/
def telemetryPong : Shape :=
  .record "TelemetryPong" [("nonce", .text), ("timestamp", .text), ("owl", .text)]
    (some [.string "", .string "", .string ""])

/-- Delivery counters; every field is required. -/
def counterSnapshot : Shape :=
  .record "CounterSnapshot"
    [("msg_in", .nat64 "u64"), ("msg_out", .nat64 "u64"), ("bytes_in", .nat64 "u64"),
      ("bytes_out", .nat64 "u64")] none

/-- A header map: each name with its list of values. -/
def headers : Shape := .table (.list .text)

end Courier.Shape
