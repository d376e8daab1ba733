import Courier.Shape

/-!
# Service configuration

The serializable form of a service's options. Every field has a default: prefix `busrpc`,
name `rnd`, no queue group, queues of 1000 envelopes, a telemetry report every 10 000 ms,
quiet logging, no signing key and an empty allowlist.
-/

namespace Courier.Shape

open Json

/-- A service configuration. -/
def serviceConfig : Shape :=
  .record "ServiceConfig"
    [("prefix", .text), ("name", .text), ("queue_name", .optional .text),
      ("publish_queue_size", .nat64 "usize"), ("subscribe_queue_size", .nat64 "usize"),
      ("telemetry_period_ms", .nat64 "u64"), ("verbose", .flag),
      ("signing_key", .optional .text), ("known_identities", .list .text)]
    (some [.string "busrpc", .string "rnd", .null, .nat 1000, .nat 1000, .nat 10000,
      .bool false, .null, .array []])

end Courier.Shape
