import Courier.Identity
import Courier.Text.Blank
import Courier.Service.Config

/-!
# Service options

The options of a service: the first two subject tokens (prefix and name), an optional queue
group, the capacities of the publish and stream queues, the telemetry period, verbosity, the
signing key and the allowlist of known identities.

Options are valid when prefix and name are not blank, both capacities are positive and the
telemetry period is positive; the checks run in that order. A configuration becomes options
by decoding its signing key (hexadecimal, 32 bytes), dropping an empty queue group, adding
the known identities that decode (malformed ones are skipped) and validating the result.
-/

namespace Courier

open Json

/-- The options of a service. -/
structure ServiceOptions where
  pre : String := "busrpc"
  name : String := "rnd"
  queueName : Option String := none
  publishQueueSize : Nat := 1000
  subscribeQueueSize : Nat := 1000
  telemetryPeriodMs : Nat := 10000
  verbose : Bool := false
  signingKey : Option SigningKey := none
  /-- The allowlist, keyed by lowercase identity. -/
  knownIdentities : List (String × VerifyingKey) := []

namespace ServiceOptions

/-- Checks the options. -/
def validate (o : ServiceOptions) : Except ServiceError Unit :=
  if (Text.trim o.pre).isEmpty then .error (.invalidOptions "prefix is empty")
  else if (Text.trim o.name).isEmpty then .error (.invalidOptions "name is empty")
  else if o.publishQueueSize == 0 then .error (.invalidOptions "publish queue size is zero")
  else if o.subscribeQueueSize == 0 then .error (.invalidOptions "subscribe queue size is zero")
  else if o.telemetryPeriodMs == 0 then .error (.invalidOptions "telemetry period is zero")
  else .ok ()

/-- Adds public keys to the allowlist. -/
def withKnownKeys (o : ServiceOptions) (keys : List VerifyingKey) : ServiceOptions :=
  { o with
    knownIdentities := keys.foldl (fun acc k => Keyed.insert k.identity k acc) o.knownIdentities }

/-- Adds the identities that decode to the allowlist; malformed ones are skipped. -/
def withKnownIdentities (o : ServiceOptions) (ids : List String) : ServiceOptions :=
  o.withKnownKeys (ids.filterMap fun s => (decodeIdentity s).toOption)

/-- The identity of a service with these options. -/
def identity (o : ServiceOptions) : Identity := Identity.make o.signingKey o.knownIdentities

end ServiceOptions

/-- The signing key of a hexadecimal seed. -/
def decodeSigningKey (seed : String) : Except ServiceError SigningKey :=
  match Text.hexDecode seed with
  | .error e => .error (.invalidSigningKey e.message)
  | .ok b => if b.size == 32 then .ok ⟨b⟩ else .error (.invalidSigningKey "expected 32 bytes")

/-- The options of a decoded service configuration. -/
def ServiceOptions.ofConfig (config : Value) : Except ServiceError ServiceOptions :=
  let text (k : String) := ((config.get? k).bind Value.str?).getD ""
  let num (k : String) := (((config.get? k).bind Value.int?).getD 0).toNat
  let key : Except ServiceError (Option SigningKey) :=
    match (config.get? "signing_key").bind Value.str? with
    | some s => (decodeSigningKey s).map some
    | none => .ok none
  match key with
  | .error e => .error e
  | .ok signingKey =>
    let o : ServiceOptions :=
      { pre := text "prefix", name := text "name",
        queueName := ((config.get? "queue_name").bind Value.str?).filter (!·.isEmpty),
        publishQueueSize := num "publish_queue_size",
        subscribeQueueSize := num "subscribe_queue_size",
        telemetryPeriodMs := num "telemetry_period_ms",
        verbose := ((config.get? "verbose").bind Value.bool?).getD false,
        signingKey }
    let o := o.withKnownIdentities
      ((((config.get? "known_identities").bind Value.items?).getD []).filterMap Value.str?)
    o.validate.map fun () => o

end Courier
