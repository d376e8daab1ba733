/-!
# Connecting to a NATS server

A server is named by a URL; without `://` it is taken as `nats://` followed by the text. The
URL must parse: a scheme of a letter followed by letters, digits, `+`, `-` or `.`, then an
authority whose host holds none of the characters a host may not hold, and whose port, when
given, is a decimal number up to 65535. The scheme must then be one a NATS client speaks:
`nats`, `tls`, `ws` or `wss`.

A parsed address is then dialled over the network. The network the client runs in here has
no route to any host, so every dial ends with the operating system's "network is unreachable".
-/

namespace Courier.Nats

/-- Why a client could not connect. -/
inductive ConnectError where
  /-- The server list did not parse. -/
  | serverParse (reason : String)
  /-- Dialling failed with an operating system error. -/
  | io (reason : String)
  deriving DecidableEq, Repr, Inhabited

namespace ConnectError

/-- The text of a connection error. -/
def message : ConnectError → String
  | .serverParse r => "failed to parse server or server list: " ++ r
  | .io r => "IO error: " ++ r

end ConnectError

/-- A parsed server address. -/
structure ServerAddress where
  scheme : String
  host : String
  port : Option Nat
  deriving DecidableEq, Repr, Inhabited

/-- Whether a character may not stand in a host. -/
def forbiddenInHost (c : Char) : Bool :=
  c.toNat < 0x21 || "#/:<>?@[\\]^|".contains c

/-- Whether a text is a URL scheme. -/
def isScheme (s : String) : Bool :=
  match s.toList with
  | c :: rest => c.isAlpha && rest.all fun d => d.isAlphanum || d == '+' || d == '-' || d == '.'
  | [] => false

/-- The port of the text after a host's colon. -/
def parsePort (t : String) : Except String (Option Nat) :=
  if t.isEmpty then .ok none
  else if t.all Char.isDigit then
    match t.toNat? with
    | some n => if n ≤ 65535 then .ok (some n) else .error "invalid port number"
    | none => .error "invalid port number"
  else .error "invalid port number"

/-- The host and port of an authority (the part after any user information). -/
def parseHostPort (auth : String) : Except String (String × Option Nat) :=
  let hostPart := match auth.splitOn "@" with
    | [] => auth
    | parts => parts.getLastD auth
  if hostPart.startsWith "[" then
    match hostPart.splitOn "]" with
    | [inside, rest] =>
      let body := (inside.drop 1).toString
      if body.isEmpty || !(body.all fun c => c.isDigit || ('a' ≤ c && c ≤ 'f') ||
          ('A' ≤ c && c ≤ 'F') || c == ':' || c == '.') then .error "invalid IPv6 address"
      else if rest.isEmpty then .ok ("[" ++ body ++ "]", none)
      else if rest.startsWith ":" then
        (parsePort (rest.drop 1).toString).map fun p => ("[" ++ body ++ "]", p)
      else .error "invalid IPv6 address"
    | _ => .error "invalid IPv6 address"
  else
    let (host, port) := match hostPart.splitOn ":" with
      | h :: rest => (h, if rest.isEmpty then none else some (":".intercalate rest))
      | [] => (hostPart, none)
    if host.any forbiddenInHost then .error "invalid domain character"
    else match port with
      | some p => (parsePort p).map fun p => (host, p)
      | none => .ok (host, none)

/-- The address a server URL names. -/
def parseServer (input : String) : Except String ServerAddress :=
  let url := if (input.splitOn "://").length > 1 then input else "nats://" ++ input
  let invalid (r : String) : Except String ServerAddress :=
    .error ("NATS server URL is invalid: " ++ r)
  match url.splitOn ":" with
  | scheme :: _ =>
    if !isScheme scheme then invalid "relative URL without a base"
    else
      let rest := (url.drop (scheme.length + 1)).toString
      if !rest.startsWith "//" then invalid "empty host"
      else
        let afterSlashes := (rest.drop 2).toString
        let auth := (afterSlashes.splitOn "/").headD ""
        let auth := (auth.splitOn "?").headD ""
        let auth := (auth.splitOn "#").headD ""
        match parseHostPort auth with
        | .error r => invalid r
        | .ok (host, port) =>
          let scheme := scheme.toLower
          if ["nats", "tls", "ws", "wss"].contains scheme then .ok ⟨scheme, host, port⟩
          else .error ("invalid scheme for NATS server URL: " ++ scheme)
  | [] => invalid "relative URL without a base"

/-- The network a client dials through. -/
inductive Network where
  /-- No host can be reached. -/
  | unreachable
  deriving DecidableEq, Repr, Inhabited

/-- Connects to the server a URL names, over a network. -/
def connect (net : Network) (url : String) : Except ConnectError ServerAddress :=
  match parseServer url with
  | .error r => .error (.serverParse r)
  | .ok _ =>
    match net with
    | .unreachable => .error (.io "Network is unreachable (os error 101)")

end Courier.Nats
