import Intercept.Settings.Rules

/-!
# Settings from the environment

Four variables override a field each: the listening endpoint, the log level, the maximum number of
connections, and the proxy's endpoint. They are applied in that order; the first whose value cannot
be read is reported, and the result must satisfy the rules again. A proxy's endpoint makes a proxy
without credentials if there is none, and leaves everything else about a proxy that there is.
-/

namespace Intercept

/-- The value of each variable that is set. -/
abbrev Environment := String → Option String

namespace Settings

/-- A variable that overrides a field. -/
inductive Override where
  | listenEndpoint
  | logLevel
  | maximum
  | proxyEndpoint
deriving DecidableEq

namespace Override

/-- The overrides, in the order in which they are applied. -/
def all : List Override := [.listenEndpoint, .logLevel, .maximum, .proxyEndpoint]

def variableName : Override → String
  | .listenEndpoint => "TPROXY_TUNNEL_LISTEN_ADDR"
  | .logLevel => "TPROXY_TUNNEL_LOG_LEVEL"
  | .maximum => "TPROXY_TUNNEL_MAX_CONNECTIONS"
  | .proxyEndpoint => "TPROXY_TUNNEL_UPSTREAM_ADDR"

/-- What is said about a value that is no endpoint. -/
def notEndpoint (value : String) : String := "Invalid socket address: " ++ value

/-- What is said about a value that is no number. -/
def notNumber (value : String) : String := "Invalid number: " ++ value

/-- The number that a value spells: digits, with or without a plus sign before them. -/
def number? (value : String) : Option UInt64 :=
  let digits := match value.toList with
    | '+' :: cs => cs
    | cs => cs
  (Decimal.upTo? 18446744073709551615 digits).map UInt64.ofNat

/-- The settings with one field replaced, or what is wrong with the value. -/
def apply (o : Override) (value : String) (s : Settings) : Except String Settings :=
  match o with
  | .listenEndpoint => match Endpoint.ofText? value with
    | some e => .ok { s with listen := { s.listen with endpoint := e } }
    | none => .error (notEndpoint value)
  | .logLevel => .ok { s with log := { s.log with level := value } }
  | .maximum => match number? value with
    | some n => .ok { s with connection := { s.connection with maximum := n } }
    | none => .error (notNumber value)
  | .proxyEndpoint => match Endpoint.ofText? value with
    | some e =>
      .ok { s with proxy := some { (s.proxy.getD (.at e)) with endpoint := e } }
    | none => .error (notEndpoint value)

end Override

/-- Applies those of the overrides whose variables are set. -/
def applyAll (env : Environment) : List Override → Settings → Except Failure.Settings Settings
  | [], s => .ok s
  | o :: rest, s => match env o.variableName with
    | none => applyAll env rest s
    | some value => match o.apply value s with
      | .ok t => applyAll env rest t
      | .error reason => .error (.environment o.variableName reason)

/-- The settings as the environment changes them, if they still satisfy the rules. -/
def override (env : Environment) (s : Settings) : Except Failure.Settings Settings :=
  match applyAll env Override.all s with
  | .ok t => t.check
  | .error e => .error e

end Settings

end Intercept
