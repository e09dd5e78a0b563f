import Intercept.Json.Reader
import Intercept.Json.Record
import Intercept.Settings.Rules

/-!
# Settings as text

Settings are written as JSON: an object of parts, each part an object of fields, in a fixed order.
Reading is more generous: what is not given has its default, unknown members are passed over, and a
part may be given as an array. Endpoints are strings.
-/

namespace Intercept.Settings

/-! ### Writing -/

def endpointJson (e : Endpoint) : Json := .ofString e.text

namespace Listen

def json (l : Listen) : Json := .ofMembers [
  ("address", endpointJson l.endpoint),
  ("tcp_enabled", .bool l.tcp),
  ("udp_enabled", .bool l.udp),
  ("tcp_backlog", .natural l.backlog.toNat),
  ("reuse_port", .bool l.reusePort)]

end Listen

namespace ProxyServer

def json (u : ProxyServer) : Json := .ofMembers [
  ("address", endpointJson u.endpoint),
  ("username", .ofString u.username),
  ("password", .ofString u.password),
  ("scope", .ofString u.scope)]

end ProxyServer

namespace Session

def json (s : Session) : Json := .ofMembers [
  ("negotiation_timeout_ms", .natural s.negotiationMillis.toNat),
  ("udp_idle_timeout_secs", .natural s.idleSeconds.toNat),
  ("spoof_source", .bool s.spoofSource),
  ("udp_channel_capacity", .natural s.queueCapacity.toNat)]

end Session

namespace Connection

def json (c : Connection) : Json := .ofMembers [
  ("max_connections", .natural c.maximum.toNat),
  ("buffer_size", .natural c.bufferSize.toNat),
  ("drain_timeout_secs", .natural c.drainSeconds.toNat)]

end Connection

namespace Log

def json (l : Log) : Json := .ofMembers [
  ("level", .ofString l.level),
  ("format", .ofString l.format),
  ("target", .bool l.target)]

end Log

def json (s : Settings) : Json := .ofMembers [
  ("listen", s.listen.json),
  ("upstream", match s.proxy with
    | some u => u.json
    | none => .null),
  ("session", s.session.json),
  ("connection", s.connection.json),
  ("log", s.log.json)]

def text (s : Settings) : String := s.json.text

/-! ### Reading -/

def endpoint? (v : Json) : Option Endpoint := v.string?.bind Endpoint.ofText?

namespace Listen

def fields : List String := ["address", "tcp_enabled", "udp_enabled", "tcp_backlog", "reuse_port"]

def ofJson? (v : Json) : Option Listen := do
  let r ← Json.Record.ofJson? fields v
  return {
    endpoint := ← r.required "address" endpoint?
    tcp := ← r.defaulted "tcp_enabled" true Json.bool?
    udp := ← r.defaulted "udp_enabled" true Json.bool?
    backlog := ← r.defaulted "tcp_backlog" 1024 Json.word32?
    reusePort := ← r.defaulted "reuse_port" false Json.bool? }

end Listen

namespace ProxyServer

def fields : List String := ["address", "username", "password", "scope"]

def ofJson? (v : Json) : Option ProxyServer := do
  let r ← Json.Record.ofJson? fields v
  return {
    endpoint := ← r.required "address" endpoint?
    username := ← r.defaulted "username" "" Json.string?
    password := ← r.defaulted "password" "" Json.string?
    scope := ← r.defaulted "scope" defaultScope Json.string? }

/-- A proxy as a value says, where null says that there is none. -/
def ofNullable? : Json → Option (Option ProxyServer)
  | .null => some none
  | v => (ofJson? v).map some

end ProxyServer

namespace Session

def fields : List String :=
  ["negotiation_timeout_ms", "udp_idle_timeout_secs", "spoof_source", "udp_channel_capacity"]

def ofJson? (v : Json) : Option Session := do
  let r ← Json.Record.ofJson? fields v
  return {
    negotiationMillis :=
      ← r.defaulted "negotiation_timeout_ms" default.negotiationMillis Json.word64?
    idleSeconds := ← r.defaulted "udp_idle_timeout_secs" default.idleSeconds Json.word64?
    spoofSource := ← r.defaulted "spoof_source" default.spoofSource Json.bool?
    queueCapacity := ← r.defaulted "udp_channel_capacity" default.queueCapacity Json.word64? }

end Session

namespace Connection

def fields : List String := ["max_connections", "buffer_size", "drain_timeout_secs"]

def ofJson? (v : Json) : Option Connection := do
  let r ← Json.Record.ofJson? fields v
  return {
    maximum := ← r.defaulted "max_connections" default.maximum Json.word64?
    bufferSize := ← r.defaulted "buffer_size" default.bufferSize Json.word64?
    drainSeconds := ← r.defaulted "drain_timeout_secs" default.drainSeconds Json.word64? }

end Connection

namespace Log

def fields : List String := ["level", "format", "target"]

def ofJson? (v : Json) : Option Log := do
  let r ← Json.Record.ofJson? fields v
  return {
    level := ← r.defaulted "level" default.level Json.string?
    format := ← r.defaulted "format" default.format Json.string?
    target := ← r.defaulted "target" default.target Json.bool? }

end Log

def parts : List String := ["listen", "upstream", "session", "connection", "log"]

def ofJson? (v : Json) : Option Settings := do
  let r ← Json.Record.ofJson? parts v
  return {
    listen := ← r.required "listen" Listen.ofJson?
    proxy := ← r.defaulted "upstream" none ProxyServer.ofNullable?
    session := ← r.defaulted "session" .default Session.ofJson?
    connection := ← r.defaulted "connection" .default Connection.ofJson?
    log := ← r.defaulted "log" .default Log.ofJson? }

/-- The settings that a text spells, if it spells some that satisfy every rule. What is wrong with a
text that spells none is said by naming where it came from. -/
def ofText (origin text : String) : Except Failure.Settings Settings :=
  match (Json.ofText? text).bind ofJson? with
  | none => .error (.parse origin)
  | some s => s.check

/-- The origin of a text that was given directly. -/
def inline : String := "<inline>"

end Intercept.Settings
