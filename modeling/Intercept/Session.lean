import Intercept.Address
import Intercept.Json
import Intercept.Settings
import Intercept.Transport

/-!
# Sessions

A session carries one client's flow, over TCP or UDP, through the proxy or straight to where the
client wanted to go. Its key says which of these it is. Its sockets are bound to the client's own
address if the settings say so, and otherwise to no address in particular.
-/

namespace Intercept

/-- How the other side is reached. -/
inductive Session.Protocol where
  | socks5
  | direct
deriving DecidableEq

/-- What kind of session it is. -/
structure Session.Key where
  transport : Transport
  protocol : Session.Protocol
  /-- The label of the proxy. -/
  scope : String
deriving DecidableEq

/-- What a session is told. -/
structure Session.Terms where
  /-- Without a proxy every destination is dialed straight. -/
  proxy : Option Settings.ProxyServer
  /-- How long opening the way may take. -/
  negotiationMillis : Nat
  /-- How long datagrams may stay away. -/
  idleMillis : Nat
  /-- Whether outgoing sockets carry the client's address. -/
  spoofSource : Bool
  bufferSize : Nat
deriving DecidableEq

/-- A client's flow. -/
structure Session.Flow where
  client : Endpoint
  destination : Address
deriving DecidableEq

namespace Session

namespace Protocol

def name : Protocol → String
  | .socks5 => "socks5"
  | .direct => "direct"

def ofName? : String → Option Protocol
  | "socks5" => some .socks5
  | "direct" => some .direct
  | _ => none

theorem ofName?_name (p : Protocol) : ofName? p.name = some p := by cases p <;> rfl

end Protocol

namespace Key

/-- The label of sessions that go through no proxy. -/
def directScope : String := "direct"

/-- The key of sessions through a proxy, or straight. -/
def of (transport : Transport) : Option Settings.ProxyServer → Key
  | some u => ⟨transport, .socks5, u.scope⟩
  | none => ⟨transport, .direct, directScope⟩

def text (k : Key) : String := k.transport.name ++ "/" ++ k.protocol.name ++ "/" ++ k.scope

/-- A key as a value. -/
def json (k : Key) : Json := .ofMembers [
  ("transport", .ofString k.transport.name),
  ("protocol", .ofString k.protocol.name),
  ("scope", .ofString k.scope)]

end Key

namespace Terms

/-- What the settings tell every session. -/
def ofSettings (s : Settings) : Terms where
  proxy := s.proxy
  negotiationMillis := s.session.negotiationMillis.toNat
  idleMillis := s.session.idleSeconds.toNat * 1000
  spoofSource := s.session.spoofSource
  bufferSize := s.connection.bufferSize.toNat

/-- The key of a session on a transport. -/
def key (t : Terms) (transport : Transport) : Key := .of transport t.proxy

/-- The end that a client's outgoing socket to a target is bound to. A client's address is used as
it is, even if the target is of the other family. -/
def localEnd (t : Terms) (client target : Endpoint) : Endpoint :=
  if t.spoofSource then .of client.ip 0 else .of (Ip.unspecified target.family) 0

end Terms

end Session

end Intercept
