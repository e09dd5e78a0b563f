import Intercept.Endpoint
import Intercept.Proxy.Credential

/-!
# Settings

What the program is told: where to listen, which proxy to go through if any, how sessions behave,
how many there may be, and how to log. Each part has defaults; only the listening endpoint and the
proxy's endpoint have none in a written form.
-/

namespace Intercept

/-- Where connections and datagrams are taken in. -/
structure Settings.Listen where
  endpoint : Endpoint
  tcp : Bool
  udp : Bool
  backlog : UInt32
  reusePort : Bool
deriving DecidableEq

/-- A proxy and how to identify oneself to it. -/
structure Settings.ProxyServer where
  endpoint : Endpoint
  username : String
  password : String
  /-- A label that tells proxies apart. -/
  scope : String
deriving DecidableEq

/-- How a session behaves. -/
structure Settings.Session where
  negotiationMillis : UInt64
  idleSeconds : UInt64
  /-- Whether outgoing sockets carry the client's address. -/
  spoofSource : Bool
  queueCapacity : UInt64
deriving DecidableEq

/-- How many sessions there may be and how large their buffers are. -/
structure Settings.Connection where
  maximum : UInt64
  bufferSize : UInt64
  drainSeconds : UInt64
deriving DecidableEq

/-- How to log. -/
structure Settings.Log where
  level : String
  format : String
  target : Bool
deriving DecidableEq

/-- All that the program is told. -/
structure Settings where
  listen : Settings.Listen
  /-- Without a proxy every destination is dialed straight. -/
  proxy : Option Settings.ProxyServer
  session : Settings.Session
  connection : Settings.Connection
  log : Settings.Log
deriving DecidableEq

namespace Settings

/-! ### Defaults -/

def Listen.at (endpoint : Endpoint) : Listen := ⟨endpoint, true, true, 1024, false⟩

/-- The endpoint at which to listen where nothing is said. -/
def Listen.defaultEndpoint : Endpoint := .v4 ⟨127, 0, 0, 1⟩ 7893

/-- The label of a proxy where nothing is said. -/
def ProxyServer.defaultScope : String := "default"

def ProxyServer.at (endpoint : Endpoint) : ProxyServer := ⟨endpoint, "", "", defaultScope⟩

/-- Sessions where nothing is said. -/
def Session.default : Session := ⟨10000, 60, false, 256⟩

/-- Limits where nothing is said. -/
def Connection.default : Connection := ⟨65536, 65536, 30⟩

/-- Logging where nothing is said. -/
def Log.default : Log := ⟨"info", "json", true⟩

/-- The settings where nothing is said. -/
def default : Settings :=
  ⟨.at Listen.defaultEndpoint, none, Session.default, Connection.default, Log.default⟩

/-! ### Parts -/

def ProxyServer.credential (u : ProxyServer) : Proxy.Credential := ⟨u.username, u.password⟩

/-- A proxy as it may be shown. -/
def ProxyServer.shown (u : ProxyServer) : String :=
  "ProxyConfig \x7b address: " ++ u.endpoint.text ++ ", username: " ++ Quoted.quote u.username
    ++ ", password: " ++ Quoted.quote (Proxy.Credential.redacted u.password)
    ++ ", scope: " ++ Quoted.quote u.scope ++ " \x7d"

end Settings

end Intercept
