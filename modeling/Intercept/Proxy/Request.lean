import Intercept.Address.Field
import Intercept.Proxy.Credential

/-!
# Requests

What a client asks of the proxy once it has identified itself: a connection to a destination, or a
relay for its datagrams. A connection to port 0 is asked for at port 80.
-/

namespace Intercept.Proxy

/-- What the proxy is asked for. -/
inductive Command where
  | connect
  | udpAssociate
deriving DecidableEq

namespace Command

def code : Command → UInt8
  | .connect => 1
  | .udpAssociate => 3

def ofName? : String → Option Command
  | "connect" => some .connect
  | "udp_associate" => some .udpAssociate
  | _ => none

end Command

/-- The port asked for in place of port 0. -/
def defaultPort : UInt16 := 80

/-- The destination that a command names for a target. -/
def requested (command : Command) (target : Address) : Address :=
  match command with
  | .connect => if target.port = 0 then target.withPort defaultPort else target
  | .udpAssociate => target

/-- The message that asks the proxy for a connection or a relay. -/
def request (command : Command) (target : Address) : Except Failure.Negotiation Bytes :=
  match (requested command target).encode with
  | .ok field => .ok (version :: command.code :: 0 :: field)
  | .error e => .error e

/-- The address named where the client does not know yet where its datagrams will come from. -/
def anyAddress : Address := .v4 .unspecified 0

end Intercept.Proxy
