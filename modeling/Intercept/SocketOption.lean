import Intercept.Failure.Socket
import Intercept.Ip
import Intercept.Transport

/-!
# Options of transparent sockets

A socket that carries foreign addresses needs an option to be set, and a datagram socket a second
one, by which the system reports where each datagram was sent to. Where a redirected connection was
to go is asked for by a third. Each option has one form for each family.
-/

namespace Intercept

/-- An option of a transparent socket. -/
inductive SocketOption where
  /-- The socket may carry foreign addresses. -/
  | transparent (family : Ip.Family)
  /-- Where a redirected connection was to go. -/
  | intendedDestination (family : Ip.Family)
  /-- Where each datagram was sent to is reported. -/
  | destinationReports (family : Ip.Family)
deriving DecidableEq

namespace SocketOption

def name : SocketOption → String
  | .transparent .ipv4 => "IP_TRANSPARENT"
  | .transparent .ipv6 => "IPV6_TRANSPARENT"
  | .intendedDestination .ipv4 => "SO_ORIGINAL_DST"
  | .intendedDestination .ipv6 => "IP6T_SO_ORIGINAL_DST"
  | .destinationReports .ipv4 => "IP_RECVORIGDSTADDR"
  | .destinationReports .ipv6 => "IPV6_RECVORIGDSTADDR"

def number : SocketOption → Nat
  | .transparent .ipv4 => 19
  | .transparent .ipv6 => 75
  | .intendedDestination _ => 80
  | .destinationReports .ipv4 => 20
  | .destinationReports .ipv6 => 74

/-- The options by which destinations are reported on a socket of a family. An IPv6 socket may also
receive what is addressed to IPv4. -/
def reports : Ip.Family → List SocketOption
  | .ipv4 => [.destinationReports .ipv4]
  | .ipv6 => [.destinationReports .ipv6, .destinationReports .ipv4]

/-- The options of a transparent socket, in the order in which they are set. -/
def required (family : Ip.Family) : Transport → List SocketOption
  | .tcp => [.transparent family]
  | .udp => .transparent family :: reports family

/-- Sets options, given the fault that each meets, if any; the first fault ends it. -/
def setAll (fault? : SocketOption → Option IoFault) :
    List SocketOption → Except Failure.Socket Unit
  | [] => .ok ()
  | o :: rest => match fault? o with
    | some f => .error (.ofOption o.name f)
    | none => setAll fault? rest

/-! ### Kinds of sockets -/

/-- The transport of a socket's type; types that are neither streams nor datagrams have none. -/
def transportOfType : Int → Except Failure.Socket Transport
  | 1 => .ok .tcp
  | 2 => .ok .udp
  | type => .error (.unsupportedType type)

end SocketOption

end Intercept
