import Intercept.Endpoint
import Intercept.Failure.Socket
import Intercept.Transport

/-!
# Host networks

A host answers each request for a socket, each bind and each connect. What it answers is all that
matters of it here. One particular host has no interface up: it binds what needs no interface, and
reaches nothing.
-/

namespace Intercept

/-- Why a transparent socket is refused. -/
inductive Network.Refusal where
  | unprivileged
  | creation (fault : IoFault)
  | option (name : String) (fault : IoFault)
deriving DecidableEq

/-- What a host answers. -/
structure Network where
  /-- Why a transparent socket of a family is refused, if it is. -/
  refusal? : Ip.Family → Transport → Option Network.Refusal
  /-- Why a socket cannot be bound to an endpoint, if it cannot. -/
  bindFault? : Transport → Endpoint → Option IoFault
  /-- Why a socket bound to the first endpoint cannot be connected to the second, if it cannot. -/
  connectFault? : Transport → Endpoint → Endpoint → Option IoFault

namespace Network

/-- The failure that a refusal is. -/
def Refusal.failure : Refusal → Failure.Socket
  | .unprivileged => .privilegeDenied
  | .creation fault => .creation fault
  | .option name fault => .ofOption name fault

/-- The same host, except that it refuses every socket. -/
def refusing (n : Network) (r : Refusal) : Network := { n with refusal? := fun _ _ => some r }

/-! ### A host without interfaces -/

/-- Error numbers that a host without interfaces reports. -/
def invalidArgument : IoFault := .system 22

/-- There is no interface of the given number. -/
def noDevice : IoFault := .system 19

/-- No interface has the address. -/
def notAvailable : IoFault := .system 99

/-- No interface leads to the address. -/
def unreachable : IoFault := .system 101

/-- Whether an IPv6 address is valid on one link only. -/
def isLinkLocal (ip : Ip.V6) : Bool := ip.g0 &&& 0xffc0 = 0xfe80

/-- Whether an IPv6 address stands for a group. -/
def isMulticast (ip : Ip.V6) : Bool := ip.g0 &&& 0xff00 = 0xff00

/-- Without an interface no IPv4 address counts as foreign, and of IPv6 only "any" as local. -/
def downBindFault? (transport : Transport) : Endpoint → Option IoFault
  | .v4 _ _ => none
  | .v6 ip _ scope =>
    if ip = .unspecified then none
    else if isMulticast ip then
      match transport with
      | .tcp => some invalidArgument
      | .udp => none
    else if isLinkLocal ip then some (if scope = 0 then invalidArgument else noDevice)
    else some notAvailable

/-- Without an interface nothing is reached. -/
def downConnectFault? (_ : Transport) (_ : Endpoint) : Endpoint → Option IoFault
  | .v4 _ _ => some unreachable
  | .v6 ip _ scope =>
    if isLinkLocal ip && scope = 0 then some invalidArgument else some unreachable

/-- A host that has no interface up and refuses no socket. -/
def down : Network := ⟨fun _ _ => none, downBindFault?, downConnectFault?⟩

end Network

end Intercept
