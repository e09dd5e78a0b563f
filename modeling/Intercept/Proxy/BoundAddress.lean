import Intercept.Address.Field
import Intercept.Proxy.Dialogue

/-!
# The bound address

The proxy's answer ends with an address field. A client that asked for a relay must know the
address; a client that asked for a connection only has to leave the field behind, and takes no
offence at a name that is no text.
-/

namespace Intercept.Proxy

/-- The number of octets of a host of the given form; only a name has to state it in an octet. -/
def hostLength (form : Address.Form) (stated : Dialogue UInt8) : Dialogue Nat :=
  match form.hostLength? with
  | some length => pure length
  | none => do
    let octet ← stated
    return octet.toNat

/-- Takes an address field and reads it. -/
def takeAddress : Dialogue Address := do
  let tag ← Dialogue.receiveOctet "read address type"
  match Address.Form.ofTag? tag with
  | none => .giveUp (.addressInvalid (.unknownType tag))
  | some form => do
    let length ← hostLength form (Dialogue.receiveOctet "read domain length")
    let host ← Dialogue.receive "read address" length
    let port ← Dialogue.receivePort "read port"
    Dialogue.ofExcept (Address.ofForm form host port)

/-- Takes an address field without reading it. -/
def skipAddress : Dialogue Unit := do
  let tag ← Dialogue.receiveOne "read bound address type"
  match Address.Form.ofTag? tag with
  | none => .giveUp (.addressInvalid (.unknownBoundType tag))
  | some form => do
    let length ← hostLength form (Dialogue.receiveOne "read bound domain length")
    let _ ← Dialogue.receive "read bound address" (length + 2)
    return ()

def readAddress (limit : Stream.Limit) (t : Talk) : Except Talk.Stop Address × Talk :=
  takeAddress.perform limit t

end Intercept.Proxy
