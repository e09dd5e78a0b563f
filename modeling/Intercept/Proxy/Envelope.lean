import Intercept.Address.Field
import Intercept.Failure.Framing

/-!
# The datagram envelope

Between a client and the proxy's relay every datagram travels in an envelope: two reserved octets, a
fragment number, an address field, and the payload. Sent envelopes are never fragments; received
ones are accepted only if they are none and name an IPv4 address. Main statement:
`unwrap_eq_ok_iff`, which says what an accepted envelope looks like.
-/

namespace Intercept.Proxy

/-- A payload with the address that it goes to or comes from. -/
structure Packet where
  address : Address
  payload : Bytes
deriving DecidableEq

namespace Packet

/-- The length of the part before the payload when the address is IPv4. -/
def headerV4 : Nat := 10

/-- The envelope of a packet on a transport; only datagrams have envelopes. -/
def wrap (transport : Transport) (p : Packet) : Except Failure.Framing Bytes :=
  match transport with
  | .tcp => .error (.unsupportedTransport .tcp)
  | .udp => match p.address.encode with
    | .ok field => .ok ([0, 0, 0] ++ field ++ p.payload)
    | .error (.nameTooLong length) => .error (.nameTooLong length)
    | .error e => .error (.invalidAddress e.text)

/-- The packet in an envelope. -/
def unwrap (datagram : Bytes) : Except Failure.Framing Packet :=
  match datagram with
  | _ :: _ :: fragment :: tag :: a :: b :: c :: d :: high :: low :: payload =>
    if fragment ≠ 0 then .error (.fragmented fragment)
    else if tag ≠ Address.Form.v4.tag then .error (.unsupportedAddressType tag)
    else .ok ⟨.v4 ⟨a, b, c, d⟩ (Bytes.ofBE16 high low), payload⟩
  | _ => .error (.truncated headerV4 datagram.length)

/-- **Accepted envelopes.** An envelope is accepted exactly if it is no fragment and names an IPv4
address; the packet is then what stands in it. -/
theorem unwrap_eq_ok_iff {datagram : Bytes} {p : Packet} :
    unwrap datagram = .ok p ↔ ∃ r s ip port payload,
      datagram = r :: s :: 0 :: Address.encodeV4 ip port ++ payload
        ∧ p = ⟨.v4 ip port, payload⟩ := by
  constructor
  · intro h
    unfold unwrap at h
    split at h
    · rename_i r s fragment tag a b c d high low payload
      split at h
      · cases h
      · split at h
        · cases h
        · rename_i whole known
          simp only [ne_eq, Decidable.not_not] at whole known
          cases h
          refine ⟨r, s, ⟨a, b, c, d⟩, Bytes.ofBE16 high low, payload, ?_, rfl⟩
          subst whole known
          simp [Address.encodeV4, Ip.V4.octets, Bytes.be16_ofBE16, Address.Form.tag]
    · cases h
  · rintro ⟨r, s, ip, port, payload, rfl, rfl⟩
    simp [unwrap, Address.encodeV4, Ip.V4.octets, Bytes.be16, Address.Form.tag, Bytes.ofBE16_be16]

end Packet

end Intercept.Proxy
