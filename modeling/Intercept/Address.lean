import Intercept.Endpoint
import Intercept.Failure.Negotiation
import Intercept.Text.Utf8

/-!
# Destination addresses

Where a flow wants to go: an internet address or a name, each with a port. A name is never resolved
here; it travels to the proxy as it is. Of the two ways to write an IPv4 address, as itself and as
the IPv6 address that stands for it, the first is canonical. Main statements: `canonical_ofIp` and
`canonical_ofHost?`, each way of making an address from outside makes a canonical one.
-/

namespace Intercept

/-- Where a flow wants to go. -/
inductive Address where
  | v4 (ip : Ip.V4) (port : UInt16)
  | v6 (ip : Ip.V6) (port : UInt16)
  | name (host : String) (port : UInt16)
deriving DecidableEq

namespace Address

/-- The greatest length of a name, in octets: its length travels in one octet. -/
def maxName : Nat := 255

/-! ### Parts -/

def port : Address → UInt16
  | .v4 _ port => port
  | .v6 _ port => port
  | .name _ port => port

def withPort : Address → UInt16 → Address
  | .v4 ip _, port => .v4 ip port
  | .v6 ip _, port => .v6 ip port
  | .name host _, port => .name host port

def isName : Address → Bool
  | .name _ _ => true
  | _ => false

/-- The endpoint that a literal address is; a name is none. -/
def endpoint? : Address → Option Endpoint
  | .v4 ip port => some (.v4 ip port)
  | .v6 ip port => some (.v6 ip port 0)
  | .name _ _ => none

/-! ### Making addresses -/

/-- A literal address in the form in which it is given. -/
def literal : Ip → UInt16 → Address
  | .v4 ip, port => .v4 ip port
  | .v6 ip, port => .v6 ip port

def ofIp (ip : Ip) (port : UInt16) : Address := literal ip.collapse port

/-- The canonical address of an endpoint; its scope is dropped. -/
def ofEndpoint (e : Endpoint) : Address := ofIp e.ip e.port

/-- The canonical address of four or sixteen octets. -/
def ofOctets (octets : Bytes) (port : UInt16) : Except Failure.Negotiation Address :=
  match octets with
  | [a, b, c, d] => .ok (.v4 ⟨a, b, c, d⟩ port)
  | _ => match Ip.V6.ofOctets? octets with
    | some ip => .ok (ofIp (.v6 ip) port)
    | none => .error (.addressInvalid (.octetCount octets.length))

/-- The canonical form: an IPv6 address that stands for an IPv4 address becomes that address. -/
def canonical : Address → Address
  | .v4 ip port => .v4 ip port
  | .v6 ip port => ofIp (.v6 ip) port
  | .name host port => .name host port

/-- A text without the brackets at its two ends. -/
def unbracketed (host : List Char) : List Char :=
  ((host.dropWhile (· == '[')).reverse.dropWhile (· == ']')).reverse

/-- The address of a host given as text: an internet address if it spells one, else a name. -/
def ofHost? (host : String) (port : UInt16) : Except Failure.Negotiation Address :=
  let bare := unbracketed host.toList
  let name := String.ofList bare
  if bare.isEmpty then .error (.addressInvalid .emptyHost)
  else match Ip.ofChars? bare with
    | some ip => .ok (ofIp ip port)
    | none =>
      if maxName < Utf8.size name then .error (.nameTooLong (Utf8.size name))
      else .ok (.name name port)

def text : Address → String
  | .v4 ip port => ip.text ++ ":" ++ Decimal.text port.toNat
  | .v6 ip port => "[" ++ ip.text ++ "]:" ++ Decimal.text port.toNat
  | .name host port => host ++ ":" ++ Decimal.text port.toNat

/-! ### Canonical addresses -/

@[simp]
theorem canonical_literal (ip : Ip) (port : UInt16) :
    canonical (literal ip port) = ofIp ip port := by
  cases ip <;> rfl

theorem canonical_ofIp (ip : Ip) (port : UInt16) : canonical (ofIp ip port) = ofIp ip port := by
  rw [ofIp, canonical_literal, ofIp, Ip.collapse_collapse]

theorem canonical_ofEndpoint (e : Endpoint) : canonical (ofEndpoint e) = ofEndpoint e :=
  canonical_ofIp e.ip e.port

theorem canonical_ofOctets {octets : Bytes} {port : UInt16} {a : Address}
    (h : ofOctets octets port = .ok a) : a.canonical = a := by
  unfold ofOctets at h
  split at h
  · cases h; rfl
  · split at h
    · cases h; exact canonical_ofIp _ _
    · cases h

theorem canonical_ofHost? {host : String} {port : UInt16} {a : Address}
    (h : ofHost? host port = .ok a) : a.canonical = a := by
  simp only [ofHost?] at h
  split at h
  · cases h
  · split at h
    · cases h; exact canonical_ofIp _ _
    · split at h
      · cases h
      · cases h; rfl

end Address

end Intercept
