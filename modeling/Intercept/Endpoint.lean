import Intercept.Ip.Text

/-!
# Endpoints

An endpoint is an internet address with a port; an IPv6 endpoint also has a scope, the number of the
interface that a link-local address belongs to. Text: `a.b.c.d:port`, `[v6]:port`, and
`[v6%scope]:port` when the scope is not zero.
-/

namespace Intercept

/-- An address and port that a socket can be bound or connected to. -/
inductive Endpoint where
  | v4 (ip : Ip.V4) (port : UInt16)
  | v6 (ip : Ip.V6) (port : UInt16) (scope : UInt32)
deriving DecidableEq

namespace Endpoint

/-- The endpoint of an address and a port, without a scope. -/
def of : Ip → UInt16 → Endpoint
  | .v4 ip, port => .v4 ip port
  | .v6 ip, port => .v6 ip port 0

def ip : Endpoint → Ip
  | .v4 ip _ => .v4 ip
  | .v6 ip _ _ => .v6 ip

def port : Endpoint → UInt16
  | .v4 _ port => port
  | .v6 _ port _ => port

def family (e : Endpoint) : Ip.Family := e.ip.family

/-- An IPv6 endpoint that stands for an IPv4 one is replaced by it; any other is left alone. -/
def canonical : Endpoint → Endpoint
  | .v4 ip port => .v4 ip port
  | .v6 ip port scope => match ip.mapped? with
    | some plain => .v4 plain port
    | none => .v6 ip port scope

@[simp]
theorem ip_of (ip : Ip) (port : UInt16) : (of ip port).ip = ip := by cases ip <;> rfl

@[simp]
theorem port_of (ip : Ip) (port : UInt16) : (of ip port).port = port := by cases ip <;> rfl

theorem ip_canonical (e : Endpoint) : e.canonical.ip = e.ip.collapse := by
  cases e with
  | v4 ip port => rfl
  | v6 address port scope =>
    cases h : address.mapped? <;> simp [canonical, ip, Ip.collapse, h]

@[simp]
theorem port_canonical (e : Endpoint) : e.canonical.port = e.port := by
  cases e with
  | v4 ip port => rfl
  | v6 address port scope =>
    cases h : address.mapped? <;> simp [canonical, Endpoint.port, h]

/-! ### Text -/

def text : Endpoint → String
  | .v4 ip port => ip.text ++ ":" ++ Decimal.text port.toNat
  | .v6 ip port scope =>
    let zone := if scope = 0 then "" else "%" ++ Decimal.text scope.toNat
    "[" ++ ip.text ++ zone ++ "]:" ++ Decimal.text port.toNat

/-- The port that decimal digits spell; leading zeros are allowed. -/
def port? (cs : List Char) : Option UInt16 := (Decimal.upTo? 65535 cs).map UInt16.ofNat

/-- What stands before and after the first occurrence of a character. -/
def splitAt? (sep : Char) : List Char → Option (List Char × List Char)
  | [] => none
  | c :: cs =>
    if c = sep then some ([], cs)
    else (splitAt? sep cs).map fun (front, back) => (c :: front, back)

/-- The IPv6 address and scope that stand between the brackets. -/
def scoped? (cs : List Char) : Option (Ip.V6 × UInt32) :=
  match splitAt? '%' cs with
  | none => (Ip.V6.ofChars? cs).map (·, 0)
  | some (address, zone) => do
    let ip ← Ip.V6.ofChars? address
    let scope ← Decimal.upTo? 4294967295 zone
    return (ip, UInt32.ofNat scope)

/-- The endpoint that a list of characters spells. -/
def ofChars? : List Char → Option Endpoint
  | '[' :: cs => do
    let (inner, rest) ← splitAt? ']' cs
    let (ip, scope) ← scoped? inner
    match rest with
    | ':' :: digits => return .v6 ip (← port? digits) scope
    | _ => none
  | cs => do
    let (address, digits) ← splitAt? ':' cs
    return .v4 (← Ip.V4.ofChars? address) (← port? digits)

def ofText? (s : String) : Option Endpoint := ofChars? s.toList

end Endpoint

end Intercept
