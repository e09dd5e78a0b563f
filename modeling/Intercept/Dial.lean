import Intercept.Network

/-!
# Dialing

A socket is bound to one end and connected to the other. Both ends must be of one transport and of
one family, where an IPv6 address that stands for an IPv4 address counts as that address; the ends
are then used in their canonical form.

## Main statements

* `of?_eq_error_iff`: which pairs of ends cannot be dialed.
-/

namespace Intercept

/-- One end of a dial. -/
structure Dial.Site where
  transport : Transport
  endpoint : Endpoint
deriving DecidableEq

/-- Two ends that a socket can join, in canonical form. -/
structure Dial where
  transport : Transport
  near : Endpoint
  far : Endpoint
  family_eq : near.family = far.family

namespace Dial

def Site.text (s : Site) : String := s.transport.name ++ "://" ++ s.endpoint.text

/-- Whether a socket can join two ends. -/
def Joinable (near far : Site) : Prop :=
  near.transport = far.transport
    ∧ near.endpoint.canonical.family = far.endpoint.canonical.family

instance (near far : Site) : Decidable (Joinable near far) :=
  inferInstanceAs (Decidable (_ ∧ _))

def of? (near far : Site) : Except Failure.Socket Dial :=
  if h : Joinable near far then
    .ok ⟨near.transport, near.endpoint.canonical, far.endpoint.canonical, h.2⟩
  else .error (.familyMismatch near.text far.text)

def family (d : Dial) : Ip.Family := d.far.family

def requested (d : Dial) : Ip.Family × Transport := (d.family, d.transport)

/-- A socket is asked for, bound, and connected; the first answer that is a failure counts. -/
def attempt (n : Network) (d : Dial) : Except Failure.Socket Unit :=
  match n.refusal? d.family d.transport with
  | some r => .error r.failure
  | none => match n.bindFault? d.transport d.near with
    | some fault => .error (.bind d.near fault)
    | none => match n.connectFault? d.transport d.near d.far with
      | some fault => .error (.connect d.far fault)
      | none => .ok ()

def dial (n : Network) (near far : Site) : Except Failure.Socket Unit :=
  match of? near far with
  | .ok d => d.attempt n
  | .error f => .error f

/-- **Ends that cannot be dialed.** They differ in transport or in family. -/
theorem of?_eq_error_iff {near far : Site} {f : Failure.Socket} :
    of? near far = .error f ↔
      ¬ Joinable near far ∧ f = .familyMismatch near.text far.text := by
  unfold of?
  split
  · rename_i h; simp [h]
  · rename_i h; simp [h, eq_comm]

/-- Of two ends that can be joined, dialing never says that they cannot. -/
theorem attempt_ne_familyMismatch (n : Network) (d : Dial) (near far : String) :
    d.attempt n ≠ .error (.familyMismatch near far) := by
  unfold attempt
  split
  · rename_i r _
    cases r <;> simp [Network.Refusal.failure, Failure.Socket.ofOption]
    split <;> simp
  · split
    · simp
    · split <;> simp

end Dial

end Intercept
