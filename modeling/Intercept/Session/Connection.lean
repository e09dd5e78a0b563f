import Intercept.Clock
import Intercept.Proxy.Negotiation
import Intercept.Relay.Duplex
import Intercept.Session
import Intercept.Session.Surroundings
import Intercept.Session.Tunnel

/-!
# Sessions over TCP

The session dials the proxy and asks it for a connection to where the client wanted to go; without a
proxy it dials that straight, which takes a literal address. One deadline holds for dialing and
negotiating together. Then octets are copied both ways until both sides have ended.

## Main statements

* `orderly`: such a session keeps its phase in order.
* `near_negotiate`: opening the way does not touch the client's stream.
-/

namespace Intercept.Session

/-- One side of a session: a stream, and whether the session still holds it. -/
structure Side where
  stream : Stream
  isHeld : Bool
deriving DecidableEq

/-- The failure to relay what is not, or no longer, connected. -/
def notConnected (phase : Proxy.Phase) : Failure :=
  .io (.described .notConnected ("session is " ++ phase.name))

/-- A session over TCP. -/
structure Connection where
  terms : Terms
  flow : Flow
  phase : Proxy.Phase
  /-- The client's connection. -/
  near : Side
  /-- The connection to the other side, once it has been dialed. -/
  far : Option Side
  now : Nat
deriving DecidableEq

namespace Connection

/-- A session that begins with a client's connection. -/
def start (terms : Terms) (flow : Flow) (client : Stream) (now : Nat) : Connection :=
  ⟨terms, flow, .init, ⟨client, true⟩, none, now⟩

def key (c : Connection) : Key := c.terms.key .tcp

/-- The endpoint to dial. -/
def target (c : Connection) : Except Failure.Negotiation Endpoint :=
  match c.terms.proxy with
  | some u => .ok u.endpoint
  | none => match c.flow.destination.endpoint? with
    | some e => .ok e
    | none => .error (.addressInvalid (.undialable c.flow.destination.text))

def release (c : Connection) : Connection :=
  { c with near := { c.near with isHeld := false }, far := c.far.map ({ · with isHeld := false }) }

/-- Asks the proxy for a connection to the destination. The deadline ends every wait. -/
def handshake (c : Connection) (u : Settings.ProxyServer) (deadline : Nat) (stream : Stream) :
    Except Failure Unit × Connection :=
  let run := (Proxy.Negotiator.fresh u.credential (some deadline)).connect none c.flow.destination
    c.now stream
  let after := { c with
    phase := run.negotiator.phase
    far := some ⟨run.stream, true⟩
    now := run.now }
  match run.outcome with
  | .ok _ => (.ok (), after)
  | .failed f => (.error (.negotiation f), after)
  | .hung => (.error (.negotiation (.timeout run.negotiator.phase)), after)

/-- Dials, and goes on to the handshake if there is a proxy. -/
def establish (w : Surroundings) (c : Connection) : Except Failure Unit × Connection :=
  let deadline := Clock.deadlineAfter c.now c.terms.negotiationMillis
  match c.target with
  | .error f => (.error (.negotiation f), c)
  | .ok target =>
    let near := c.terms.localEnd c.flow.client target
    match (w.dialStream near target).within deadline c.now with
    | (none, now) => (.error (.negotiation (.timeout .init)), { c with now := now })
    | (some (.error f), now) => (.error (.socket f), { c with now := now })
    | (some (.ok stream), now) =>
      let c := { c with now := now }
      match c.terms.proxy with
      | some u => handshake c u deadline stream
      | none => (.ok (), { c with far := some ⟨stream, true⟩ })

def negotiate (w : Surroundings) (c : Connection) : Except Failure Unit × Connection :=
  match establish w c with
  | (.ok (), c) => (.ok (), { c with phase := .established })
  | (.error f, c) => (.error f, { c.release with phase := .failed })

/-- Copies both ways, as long as both sides are held. -/
def relay (c : Connection) : Option Ledger.Result × Connection :=
  match c.near, c.far with
  | ⟨client, true⟩, some ⟨remote, true⟩ =>
    let run := Relay.Duplex.run c.terms.bufferSize none c.now (.start client remote)
    let after := { c with
      near := ⟨run.duplex.client, true⟩
      far := some ⟨run.duplex.remote, true⟩
      now := run.now }
    match run.outcome with
    | .finished =>
      (some (.ok (UInt64.ofNat run.duplex.up.moved, UInt64.ofNat run.duplex.down.moved)), after)
    | .failed f => (some (.error (.io f)), after)
    | .hung => (none, after)
  | _, _ => (some (.error (notConnected c.phase)), c)

/-- Releases both sides; a session that was not established has failed. -/
def close (c : Connection) : Connection :=
  { c.release with phase := if c.phase = .established then .established else .failed }

def tunnel (w : Surroundings) : Tunnel Connection := ⟨phase, negotiate w, relay, close⟩

/-! ### What the stages keep -/

theorem near_handshake (c : Connection) (u : Settings.ProxyServer) (deadline : Nat)
    (stream : Stream) : (handshake c u deadline stream).2.near = c.near := by
  simp only [handshake]
  split <;> rfl

theorem near_establish (w : Surroundings) (c : Connection) : (establish w c).2.near = c.near := by
  simp only [establish]
  split
  · rfl
  · split
    · rfl
    · rfl
    · split
      · exact near_handshake _ _ _ _
      · rfl

/-- **The client's stream.** Opening the way neither reads from it nor writes to it. -/
theorem near_negotiate (w : Surroundings) (c : Connection) :
    (negotiate w c).2.near.stream = c.near.stream := by
  have kept := near_establish w c
  unfold negotiate
  split
  · rename_i c' h
    rw [h] at kept
    exact congrArg Side.stream kept
  · rename_i f c' h
    rw [h] at kept
    have same : c'.near = c.near := kept
    show c'.near.stream = c.near.stream
    rw [same]

/-- **Order.** A session over TCP keeps its phase in order. -/
theorem orderly (w : Surroundings) : (tunnel w).Orderly where
  established c h := by
    simp only [tunnel, negotiate] at h ⊢
    split
    · rfl
    · rename_i e; rw [e] at h; cases h
  failed c f h := by
    simp only [tunnel, negotiate] at h ⊢
    split
    · rename_i e; rw [e] at h; cases h
    · rfl
  relay c := by
    simp only [tunnel, relay]
    split
    · split <;> rfl
    · rfl
  close c := rfl

end Connection

end Intercept.Session
