import Intercept.Relay.Datagrams
import Intercept.Session.Connection

/-!
# Sessions over UDP

The session needs a literal destination. Through a proxy it dials a control connection, asks for a
relay on it, and sends its datagrams to the endpoint that the proxy names: an unspecified address
means the proxy's own, and a name is looked up and must have an address of the proxy's family.
Without a proxy the datagrams go to the destination. Answers go to the client from a socket that is
bound to the destination. One deadline holds for dialing, negotiating and looking up.

## Main statements

* `orderly`: such a session keeps its phase in order.
* `moved_negotiate`: opening the way sends no datagram.
-/

namespace Intercept.Session

structure Association where
  terms : Terms
  flow : Flow
  phase : Proxy.Phase
  /-- Whether datagrams of the client are still taken. -/
  isOpen : Bool
  /-- The connection that keeps the proxy's relay alive, once it has been dialed. -/
  control : Option Side
  /-- The endpoint that datagrams are sent to, as long as there is a socket for it. -/
  relayEnd : Option Endpoint
  /-- The endpoint that answers are sent to, as long as there is a socket for it. -/
  replyEnd : Option Endpoint
  /-- What was sent to the other side, in order. -/
  sent : List Bytes
  replied : List Bytes
  now : Nat
deriving DecidableEq

namespace Association

def start (terms : Terms) (flow : Flow) (now : Nat) : Association :=
  ⟨terms, flow, .init, true, none, none, none, [], [], now⟩

def key (a : Association) : Key := a.terms.key .udp

/-- The destination as an endpoint. -/
def destination (a : Association) : Except Failure.Negotiation Endpoint :=
  match a.flow.destination.endpoint? with
  | some e => .ok e
  | none => .error (.addressInvalid (.notLiteral a.flow.destination.text))

/-- The endpoint of a relay that the proxy named by an address. -/
def relayAt (proxy bound : Endpoint) : Endpoint :=
  if bound.ip.isUnspecified then .of proxy.ip bound.port else bound

/-- The endpoint of a relay that the proxy named, once its name has been looked up. -/
def chosen (proxy : Endpoint) (name : String) :
    Except IoFault (List Endpoint) → Except Failure.Negotiation Endpoint
  | .error f => .error (.addressInvalid (.unresolvable name f))
  | .ok found => match found.find? (·.family = proxy.family) with
    | some e => .ok e
    | none => .error (.addressInvalid (.unusableRelay name))

/-- The endpoint of the relay that the proxy named, and the time at which it was known. -/
def relayEndpoint (w : Surroundings) (deadline now : Nat) (proxy : Endpoint) (bound : Address) :
    Except Failure.Negotiation Endpoint × Nat :=
  match bound with
  | .v4 ip port => (.ok (relayAt proxy (.v4 ip port)), now)
  | .v6 ip port => (.ok (relayAt proxy (.v6 ip port 0)), now)
  | .name host port => match (w.lookUp host port).within deadline now with
    | (none, now) => (.error (.timeout .connectSent), now)
    | (some found, now) => (chosen proxy host found, now)

/-- Asks the proxy for a relay on the control connection. The deadline ends every wait. -/
def handshake (w : Surroundings) (a : Association) (u : Settings.ProxyServer) (deadline : Nat)
    (stream : Stream) : Except Failure Endpoint × Association :=
  let run := (Proxy.Negotiator.fresh u.credential (some deadline)).associate none a.now stream
  let after := { a with
    phase := run.negotiator.phase
    control := some ⟨run.stream, true⟩
    now := run.now }
  match run.outcome with
  | .ok bound =>
    let (found, now) :=
      relayEndpoint w deadline run.now u.endpoint (bound.getD Proxy.anyAddress)
    match found with
    | .ok e => (.ok e, { after with now := now })
    | .error f => (.error (.negotiation f), { after with now := now })
  | .failed f => (.error (.negotiation f), after)
  | .hung => (.error (.negotiation (.timeout run.negotiator.phase)), after)

/-- The endpoint to send datagrams to: the proxy's relay, or the destination itself. -/
def reach (w : Surroundings) (a : Association) (destination : Endpoint) :
    Except Failure Endpoint × Association :=
  match a.terms.proxy with
  | none => (.ok destination, a)
  | some u =>
    let deadline := Clock.deadlineAfter a.now a.terms.negotiationMillis
    let near := a.terms.localEnd a.flow.client u.endpoint
    match (w.dialStream near u.endpoint).within deadline a.now with
    | (none, now) => (.error (.negotiation (.timeout .init)), { a with now := now })
    | (some (.error f), now) => (.error (.socket f), { a with now := now })
    | (some (.ok stream), now) => handshake w { a with now := now } u deadline stream

/-- Dials the other side, and then the client. -/
def join (w : Surroundings) (a : Association) (destination relay : Endpoint) :
    Except Failure Unit × Association :=
  match w.dialRelay (a.terms.localEnd a.flow.client relay) relay with
  | .error f => (.error (.socket f), a)
  | .ok () =>
    let a := { a with relayEnd := some relay.canonical }
    match w.dialClient destination a.flow.client with
    | .error f => (.error (.socket f), a)
    | .ok () => (.ok (), { a with replyEnd := some a.flow.client.canonical })

def establish (w : Surroundings) (a : Association) : Except Failure Unit × Association :=
  match a.destination with
  | .error f => (.error (.negotiation f), a)
  | .ok destination => match reach w a destination with
    | (.error f, a) => (.error f, a)
    | (.ok relay, a) => join w a destination relay

/-- No more datagrams are taken, and everything is released. -/
def release (a : Association) : Association :=
  { a with
    isOpen := false
    control := a.control.map ({ · with isHeld := false })
    relayEnd := none
    replyEnd := none }

/-- Releases everything; a session that was not established has failed. -/
def close (a : Association) : Association :=
  { a.release with phase := if a.phase = .established then .established else .failed }

/-- Opens the way; if that fails, everything is released. -/
def negotiate (w : Surroundings) (a : Association) : Except Failure Unit × Association :=
  match establish w a with
  | (.ok (), a) => (.ok (), { a with phase := .established })
  | (.error f, a) => (.error f, { a.release with phase := .failed })

/-- How the session relays datagrams. -/
def way (a : Association) : Relay.Datagrams.Way :=
  ⟨a.terms.proxy.isSome, a.flow.destination, a.terms.bufferSize, a.terms.idleMillis⟩

/-- Relays what comes, as long as there are sockets. -/
def relay (arrivals : List (Nat × Relay.Arrival)) (a : Association) :
    Option Ledger.Result × Association :=
  match a.relayEnd, a.replyEnd with
  | some _, some _ =>
    let run := Relay.Datagrams.run a.way (.start a.way a.now) arrivals
    (some run.result, { a with
      sent := a.sent ++ run.relay.sent
      replied := a.replied ++ run.relay.replied
      now := run.relay.now })
  | _, _ => (some (.error (notConnected a.phase)), a)

/-- How such a session is driven while the given things come. -/
def tunnel (w : Surroundings) (arrivals : List (Nat × Relay.Arrival)) : Tunnel Association :=
  ⟨phase, negotiate w, relay arrivals, close⟩

/-! ### What the stages keep -/

/-- What was sent in either direction. -/
def moved (a : Association) : List Bytes × List Bytes := (a.sent, a.replied)

/-- What opening the way leaves alone: what the session was told, and what was sent in either
direction. -/
def brief (a : Association) : Terms × Flow × List Bytes × List Bytes :=
  (a.terms, a.flow, a.moved)

theorem brief_handshake (w : Surroundings) (a : Association) (u : Settings.ProxyServer)
    (deadline : Nat) (stream : Stream) :
    (handshake w a u deadline stream).2.brief = a.brief := by
  simp only [handshake]
  split
  · split <;> rfl
  all_goals rfl

theorem brief_reach (w : Surroundings) (a : Association) (destination : Endpoint) :
    (reach w a destination).2.brief = a.brief := by
  simp only [reach]
  split
  · rfl
  · split
    · rfl
    · rfl
    · exact brief_handshake _ _ _ _ _

theorem brief_join (w : Surroundings) (a : Association) (destination relay : Endpoint) :
    (join w a destination relay).2.brief = a.brief := by
  simp only [join]
  split
  · rfl
  · split <;> rfl

theorem brief_establish (w : Surroundings) (a : Association) :
    (establish w a).2.brief = a.brief := by
  unfold establish
  split
  · rfl
  · rename_i destination _
    have kept := brief_reach w a destination
    split
    · rename_i f a' h; rw [h] at kept; exact kept
    · rename_i relay a' h; rw [h] at kept; rw [brief_join]; exact kept

theorem brief_negotiate (w : Surroundings) (a : Association) :
    (negotiate w a).2.brief = a.brief := by
  have kept := brief_establish w a
  unfold negotiate
  split
  · rename_i a' h; rw [h] at kept; exact kept
  · rename_i f a' h; rw [h] at kept; exact kept

/-- **No payload.** Opening the way sends no datagram in either direction. -/
theorem moved_negotiate (w : Surroundings) (a : Association) :
    (negotiate w a).2.moved = a.moved :=
  congrArg (·.2.2) (brief_negotiate w a)

theorem way_negotiate (w : Surroundings) (a : Association) : (negotiate w a).2.way = a.way :=
  congrArg (fun kept => (⟨kept.1.proxy.isSome, kept.2.1.destination, kept.1.bufferSize,
    kept.1.idleMillis⟩ : Relay.Datagrams.Way)) (brief_negotiate w a)

/-- **Order.** A session over UDP keeps its phase in order. -/
theorem orderly (w : Surroundings) (arrivals : List (Nat × Relay.Arrival)) :
    (tunnel w arrivals).Orderly where
  established a h := by
    simp only [tunnel, negotiate] at h ⊢
    split
    · rfl
    · rename_i e; rw [e] at h; cases h
  failed a f h := by
    simp only [tunnel, negotiate] at h ⊢
    split
    · rename_i e; rw [e] at h; cases h
    · rfl
  relay a := by
    simp only [tunnel, relay]
    split <;> rfl
  close a := rfl

end Association

end Intercept.Session
