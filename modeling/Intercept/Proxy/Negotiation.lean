import Intercept.Proxy.BoundAddress
import Intercept.Proxy.Request

/-!
# Negotiation with the proxy

The client greets the proxy with the methods it offers, proves its identity if the proxy asks for
that, states its request, and reads the answer up to the end of the bound address and no further. A
negotiator leads one negotiation, within one deadline for all of it; once it has left its first
phase it refuses to lead another.

## Main statements

* `run_of_phase_ne_init`: a used negotiator leaves a stream untouched.
-/

namespace Intercept.Proxy

/-- First octets of the answer to a proof that are taken as acceptance. -/
def acceptances : List UInt8 := [0, 1]

/-- The proof of identity, when the proxy has asked for it. -/
def authentication (credential : Credential) : Dialogue Unit := do
  let message ← Dialogue.ofExcept credential.proof
  Dialogue.tell "write auth request" message
  let status := (← Dialogue.receive "read auth reply" 2).headD 0
  if status ∈ acceptances then pure () else .giveUp (.authRejected status)

/-- The method that the proxy selected, and what it asks of the client. -/
def methodSelection (credential : Credential) (reply : Bytes) : Dialogue Unit := do
  let v := reply.headD 0
  let selected := reply.tail.headD 0
  if v ≠ version then .giveUp (.versionMismatch version v)
  else match Method.ofCode? selected with
    | some .anonymous => pure ()
    | some .password => do
      Dialogue.proceed .authRequired
      authentication credential
    | none => .giveUp (.methodRejected selected)

/-- The proxy's answer to a request, up to the bound address. -/
def checkAnswer (header : Bytes) : Dialogue Unit := do
  let v := header.headD 0
  let code := header.tail.headD 0
  if v ≠ version ∨ code ≠ 0 then .giveUp (.connectRejected v code) else pure ()

/-- The bound address, which matters only if the request was for a relay. -/
def boundAddress (command : Command) : Dialogue (Option Address) :=
  match command with
  | .connect => do
    skipAddress
    return none
  | .udpAssociate => return some (← takeAddress)

/-- A whole negotiation; it yields the bound address if the request was for a relay. -/
def negotiation (credential : Credential) (command : Command) (target : Address) :
    Dialogue (Option Address) := do
  Dialogue.tell "write greeting" credential.greeting
  Dialogue.proceed .greetingSent
  let reply ← Dialogue.receive "read method selection" 2
  methodSelection credential reply
  Dialogue.proceed .methodSelected
  let message ← Dialogue.ofExcept (request command target)
  Dialogue.tell "write request" message
  Dialogue.proceed .connectSent
  let header ← Dialogue.receive "read reply header" 3
  checkAnswer header
  boundAddress command

/-! ### Negotiators -/

/-- A client of the proxy that leads one negotiation. -/
structure Negotiator where
  credential : Credential
  deadline : Stream.Limit
  phase : Phase
deriving DecidableEq

namespace Negotiator

inductive Outcome where
  | ok (bound : Option Address)
  | failed (f : Failure.Negotiation)
  /-- It waits for something that will never happen. -/
  | hung
deriving DecidableEq

structure Run where
  outcome : Outcome
  negotiator : Negotiator
  stream : Stream
  now : Nat
deriving DecidableEq

/-- A negotiator that has not been used. -/
def fresh (credential : Credential) (deadline : Stream.Limit) : Negotiator :=
  ⟨credential, deadline, .init⟩

/-- The failure to use a negotiator twice. -/
def alreadyUsed (phase : Phase) : Failure.Negotiation :=
  .io "negotiation" (.described .other ("negotiator already in state " ++ phase.name))

/-- The earlier of two limits. -/
def earlier : Stream.Limit → Stream.Limit → Stream.Limit
  | none, l => l
  | l, none => l
  | some a, some b => some (min a b)

/-- Whether the deadline is what ends a wait that is otherwise given up at `horizon`. -/
def isBounded (deadline horizon : Stream.Limit) : Bool :=
  match deadline, horizon with
  | none, _ => false
  | some _, none => true
  | some d, some h => d ≤ h

/-- Leads a negotiation on a stream. Past `horizon` it counts as hanging. -/
def run (n : Negotiator) (horizon : Stream.Limit) (command : Command) (target : Address)
    (now : Nat) (stream : Stream) : Run :=
  if n.phase ≠ .init then ⟨.failed (alreadyUsed n.phase), n, stream, now⟩
  else
    let (result, talk) :=
      (negotiation n.credential command target).perform (earlier n.deadline horizon)
        ⟨n.phase, stream, now⟩
    match result with
    | .ok bound => ⟨.ok bound, { n with phase := .established }, talk.stream, talk.now⟩
    | .error (.failure f) => ⟨.failed f, { n with phase := .failed }, talk.stream, talk.now⟩
    | .error .expired =>
      if isBounded n.deadline horizon then
        ⟨.failed (.timeout talk.phase), { n with phase := .failed }, talk.stream, talk.now⟩
      else ⟨.hung, { n with phase := talk.phase }, talk.stream, talk.now⟩

/-- A connection to a target. -/
def connect (n : Negotiator) (horizon : Stream.Limit) (target : Address) (now : Nat)
    (stream : Stream) : Run :=
  n.run horizon .connect target now stream

/-- A relay for datagrams. -/
def associate (n : Negotiator) (horizon : Stream.Limit) (now : Nat) (stream : Stream) : Run :=
  n.run horizon .udpAssociate anyAddress now stream

/-- **Single use.** A negotiator that has left its first phase fails, keeps its phase, and leaves
the stream untouched. -/
theorem run_of_phase_ne_init {n : Negotiator} (h : n.phase ≠ .init) (horizon : Stream.Limit)
    (command : Command) (target : Address) (now : Nat) (stream : Stream) :
    n.run horizon command target now stream
      = ⟨.failed (alreadyUsed n.phase), n, stream, now⟩ := by
  rw [run, if_pos h]

end Negotiator

end Intercept.Proxy
