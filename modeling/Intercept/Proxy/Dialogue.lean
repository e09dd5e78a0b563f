import Intercept.Proxy.Talk

/-!
# Dialogues

A dialogue is one side of a conversation, written down before it is held: a tree whose nodes send a
message, wait for octets, enter a phase, or end the conversation, and that branches on the octets
that come. Performing a dialogue in a talk holds the conversation. A step that fails ends it with
its failure; a wait that is given up ends it without one, and it is for whoever leads the
conversation to say what that means.
-/

namespace Intercept.Proxy

/-- One side of a conversation that yields a value or gives up. -/
inductive Dialogue (α : Type) where
  | done (a : α)
  | giveUp (f : Failure.Negotiation)
  | enter (phase : Phase) (next : Dialogue α)
  /-- Sends a message; `stage` is what this is called in a failure. -/
  | send (stage : String) (message : Bytes) (next : Dialogue α)
  /-- Waits for `count` octets; `ended` is what is reported if the data end before. -/
  | await (stage : String) (ended : IoFault) (count : Nat) (next : Bytes → Dialogue α)

namespace Dialogue

variable {α β : Type}

/-- A dialogue that goes on with what another one yields. -/
def andThen : Dialogue α → (α → Dialogue β) → Dialogue β
  | .done a, rest => rest a
  | .giveUp f, _ => .giveUp f
  | .enter phase next, rest => .enter phase (next.andThen rest)
  | .send stage message next, rest => .send stage message (next.andThen rest)
  | .await stage ended count next, rest =>
    .await stage ended count fun octets => (next octets).andThen rest

instance : Monad Dialogue where
  pure := .done
  bind := andThen

theorem bind_eq (d : Dialogue α) (rest : α → Dialogue β) : d >>= rest = d.andThen rest := rfl

/-! ### Single steps -/

def tell (stage : String) (message : Bytes) : Dialogue Unit := .send stage message (.done ())

def receive (stage : String) (count : Nat) : Dialogue Bytes := .await stage .earlyEnd count .done

/-- Waits for a block of a single octet. -/
def receiveOne (stage : String) : Dialogue UInt8 :=
  .await stage .earlyEnd 1 fun octets => .done (octets.headD 0)

/-- Waits for a single octet that is a number of its own. -/
def receiveOctet (stage : String) : Dialogue UInt8 :=
  .await stage .unexpectedEnd 1 fun octets => .done (octets.headD 0)

def receivePort (stage : String) : Dialogue UInt16 :=
  .await stage .unexpectedEnd 2 fun octets =>
    .done (Bytes.ofBE16 (octets.headD 0) (octets.tail.headD 0))

def proceed (phase : Phase) : Dialogue Unit := .enter phase (.done ())

/-- Goes on with a value, or ends the conversation with the failure to make it. -/
def ofExcept : Except Failure.Negotiation α → Dialogue α
  | .ok a => .done a
  | .error f => .giveUp f

/-! ### Performing -/

def perform (limit : Stream.Limit) : Dialogue α → Talk → Except Talk.Stop α × Talk
  | .done a, t => (.ok a, t)
  | .giveUp f, t => (.error (.failure f), t)
  | .enter phase next, t => next.perform limit { t with phase := phase }
  | .send stage message next, t =>
    match t.send limit message with
    | (.ok (), t') => next.perform limit t'
    | (.error halt, t') => (.error (Talk.stopOf stage .writeZero halt), t')
  | .await stage ended count next, t =>
    match t.await limit count with
    | (.ok octets, t') => (next octets).perform limit t'
    | (.error halt, t') => (.error (Talk.stopOf stage ended halt), t')

end Dialogue

end Intercept.Proxy
