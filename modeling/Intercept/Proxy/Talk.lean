import Intercept.Failure.Negotiation
import Intercept.Stream.Transfer

/-!
# Talking on a stream

A talk is the phase that a conversation has come to, the stream it is held on, and the time. Two
things can be done in a talk: a message is handed over, or octets are waited for. Either may stop
short; what the end of the talk is then called is for the conversation to say.

## Main statements

* `stream_await`, `reads_send`: waiting touches the reading side alone, sending the writing side.
* `output_send`: what a message adds to the output.
-/

namespace Intercept.Proxy

structure Talk where
  phase : Phase
  stream : Stream
  now : Nat
deriving DecidableEq

namespace Talk

inductive Stop where
  | failure (f : Failure.Negotiation)
  /-- A wait was given up. -/
  | expired
deriving DecidableEq

/-- The end of a talk in which a transfer stopped short; `ended` is what is reported if the data
ended. -/
def stopOf (stage : String) (ended : IoFault) : Stream.Halt → Stop
  | .fault f => .failure (.io stage f)
  | .ended => .failure (.io stage ended)
  | .refused => .failure (.io stage .writeZero)
  | .expired => .expired

def await (limit : Stream.Limit) (count : Nat) (t : Talk) : Except Stream.Halt Bytes × Talk :=
  let g := Stream.gather limit count t.now t.stream.reads
  let t' := { t with stream := { t.stream with reads := g.rest }, now := g.now }
  match g.halt with
  | none => (.ok g.got, t')
  | some halt => (.error halt, t')

/-- The writing side after a message has been handed over as far as it was taken. -/
def handed (t : Talk) (d : Stream.Delivered) : Sink :=
  { t.stream.toSink with writes := d.rest, written := t.stream.written ++ d.chunks }

def send (limit : Stream.Limit) (message : Bytes) (t : Talk) : Except Stream.Halt Unit × Talk :=
  let d := Stream.deliver limit t.now message t.stream.writes
  match d.halt with
  | some halt =>
    (.error halt, { t with stream := { t.stream with toSink := t.handed d }, now := d.now })
  | none =>
    let (fault, flushed) := (t.handed d).flush
    let t' := { t with stream := { t.stream with toSink := flushed }, now := d.now }
    match fault with
    | some f => (.error (.fault f), t')
    | none => (.ok (), t')

/-- Waiting for octets takes them from the reading side and does nothing else to the stream. -/
theorem stream_await (limit : Stream.Limit) (count : Nat) (t : Talk) :
    (t.await limit count).2.stream
      = { t.stream with reads := (Stream.gather limit count t.now t.stream.reads).rest } := by
  simp only [await]
  split <;> rfl

theorem phase_await (limit : Stream.Limit) (count : Nat) (t : Talk) :
    (t.await limit count).2.phase = t.phase := by
  simp only [await]
  split <;> rfl

theorem phase_send (limit : Stream.Limit) (message : Bytes) (t : Talk) :
    (t.send limit message).2.phase = t.phase := by
  simp only [send]
  split
  · rfl
  · split <;> rfl

/-- Sending a message adds to the output the front of the message, and all of it on success. -/
theorem output_send (limit : Stream.Limit) (message : Bytes) (t : Talk) :
    ∃ taken rest, message = taken ++ rest
      ∧ (t.send limit message).2.stream.output = t.stream.output ++ taken
      ∧ ((t.send limit message).1 = .ok () → rest = []) := by
  simp only [send]
  split
  · rename_i halt stopped
    obtain ⟨rest, h⟩ := Stream.chunks_deliver limit t.now message t.stream.writes
    exact ⟨_, rest, h, by simp [handed, Sink.output], by intro bad; cases bad⟩
  · rename_i whole
    have h := Stream.flatten_chunks_deliver whole
    refine ⟨message, [], by simp, ?_, by simp⟩
    split <;> simp [handed, Sink.output, Sink.flush, h]

theorem reads_send (limit : Stream.Limit) (message : Bytes) (t : Talk) :
    (t.send limit message).2.stream.reads = t.stream.reads := by
  simp only [send]
  split
  · rfl
  · split <;> rfl

end Talk

end Intercept.Proxy
