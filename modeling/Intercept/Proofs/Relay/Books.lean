import Intercept.Relay.Pipe

/-!
# The books of a pipe

A pipe is compared with what it was before anything moved. As long as it has not failed, what came
from the source is what the sink has taken, then what is in the buffer, then what is still to come;
the buffer is not overfull; and the sink has been flushed and shut down once if the pipe is done,
and not at all before. A pipe that fails leaves less order behind, but what matters is still safe.

## Main statements

* `Books.safe`: what the books say about what was read, written and shut down.
* `Intact.whole`: what has been written once the source has ended.
* `intact_step`: a step keeps the books, or fails and leaves the pipe safe.
* `hasEnded_step`: a pipe whose source has ended never reads again.
-/

namespace Intercept.Relay.Pipe

open Intercept.Stream (dataOf)

/-- What a stage says of the buffer and of the calls to the sink, compared with the pipe as it was
before anything moved. -/
def Befits (p₀ p : Pipe) (pending : Bytes) : Prop :=
  match p.stage with
  | .reading => pending = [] ∧ p.sink.flushes = p₀.sink.flushes
    ∧ p.sink.shutdowns = p₀.sink.shutdowns
  | .writing left => pending = left ∧ p.sink.flushes = p₀.sink.flushes
    ∧ p.sink.shutdowns = p₀.sink.shutdowns
  | .closing => pending = [] ∧ p.source = [] ∧ p.sink.flushes = p₀.sink.flushes
    ∧ p.sink.shutdowns = p₀.sink.shutdowns
  | .done => pending = [] ∧ p.source = [] ∧ p.sink.flushes = p₀.sink.flushes + 1
    ∧ p.sink.shutdowns = p₀.sink.shutdowns + 1 ∧ p.sink.flushFault = none

/-- The books of a pipe with a buffer of `size` octets: the sink has taken `chunks`, and `pending`
is in the buffer. -/
structure Books (size : Nat) (p₀ p : Pipe) (chunks : List Bytes) (pending : Bytes) : Prop where
  written : p.sink.written = p₀.sink.written ++ chunks
  data : dataOf p₀.source = chunks.flatten ++ (pending ++ dataOf p.source)
  moved : p.moved = p₀.moved + chunks.flatten.length
  room : pending.length ≤ max size 1
  befits : Befits p₀ p pending

/-- Whether the books of a pipe are in order. -/
def Intact (size : Nat) (p₀ p : Pipe) : Prop := ∃ chunks pending, Books size p₀ p chunks pending

/-- Whether the source has reported its end. -/
def HasEnded (p : Pipe) : Prop := p.stage = .closing ∨ p.stage = .done

/-- What is true of a pipe even if it has failed: `taken` has been read, and the sink has taken
`chunks`. -/
structure Safe (size : Nat) (p₀ p : Pipe) (taken : Bytes) (chunks : List Bytes) : Prop where
  read : dataOf p₀.source = taken ++ dataOf p.source
  written : p.sink.written = p₀.sink.written ++ chunks
  front : chunks.flatten <+: taken
  inFlight : taken.length ≤ chunks.flatten.length + max size 1
  moved : p.moved = p₀.moved + chunks.flatten.length
  ended : p.HasEnded → p.source = []
  shutOnce : p.sink.shutdowns = p₀.sink.shutdowns ∨ p.sink.shutdowns = p₀.sink.shutdowns + 1
  /-- The sink is shut down only after the source has ended and all of it was written and
  flushed. -/
  shutLast : p.sink.shutdowns ≠ p₀.sink.shutdowns → p.HasEnded ∧ chunks.flatten = taken
    ∧ p.sink.flushes = p₀.sink.flushes + 1 ∧ p.sink.flushFault = none

variable {size now : Nat} {p₀ p q : Pipe} {chunks : List Bytes} {pending taken : Bytes}

theorem Books.start (size : Nat) (source : List (Event Bytes)) (sink : Sink) :
    Books size (.start source sink) (.start source sink) [] [] where
  written := (List.append_nil _).symm
  data := rfl
  moved := rfl
  room := Nat.zero_le _
  befits := ⟨rfl, rfl, rfl⟩

theorem Books.safe (books : Books size p₀ p chunks pending) :
    Safe size p₀ p (chunks.flatten ++ pending) chunks := by
  obtain ⟨written, data, moved, room, befits⟩ := books
  refine ⟨?_, written, List.prefix_append _ _, ?_, moved, ?_, ?_, ?_⟩
  · rw [List.append_assoc]
    exact data
  · rw [List.length_append]
    omega
  · rintro (closing | done)
    · rw [Befits, closing] at befits
      exact befits.2.1
    · rw [Befits, done] at befits
      exact befits.2.1
  · cases stage : p.stage with
    | reading | writing left =>
      rw [Befits, stage] at befits
      exact .inl befits.2.2
    | closing =>
      rw [Befits, stage] at befits
      exact .inl befits.2.2.2
    | done =>
      rw [Befits, stage] at befits
      exact .inr befits.2.2.2.1
  · intro shut
    cases stage : p.stage with
    | reading | writing left =>
      rw [Befits, stage] at befits
      exact absurd befits.2.2 shut
    | closing =>
      rw [Befits, stage] at befits
      exact absurd befits.2.2.2 shut
    | done =>
      rw [Befits, stage] at befits
      obtain ⟨rfl, _, flushes, _, noFault⟩ := befits
      exact ⟨.inr stage, (List.append_nil _).symm, flushes, noFault⟩

/-- Once its source has ended, a pipe that has not failed has written all of it. -/
theorem Intact.whole (intact : Intact size p₀ p) (ended : p.HasEnded) :
    p.source = [] ∧ p.sink.output = p₀.sink.output ++ dataOf p₀.source
      ∧ p.moved = p₀.moved + (dataOf p₀.source).length := by
  obtain ⟨chunks, pending, books⟩ := intact
  have befits := books.befits
  obtain ⟨rfl, empty⟩ : pending = [] ∧ p.source = [] := by
    rcases ended with closing | done
    · rw [Befits, closing] at befits
      exact ⟨befits.1, befits.2.1⟩
    · rw [Befits, done] at befits
      exact ⟨befits.1, befits.2.1⟩
  have all : dataOf p₀.source = chunks.flatten := by
    rw [books.data, empty]
    exact List.append_nil _
  refine ⟨empty, ?_, ?_⟩
  · rw [all, Sink.output, books.written, List.flatten_append]
    rfl
  · rw [all]
    exact books.moved

/-- When a pipe is done its sink has been flushed and shut down once. -/
theorem Intact.closed (intact : Intact size p₀ p) (done : p.stage = .done) :
    p.sink.flushes = p₀.sink.flushes + 1 ∧ p.sink.shutdowns = p₀.sink.shutdowns + 1 := by
  obtain ⟨chunks, pending, books⟩ := intact
  have befits := books.befits
  rw [Befits, done] at befits
  exact ⟨befits.2.2.1, befits.2.2.2.1⟩

/-! ### Steps -/

/-- Whether a step leaves a pipe as `kept` says, or fails and leaves it as `failing` says. -/
def Progress.Leaves (kept failing : Pipe → Prop) : Progress → Prop
  | .running q | .waiting q _ | .finished q => kept q
  | .failed q _ => failing q

/-- Whether a step leaves this pipe and does not fail. -/
inductive Progress.Goes : Progress → Pipe → Prop where
  | running (q : Pipe) : Goes (.running q) q
  | waiting (q : Pipe) (soon : Bool) : Goes (.waiting q soon) q
  | finished (q : Pipe) : Goes (.finished q) q

theorem Progress.Leaves.of_goes {kept failing : Pipe → Prop} {progress : Progress}
    (leaves : progress.Leaves kept failing) (goes : progress.Goes q) : kept q := by
  cases goes <;> exact leaves

theorem Progress.Leaves.imp {kept kept' failing failing' : Pipe → Prop} {progress : Progress}
    (leaves : progress.Leaves kept failing) (still : ∀ q, kept q → kept' q)
    (worse : ∀ q, failing q → failing' q) : progress.Leaves kept' failing' := by
  cases progress with
  | running q | waiting q soon | finished q => exact still q leaves
  | failed q f => exact worse q leaves

/-- A pipe that has failed is at least safe. -/
abbrev SomehowSafe (size : Nat) (p₀ p : Pipe) : Prop := ∃ taken chunks, Safe size p₀ p taken chunks

/-- The books after the source has lost an event that brings no data. -/
theorem Books.withSource (books : Books size p₀ p chunks pending) (reading : p.stage = .reading)
    {source : List (Event Bytes)} (same : dataOf p.source = dataOf source) :
    Books size p₀ { p with source := source } chunks pending := by
  obtain ⟨written, data, moved, room, befits⟩ := books
  rw [same] at data
  rw [Befits, reading] at befits
  refine ⟨written, data, moved, room, ?_⟩
  simpa only [Befits, reading] using befits

theorem Books.withWrites (books : Books size p₀ p chunks pending) (writes : List (Event Nat)) :
    Books size p₀ (p.withWrites writes) chunks pending :=
  ⟨books.written, books.data, books.moved, books.room, books.befits⟩

theorem intact_stepReading (books : Books size p₀ p chunks pending) (reading : p.stage = .reading) :
    (p.stepReading (max size 1) now).Leaves (Intact size p₀) (SomehowSafe size p₀) := by
  have calls := books.befits
  rw [Befits, reading] at calls
  obtain ⟨rfl, flushes, shutdowns⟩ := calls
  unfold stepReading
  split
  · rename_i ended
    exact ⟨chunks, [], books.written, books.data, books.moved, books.room, rfl, ended, flushes, shutdowns⟩
  · rename_i es next
    exact ⟨chunks, [], books.withSource reading (by rw [next]; rfl)⟩
  · rename_i b bs es next
    -- as much as the buffer holds is taken, the rest stays in front
    refine ⟨chunks, (b :: bs).take (max size 1), books.written, ?_, books.moved, ?_, rfl, flushes,
      shutdowns⟩
    · rw [books.data, next]
      show _ ++ ([] ++ ((b :: bs) ++ dataOf es)) = _ ++ (_ ++ dataOf (if _ then _ else _))
      rw [List.nil_append]
      congr 1
      split
      · rw [dataOf, ← List.append_assoc, List.take_append_drop]
      · rename_i fits
        rw [List.take_of_length_le (by omega)]
    · rw [List.length_take]
      exact Nat.min_le_left _ _
  · rename_i f es next
    exact ⟨_, chunks, (books.withSource reading (by rw [next]; rfl)).safe⟩
  · rename_i ms es next
    exact ⟨chunks, [], books.withSource reading (by rw [next]; rfl)⟩
  · rename_i time es next
    split
    · exact ⟨chunks, [], books.withSource reading (by rw [next]; rfl)⟩
    · exact ⟨chunks, [], books⟩
  · rename_i es next
    exact ⟨chunks, [], books.withSource reading (by rw [next]; rfl)⟩
  · exact ⟨chunks, [], books⟩

/-- The books after the sink has taken the front of the buffer. -/
theorem Books.accept (books : Books size p₀ p chunks pending) (writing : p.stage = .writing pending)
    (count : Nat) (writes : List (Event Nat)) :
    Books size p₀ (p.accept pending count writes) (chunks ++ [pending.take count])
      (pending.drop count) := by
  have calls := books.befits
  rw [Befits, writing] at calls
  refine ⟨?_, ?_, ?_, ?_, ?_⟩
  · show p.sink.written ++ _ = _
    rw [books.written, List.append_assoc]
  · rw [books.data, List.flatten_append, List.flatten_singleton, List.append_assoc]
    rw [← List.append_assoc (pending.take count), List.take_append_drop]
    rfl
  · show p.moved + _ = _
    rw [books.moved, List.flatten_append, List.flatten_singleton, List.length_append, Nat.add_assoc]
  · have room := books.room
    rw [List.length_drop]
    omega
  · by_cases empty : (pending.drop count).isEmpty = true
    · simp only [Befits, Pipe.accept, empty, if_true]
      exact ⟨List.isEmpty_iff.mp empty, calls.2⟩
    · simp only [Befits, Pipe.accept, empty]
      exact ⟨rfl, calls.2⟩

theorem intact_stepWriting (books : Books size p₀ p chunks pending)
    (writing : p.stage = .writing pending) :
    (p.stepWriting now pending).Leaves (Intact size p₀) (SomehowSafe size p₀) := by
  unfold stepWriting
  split
  · have calls := books.befits
    rw [Befits, writing] at calls
    exact ⟨chunks, [], books.written, books.data, books.moved, books.room, rfl, calls.2⟩
  · exact ⟨_, _, books.accept writing _ _⟩
  · exact ⟨_, _, (books.withWrites _).safe⟩
  · exact ⟨_, _, books.accept writing _ _⟩
  · exact ⟨_, _, (books.withWrites _).safe⟩
  · exact ⟨_, _, books.withWrites _⟩
  · split
    · exact ⟨_, _, books.withWrites _⟩
    · exact ⟨_, _, books⟩
  · exact ⟨_, _, books.withWrites _⟩
  · exact ⟨_, _, books⟩

theorem intact_stepClosing (books : Books size p₀ p chunks pending) (closing : p.stage = .closing) :
    p.stepClosing.Leaves (Intact size p₀) (SomehowSafe size p₀) := by
  have calls := books.befits
  rw [Befits, closing] at calls
  obtain ⟨rfl, ended, flushes, shutdowns⟩ := calls
  have front : chunks.flatten <+: chunks.flatten ++ [] := List.prefix_append _ _
  have data := books.data
  rw [← List.append_assoc] at data
  unfold stepClosing Sink.flush
  cases flushFault : p.sink.flushFault with
  | some f =>
    refine ⟨_, chunks, data, books.written, front, by simp, books.moved, fun _ => ended,
      .inl shutdowns, ?_⟩
    exact fun shut => absurd shutdowns shut
  | none =>
    dsimp only [Sink.shutdown]
    cases shutdownFault : p.sink.shutdownFault with
    | some f =>
      refine ⟨_, chunks, data, books.written, front, by simp, books.moved, fun _ => ended,
        .inr (congrArg (· + 1) shutdowns), fun _ => ?_⟩
      exact ⟨.inl closing, (List.append_nil _).symm, congrArg (· + 1) flushes, rfl⟩
    | none =>
      exact ⟨chunks, [], books.written, books.data, books.moved, books.room, rfl, ended,
        congrArg (· + 1) flushes, congrArg (· + 1) shutdowns, rfl⟩

/-- **A step keeps the books**, or fails and leaves the pipe safe. -/
theorem intact_step (now : Nat) (intact : Intact size p₀ p) :
    (p.step (max size 1) now).Leaves (Intact size p₀) (SomehowSafe size p₀) := by
  obtain ⟨chunks, pending, books⟩ := intact
  unfold step
  cases stage : p.stage with
  | reading => exact intact_stepReading books stage
  | writing left =>
    have calls := books.befits
    rw [Befits, stage] at calls
    obtain ⟨rfl, _⟩ := calls
    exact intact_stepWriting books stage
  | closing => exact intact_stepClosing books stage
  | done => exact ⟨chunks, pending, books⟩

/-! ### After the end of the source -/

/-- A pipe whose source has ended stays that way. -/
theorem hasEnded_step (size now : Nat) (ended : p.HasEnded) :
    (p.step size now).Leaves HasEnded HasEnded := by
  unfold step
  rcases ended with closing | done
  · rw [closing]
    unfold stepClosing
    dsimp only
    split
    · exact .inl closing
    · split
      · exact .inl closing
      · exact .inr rfl
  · rw [done]
    exact .inr done

/-- A sink is shut down in the last stage only. -/
theorem closing_of_shutdown (size now : Nat) (notClosing : p.stage ≠ .closing) :
    (p.step size now).Leaves (fun q => q.sink.shutdowns = p.sink.shutdowns)
      (fun q => q.sink.shutdowns = p.sink.shutdowns) := by
  unfold step
  cases stage : p.stage with
  | reading =>
    dsimp only
    unfold stepReading
    split
    all_goals first | rfl | (split <;> rfl)
  | writing left =>
    dsimp only
    unfold stepWriting
    split
    all_goals first | rfl | (split <;> rfl)
  | closing => exact absurd stage notClosing
  | done => rfl

/-! ### Waking up -/

theorem dataOf_wake (now : Nat) (es : List (Event Bytes)) : dataOf (wake now es) = dataOf es := by
  unfold wake
  split
  · split <;> rfl
  · rfl

theorem Intact.awaken (now : Nat) (intact : Intact size p₀ p) : Intact size p₀ (p.awaken now) := by
  obtain ⟨chunks, pending, written, data, moved, room, befits⟩ := intact
  refine ⟨chunks, pending, written, ?_, moved, room, ?_⟩
  · rw [data]
    show _ = _ ++ (_ ++ dataOf (wake now p.source))
    rw [dataOf_wake]
  · have asleep : ∀ {es : List (Event Bytes)}, es = [] → wake now es = [] := by
      rintro _ rfl
      rfl
    unfold Befits at befits ⊢
    show match p.stage with | .reading => _ | .writing _ => _ | .closing => _ | .done => _
    cases stage : p.stage with
    | reading | writing left =>
      rw [stage] at befits
      exact befits
    | closing =>
      rw [stage] at befits
      exact ⟨befits.1, asleep befits.2.1, befits.2.2⟩
    | done =>
      rw [stage] at befits
      exact ⟨befits.1, asleep befits.2.1, befits.2.2⟩

end Intercept.Relay.Pipe
