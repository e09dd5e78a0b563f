import Intercept.Proofs.Relay.Books
import Intercept.Proofs.Relay.Moment

/-!
# What a relay never does

Whatever happens on the streams, no direction of a relay ever loses, invents or reorders an octet,
keeps more than its buffer holds, reads on after the end, or shuts a sink down before everything has
come through; and the first failure of either ends the whole relay.

## Main statements

* `happens_of_next`: all that can happen from one moment to the next.
* `sound_of_leads`: the books of both pipes are in order until one of them fails.
* `relays_safely`: what is true at every moment of a relay.
-/

namespace Intercept.Relay.Duplex

open Pipe (Progress Safe Intact SomehowSafe)

/-! ### Directions -/

/-- A direction of a relay. -/
inductive Direction where
  | up
  | down
deriving DecidableEq

def pipe (d : Duplex) : Direction → Pipe
  | .up => d.up
  | .down => d.down

/-- The relay with another pipe in a direction. -/
def withPipe (d : Duplex) (p : Pipe) : Direction → Duplex
  | .up => { d with up := p }
  | .down => { d with down := p }

/-- The direction whose pipe makes the next step. -/
def Turn.direction? : Turn → Option Direction
  | .up => some .up
  | .down _ _ => some .down
  | .rest _ | .ended _ => none

/-- Whether a direction has failed. -/
def Turn.HasFailed : Turn → Prop
  | .ended (.failed _) => True
  | _ => False

theorem pipe_withPipe {P : Direction → Pipe → Prop} {d : Duplex} {p : Pipe} {dir : Direction}
    (changed : P dir p) (other : ∀ dir', P dir' (d.pipe dir')) (dir' : Direction) :
    P dir' ((d.withPipe p dir).pipe dir') := by
  cases dir with
  | up =>
    cases dir' with
    | up => exact changed
    | down => exact other .down
  | down =>
    cases dir' with
    | up => exact other .up
    | down => exact changed

theorem pipe_awaken (d : Duplex) (now : Nat) (dir : Direction) :
    (d.awaken now).pipe dir = (d.pipe dir).awaken now := by
  cases dir <;> rfl

/-! ### What can happen -/

/-- The step that a direction makes at a moment. -/
def stepAt (size : Nat) (m : Moment) (dir : Direction) : Progress :=
  (m.duplex.pipe dir).step (max size 1) m.now

/-- All that can happen from one moment to the next. -/
inductive Happens (size : Nat) (m : Moment) : Moment → Prop where
  | goes {dir : Direction} {p : Pipe} (turn : Turn) : m.turn.direction? = some dir →
      (stepAt size m dir).Goes p → ¬ turn.HasFailed →
      Happens size m ⟨turn, m.duplex.withPipe p dir, m.now⟩
  | fails {dir : Direction} {p : Pipe} {f : IoFault} : m.turn.direction? = some dir →
      stepAt size m dir = .failed p f →
      Happens size m ⟨.ended (.failed f), m.duplex.withPipe p dir, m.now⟩
  | rests (turn : Turn) : ¬ turn.HasFailed → Happens size m ⟨turn, m.duplex, m.now⟩
  | sleeps (time : Nat) : Happens size m ⟨.up, m.duplex.awaken time, time⟩

variable {size : Nat} {horizon : Stream.Limit} {client remote : Stream} {m m' : Moment}

theorem happens_afterUp {d : Duplex} {now : Nat} {progress : Progress}
    (made : stepAt size ⟨.up, d, now⟩ .up = progress) :
    Happens size ⟨.up, d, now⟩ (Moment.afterUp d now progress) := by
  have goes : ∀ {p}, progress.Goes p → (stepAt size ⟨.up, d, now⟩ .up).Goes p := by
    intro p h
    rwa [made]
  cases progress with
  | running p => exact .goes (m := ⟨.up, d, now⟩) .up rfl (goes (.running p)) id
  | waiting p soon => exact .goes (m := ⟨.up, d, now⟩) _ rfl (goes (.waiting p soon)) id
  | finished p => exact .goes (m := ⟨.up, d, now⟩) _ rfl (goes (.finished p)) id
  | failed p f => exact .fails (m := ⟨.up, d, now⟩) rfl made

theorem happens_afterDown {upDone upSoon : Bool} {d : Duplex} {now : Nat} {progress : Progress}
    (made : stepAt size ⟨.down upDone upSoon, d, now⟩ .down = progress) :
    Happens size ⟨.down upDone upSoon, d, now⟩
      (Moment.afterDown upDone upSoon d now progress) := by
  have goes : ∀ {p}, progress.Goes p →
      (stepAt size ⟨.down upDone upSoon, d, now⟩ .down).Goes p := by
    intro p h
    rwa [made]
  cases progress with
  | running p => exact .goes (m := ⟨.down upDone upSoon, d, now⟩) _ rfl (goes (.running p)) id
  | waiting p soon =>
    exact .goes (m := ⟨.down upDone upSoon, d, now⟩) _ rfl (goes (.waiting p soon)) id
  | finished p =>
    refine .goes (m := ⟨.down upDone upSoon, d, now⟩) _ rfl (goes (.finished p)) ?_
    cases upDone <;> exact id
  | failed p f => exact .fails (m := ⟨.down upDone upSoon, d, now⟩) rfl made

theorem happens_of_next (step : m.next size horizon = some m') : Happens size m m' := by
  obtain ⟨turn, d, now⟩ := m
  cases turn with
  | up =>
    obtain rfl := Option.some.inj step
    exact happens_afterUp rfl
  | down upDone upSoon =>
    obtain rfl := Option.some.inj step
    exact happens_afterDown rfl
  | rest soon =>
    cases soon with
    | true =>
      obtain rfl := Option.some.inj step
      exact .rests (m := ⟨.rest true, d, now⟩) .up id
    | false =>
      obtain rfl := Option.some.inj step
      unfold Moment.afterSleep
      split
      · exact .rests (m := ⟨.rest false, d, now⟩) _ id
      · split
        · exact .rests (m := ⟨.rest false, d, now⟩) _ id
        · exact .sleeps (m := ⟨.rest false, d, now⟩) _
  | ended outcome => cases step

/-! ### What is kept -/

/-- The books of both pipes are in order until one of them has failed, and both are safe even
then. -/
structure Sound (size : Nat) (d₀ : Duplex) (m : Moment) : Prop where
  safe : ∀ dir, SomehowSafe size (d₀.pipe dir) (m.duplex.pipe dir)
  intact : ¬ m.turn.HasFailed → ∀ dir, Intact size (d₀.pipe dir) (m.duplex.pipe dir)

theorem Intact.somehowSafe {p₀ p : Pipe} (intact : Intact size p₀ p) : SomehowSafe size p₀ p := by
  obtain ⟨chunks, pending, books⟩ := intact
  exact ⟨_, chunks, books.safe⟩

theorem sound_of_intact {d₀ : Duplex}
    (intact : ∀ dir, Intact size (d₀.pipe dir) (m.duplex.pipe dir)) : Sound size d₀ m where
  safe dir := Intact.somehowSafe (intact dir)
  intact _ := intact

theorem not_hasFailed_of_next (step : m.next size horizon = some m') : ¬ m.turn.HasFailed := by
  intro failed
  obtain ⟨turn, d, now⟩ := m
  cases turn with
  | ended outcome => cases step
  | up | down upDone upSoon | rest soon => exact failed

theorem sound_next {d₀ : Duplex} (sound : Sound size d₀ m)
    (step : m.next size horizon = some m') : Sound size d₀ m' := by
  have intact := sound.intact (not_hasFailed_of_next step)
  -- one pipe has made a step, and the other one is as it was
  cases happens_of_next step with
  | @goes dir p turn isTurn goes _ =>
    have kept := (Pipe.intact_step m.now (intact dir)).of_goes goes
    exact sound_of_intact (pipe_withPipe kept intact)
  | @fails dir p f isTurn failed =>
    have left := Pipe.intact_step m.now (intact dir)
    rw [show (m.duplex.pipe dir).step (max size 1) m.now = .failed p f from failed] at left
    exact ⟨pipe_withPipe left sound.safe, fun unfailed => absurd trivial unfailed⟩
  | rests turn _ => exact sound_of_intact intact
  | sleeps time =>
    refine sound_of_intact fun dir => ?_
    rw [pipe_awaken]
    exact (intact dir).awaken time

theorem sound_of_leads (leads : Leads (Moment.next size horizon) (.first client remote) m) :
    Sound size (start client remote) m := by
  induction leads with
  | refl =>
    refine sound_of_intact fun dir => ?_
    cases dir with
    | up => exact ⟨[], [], .start size client.reads remote.toSink⟩
    | down => exact ⟨[], [], .start size remote.reads client.toSink⟩
  | tail _ step ih => exact sound_next ih step

/-- What the steps of a pipe and the clock keep true of it is kept, whatever the other pipe
does. -/
theorem pipe_next {kept : Pipe → Prop} {dir : Direction} (holds : kept (m.duplex.pipe dir))
    (steps : ((m.duplex.pipe dir).step (max size 1) m.now).Leaves kept kept)
    (awakens : ∀ time, kept ((m.duplex.pipe dir).awaken time))
    (step : m.next size horizon = some m') : kept (m'.duplex.pipe dir) := by
  cases happens_of_next step with
  | @goes dir' p turn isTurn goes _ =>
    refine @pipe_withPipe (fun dir' p => dir' = dir → kept p) _ _ _ ?_ ?_ dir rfl
    · rintro rfl
      exact steps.of_goes goes
    · rintro _ rfl
      exact holds
  | @fails dir' p f isTurn failed =>
    refine @pipe_withPipe (fun dir' p => dir' = dir → kept p) _ _ _ ?_ ?_ dir rfl
    · rintro rfl
      rw [show (m.duplex.pipe dir').step (max size 1) m.now = .failed p f from failed] at steps
      exact steps
    · rintro _ rfl
      exact holds
  | rests turn _ => exact holds
  | sleeps time =>
    rw [pipe_awaken]
    exact awakens time

/-- A source that has ended is not read again. -/
theorem hasEnded_of_leads (dir : Direction) (ended : (m.duplex.pipe dir).HasEnded)
    (leads : Leads (Moment.next size horizon) m m') : (m'.duplex.pipe dir).HasEnded := by
  induction leads with
  | refl => exact ended
  | @tail m' _ _ step ih =>
    exact pipe_next ih (Pipe.hasEnded_step (max size 1) m'.now ih) (fun _ => ih) step

/-- A sink is shut down by the last step of its pipe, and by no other. -/
theorem closing_of_shutdown (dir : Direction) (step : m.next size horizon = some m')
    (shut : (m'.duplex.pipe dir).sink.shutdowns ≠ (m.duplex.pipe dir).sink.shutdowns) :
    (m.duplex.pipe dir).stage = .closing := by
  refine Decidable.byContradiction fun notClosing => shut ?_
  have kept := Pipe.closing_of_shutdown (max size 1) m.now notClosing
  exact @pipe_next _ _ _ _ (fun q => q.sink.shutdowns = (m.duplex.pipe dir).sink.shutdowns) dir
    rfl kept (fun _ => rfl) step

/-! ### The first failure -/

theorem next_of_failed {dir : Direction} {p : Pipe} {f : IoFault}
    (isTurn : m.turn.direction? = some dir) (failed : stepAt size m dir = .failed p f) :
    m.next size horizon = some ⟨.ended (.failed f), m.duplex.withPipe p dir, m.now⟩ := by
  obtain ⟨turn, d, now⟩ := m
  cases turn with
  | up =>
    obtain rfl := Option.some.inj isTurn
    have failed : d.up.step (max size 1) now = .failed p f := failed
    simp only [Moment.next, failed, Moment.afterUp, withPipe]
  | down upDone upSoon =>
    obtain rfl := Option.some.inj isTurn
    have failed : d.down.step (max size 1) now = .failed p f := failed
    simp only [Moment.next, failed, Moment.afterDown, withPipe]
  | rest soon => cases isTurn
  | ended outcome => cases isTurn

theorem copy_of_failed {dir : Direction} {p : Pipe} {f : IoFault}
    (leads : Leads (Moment.next size horizon) (.first client remote) m)
    (isTurn : m.turn.direction? = some dir) (failed : stepAt size m dir = .failed p f) :
    copy size horizon client remote = ⟨.failed f, m.duplex.withPipe p dir, m.now⟩ := by
  have toFailure := leads.trans (.step (next_of_failed isTurn failed) .refl)
  have toEnd := toFailure.to_end (leads_copy size horizon client remote) rfl
  have same := Leads.eq_of_last rfl toEnd
  rw [Moment.last, Moment.mk.injEq, Turn.ended.injEq] at same
  cases h : copy size horizon client remote
  rw [h] at same
  obtain ⟨rfl, rfl, rfl⟩ := same
  rfl

/-- **What a relay never does.** At every moment of a relay, for any size of the buffers and
whatever happens on the streams: both directions are safe; a source that has ended is never read
again; a sink is shut down only when its source has ended and all of it has been written; and a step
that fails ends the relay with its failure, everything else left as it is. -/
theorem relays_safely (size : Nat) (horizon : Stream.Limit) (client remote : Stream) :
    let begun := Moment.first client remote
    let run := copy size horizon client remote
    Leads (Moment.next size horizon) begun (.last run) ∧
    ∀ m, Leads (Moment.next size horizon) begun m → ∀ dir,
      (∃ taken chunks, Safe size (begun.duplex.pipe dir) (m.duplex.pipe dir) taken chunks)
      ∧ ((m.duplex.pipe dir).HasEnded → ∀ m', Leads (Moment.next size horizon) m m' →
        (m'.duplex.pipe dir).HasEnded)
      ∧ (∀ m', m.next size horizon = some m' →
        (m'.duplex.pipe dir).sink.shutdowns ≠ (m.duplex.pipe dir).sink.shutdowns →
        (m.duplex.pipe dir).HasEnded ∧ (m.duplex.pipe dir).sink.output
          = (begun.duplex.pipe dir).sink.output ++ Stream.dataOf (begun.duplex.pipe dir).source)
      ∧ (∀ p f, m.turn.direction? = some dir → stepAt size m dir = .failed p f →
        run = ⟨.failed f, m.duplex.withPipe p dir, m.now⟩) := by
  intro begun run
  refine ⟨leads_copy size horizon client remote, fun m leads dir => ?_⟩
  have sound := sound_of_leads leads
  refine ⟨sound.safe dir, fun ended m' later => hasEnded_of_leads dir ended later, ?_, ?_⟩
  · intro m' step shut
    have closing := closing_of_shutdown dir step shut
    have working : ¬ m.turn.HasFailed := not_hasFailed_of_next step
    exact ⟨.inl closing, ((sound.intact working dir).whole (.inl closing)).2.1⟩
  · intro p f isTurn failed
    exact copy_of_failed leads isTurn failed

end Intercept.Relay.Duplex
