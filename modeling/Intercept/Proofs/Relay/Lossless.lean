import Intercept.Proofs.Relay.Safety
import Intercept.Proofs.Relay.Script

/-!
# What a relay does when nothing goes wrong

Between two streams on which nothing goes wrong, a relay comes to its end, delivers everything that
is sent in either direction, and closes both streams. How the octets are cut into pieces, how much a
sink takes at a time, how long the waits are and how large the buffers are makes no difference.

## Main statements

* `proceeds_step`: a calm pipe makes progress, or waits for something that will happen.
* `quiet_next`: a relay between calm streams never fails and never gets stuck.
* `relays_whole`: what such a relay comes to.
-/

namespace Intercept

/-- A stream on which nothing goes wrong, not even when it is closed. -/
structure Stream.Peaceful (s : Stream) : Prop extends s.Calm where
  shutdown : s.shutdownFault = none

namespace Relay

namespace Pipe

/-- A pipe between a source and a sink on which nothing goes wrong. -/
structure Calm (p : Pipe) : Prop where
  source : ∀ e ∈ p.source, e.isCalm = true
  writes : ∀ e ∈ p.sink.writes, e.isWilling = true
  flush : p.sink.flushFault = none
  shutdown : p.sink.shutdownFault = none

/-- Whether a step leaves a calm pipe that will go on: a pipe that waits may go on at once or at
some time, and one that is finished is done. -/
def Progress.Proceeds : Progress → Prop
  | .running q => q.Calm
  | .waiting q soon => q.Calm ∧ (soon = true ∨ q.nextWake.isSome = true)
  | .finished q => q.Calm ∧ q.stage = .done
  | .failed _ _ => False

variable {size now : Nat} {p : Pipe}

theorem isSome_earlier_left {s t : Option Nat} (h : s.isSome = true) :
    (earlier s t).isSome = true := by
  cases s with
  | none => cases h
  | some a => cases t <;> rfl

theorem isSome_earlier_right {s t : Option Nat} (h : t.isSome = true) :
    (earlier s t).isSome = true := by
  cases t with
  | none => cases h
  | some a => cases s <;> rfl

theorem Calm.faultless (calm : p.Calm) : Faultless p.source p.sink where
  source e h := Event.isFaultless_of_isCalm (calm.source e h)
  writes e h := Event.isAccepting_of_isWilling (calm.writes e h)
  flush := calm.flush
  shutdown := calm.shutdown

/-- What a calm pipe stalls for will happen. -/
theorem Calm.wakes (calm : p.Calm) (stalls : p.Stalls now) : p.nextWake.isSome = true := by
  cases stalls with
  | sourceAsleep stage next early =>
    refine isSome_earlier_left ?_
    rw [next]
    rfl
  | sourceHangs stage next => cases calm.source _ (next ▸ List.mem_cons_self)
  | sinkAsleep stage next early =>
    refine isSome_earlier_right ?_
    rw [next]
    rfl
  | sinkHangs stage next => cases calm.writes _ (next ▸ List.mem_cons_self)

/-- **A calm pipe proceeds**: it does not fail, and it waits only for what will happen. -/
theorem proceeds_step (size now : Nat) (calm : p.Calm) : (p.step size now).Proceeds := by
  have still : (p.step size now).Leaves Calm (fun _ => False) :=
    (script_step_faultless calm.faultless (fun _ => rfl) (fun _ => rfl) (fun _ => rfl) calm.source
      calm.writes).imp (fun _ kept => ⟨kept.1, kept.2.1, kept.2.2.1, kept.2.2.2⟩) (fun _ => id)
  cases made : p.step size now with
  | running q =>
    rw [made] at still
    exact still
  | waiting q soon =>
    rw [made] at still
    cases soon with
    | true => exact ⟨still, .inl rfl⟩
    | false =>
      obtain ⟨rfl, stalls⟩ := stalls_of_step made
      exact ⟨still, .inr (calm.wakes stalls)⟩
  | finished q =>
    rw [made] at still
    exact ⟨still, stage_of_finished made⟩
  | failed q f =>
    rw [made] at still
    exact still

theorem Calm.awaken (now : Nat) (calm : p.Calm) : (p.awaken now).Calm where
  source e h := calm.source e (mem_of_mem_wake h)
  writes e h := calm.writes e (mem_of_mem_wake h)
  flush := calm.flush
  shutdown := calm.shutdown

end Pipe

namespace Duplex

variable {size : Nat} {client remote : Stream} {m m' : Moment}

/-! ### A relay between calm streams -/

/-- What the turn says of a relay on which nothing goes wrong: whoever waits will go on, and when
all is over both directions are done. -/
def Turn.Hopeful (d : Duplex) : Turn → Prop
  | .up => True
  | .down true _ => d.up.stage = .done
  | .down false upSoon => upSoon = true ∨ d.up.nextWake.isSome = true
  | .rest soon => soon = true ∨ d.nextWake.isSome = true
  | .ended outcome => outcome = .finished ∧ d.up.stage = .done ∧ d.down.stage = .done

/-- A moment of a relay on which nothing goes wrong. -/
structure Quiet (m : Moment) : Prop where
  up : m.duplex.up.Calm
  down : m.duplex.down.Calm
  hopeful : m.turn.Hopeful m.duplex

theorem quiet_afterUp {d : Duplex} {now : Nat} {progress : Pipe.Progress} (down : d.down.Calm)
    (proceeds : progress.Proceeds) : Quiet (Moment.afterUp d now progress) := by
  cases progress with
  | running q => exact ⟨proceeds, down, trivial⟩
  | waiting q soon => exact ⟨proceeds.1, down, proceeds.2⟩
  | finished q => exact ⟨proceeds.1, down, proceeds.2⟩
  | failed q f => exact proceeds.elim

theorem quiet_afterDown {upDone upSoon : Bool} {d : Duplex} {now : Nat}
    {progress : Pipe.Progress} (up : d.up.Calm) (hopeful : (Turn.down upDone upSoon).Hopeful d)
    (proceeds : progress.Proceeds) : Quiet (Moment.afterDown upDone upSoon d now progress) := by
  cases progress with
  | running q =>
    refine ⟨up, proceeds, ?_⟩
    cases upDone <;> exact hopeful
  | waiting q soon =>
    refine ⟨up, proceeds.1, ?_⟩
    show (upSoon || soon) = true ∨ _
    rcases proceeds.2 with atOnce | atSomeTime
    · left
      rw [atOnce, Bool.or_true]
    · exact .inr (Pipe.isSome_earlier_right atSomeTime)
  | finished q =>
    -- the round ends the relay only if the other pipe is done as well
    cases upDone with
    | true => exact ⟨up, proceeds.1, rfl, hopeful, proceeds.2⟩
    | false =>
      refine ⟨up, proceeds.1, ?_⟩
      rcases hopeful with atOnce | atSomeTime
      · exact .inl atOnce
      · exact .inr (Pipe.isSome_earlier_left atSomeTime)
  | failed q f => exact proceeds.elim

/-- **Nothing goes wrong later either**: no direction fails, and if both have to wait there is
something to wait for. -/
theorem quiet_next (quiet : Quiet m) (step : m.next size none = some m') : Quiet m' := by
  obtain ⟨turn, d, now⟩ := m
  obtain ⟨up, down, hopeful⟩ := quiet
  cases turn with
  | up =>
    obtain rfl := Option.some.inj step
    exact quiet_afterUp down (Pipe.proceeds_step _ now up)
  | down upDone upSoon =>
    obtain rfl := Option.some.inj step
    exact quiet_afterDown up hopeful (Pipe.proceeds_step _ now down)
  | rest soon =>
    cases soon with
    | true =>
      obtain rfl := Option.some.inj step
      exact ⟨up, down, trivial⟩
    | false =>
      obtain rfl := Option.some.inj step
      rcases hopeful with never | wakes
      · cases never
      · obtain ⟨time, wakes⟩ := Option.isSome_iff_exists.mp wakes
        have wakes : d.nextWake = some time := wakes
        simp only [Moment.afterSleep, wakes, Stream.Limit.isBefore, Bool.false_eq_true, if_false]
        exact ⟨up.awaken time, down.awaken time, trivial⟩
  | ended outcome => cases step

theorem quiet_of_leads (calmClient : client.Peaceful) (calmRemote : remote.Peaceful)
    (leads : Leads (Moment.next size none) (.first client remote) m) : Quiet m := by
  induction leads with
  | refl =>
    exact ⟨⟨calmClient.reads, calmRemote.writes, calmRemote.flush, calmRemote.shutdown⟩,
      ⟨calmRemote.reads, calmClient.writes, calmClient.flush, calmClient.shutdown⟩, trivial⟩
  | tail _ step ih => exact quiet_next ih step

/-- **Nothing is lost.** Between two streams on which nothing goes wrong a relay comes to its end,
whatever the size of its buffers: each side has got exactly what the other one sent, the counts say
so, nothing is left unread, and each stream has been flushed and shut down once. -/
theorem relays_whole (calmClient : client.Peaceful) (calmRemote : remote.Peaceful) (size : Nat) :
    let run := copy size none client remote
    run.outcome = .finished
    ∧ run.duplex.up.moved = (Stream.dataOf client.reads).length
    ∧ run.duplex.down.moved = (Stream.dataOf remote.reads).length
    ∧ run.duplex.remote.output = remote.output ++ Stream.dataOf client.reads
    ∧ run.duplex.client.output = client.output ++ Stream.dataOf remote.reads
    ∧ run.duplex.client.unread = 0 ∧ run.duplex.remote.unread = 0
    ∧ run.duplex.client.flushes = client.flushes + 1
    ∧ run.duplex.client.shutdowns = client.shutdowns + 1
    ∧ run.duplex.remote.flushes = remote.flushes + 1
    ∧ run.duplex.remote.shutdowns = remote.shutdowns + 1 := by
  intro run
  have ends := leads_copy size none client remote
  obtain ⟨finished, upDone, downDone⟩ := (quiet_of_leads calmClient calmRemote ends).hopeful
  have working : ¬ (Moment.last run).turn.HasFailed := by
    intro failed
    rw [show (Moment.last run).turn = .ended .finished from congrArg _ finished] at failed
    exact failed
  have intact := (sound_of_leads ends).intact working
  obtain ⟨upEnded, upOutput, upMoved⟩ := (intact .up).whole (.inr upDone)
  obtain ⟨downEnded, downOutput, downMoved⟩ := (intact .down).whole (.inr downDone)
  obtain ⟨upFlushed, upShut⟩ := (intact .up).closed upDone
  obtain ⟨downFlushed, downShut⟩ := (intact .down).closed downDone
  have nothing : ∀ {es : List (Event Bytes)}, es = [] → (Stream.dataOf es).length = 0 := by
    rintro _ rfl
    rfl
  exact ⟨finished, upMoved.trans (Nat.zero_add _), downMoved.trans (Nat.zero_add _), upOutput,
    downOutput, nothing upEnded, nothing downEnded, downFlushed, downShut, upFlushed, upShut⟩

/-- A request and an answer in odd pieces, through buffers without room. -/
theorem relayed_through_pieces :
    let client : Stream :=
      { reads := [.yield, .item [1, 2], .delay 3, .item [3]]
        writes := [.item 1, .delay 2, .item 5], flushFault := none, shutdownFault := none
        written := [], flushes := 0, shutdowns := 0 }
    let remote : Stream :=
      { reads := [.delay 1, .item [4, 5, 6, 7], .yield]
        writes := [.yield, .item 1], flushFault := none, shutdownFault := none
        written := [[9]], flushes := 2, shutdowns := 0 }
    let run := copy 0 none client remote
    client.Peaceful ∧ remote.Peaceful ∧ run.outcome = .finished
      ∧ run.duplex.remote.output = [9, 1, 2, 3] ∧ run.duplex.client.output = [4, 5, 6, 7] := by
  intro client remote run
  have calmClient : client.Peaceful := ⟨⟨by decide, by decide, rfl⟩, rfl⟩
  have calmRemote : remote.Peaceful := ⟨⟨by decide, by decide, rfl⟩, rfl⟩
  obtain ⟨finished, _, _, toRemote, toClient, _⟩ := relays_whole calmClient calmRemote 0
  exact ⟨calmClient, calmRemote, finished, toRemote, toClient⟩

end Duplex

end Relay

end Intercept
