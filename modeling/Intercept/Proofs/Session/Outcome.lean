import Intercept.Proofs.Ledger.Totals
import Intercept.Session.Association

/-!
# How sessions come to their ends

The phase of a session is written by its handshake with the proxy, by the stage that opens the way
and by the one that closes it, and there are many ways to fail. Whichever is taken, the session is
established after the way was opened and has failed otherwise, what it held is released, and no
payload has been moved before the way was open. So the ledger never tells of more sessions that
completed than of sessions that were established, nor of more of these than have ended.

## Main statements

* `Tunnel.Orderly.lawful`: a session whose stages keep their part comes to its end as it should.
* `outcome_law`: every session keeps the law, and so does the ledger.
-/

namespace Intercept.Session

/-! ### The law -/

namespace Tunnel

variable {σ μ : Type} {t : Tunnel σ} {IsReleased : σ → Prop} {moved : σ → μ} {s : σ}

/-- A session that releases what it holds where it should, and moves payload only when it relays. -/
structure Tidy (t : Tunnel σ) (IsReleased : σ → Prop) (moved : σ → μ) : Prop where
  negotiate_released : ∀ s f, (t.negotiate s).1 = .error f → IsReleased (t.negotiate s).2
  close_released : ∀ s, IsReleased (t.close s)
  negotiate_moved : ∀ s, moved (t.negotiate s).2 = moved s
  close_moved : ∀ s, moved (t.close s) = moved s

/-- How a session comes to its end: what holds once it has tried to open the way, and once it has
been driven to its end. -/
structure Lawful (t : Tunnel σ) (IsReleased : σ → Prop) (moved : σ → μ) (s : σ) : Prop where
  established_iff : t.phase (t.negotiate s).2 = .established ↔ (t.negotiate s).1 = .ok ()
  failed_iff : t.phase (t.negotiate s).2 = .failed ↔ ∃ f, (t.negotiate s).1 = .error f
  negotiate_released : ∀ f, (t.negotiate s).1 = .error f → IsReleased (t.negotiate s).2
  negotiate_moved : moved (t.negotiate s).2 = moved s
  /-- If the way was not opened, that is how the session ends, and no payload is ever moved. -/
  run_of_error : ∀ f, (t.negotiate s).1 = .error f →
    (t.run s).1 = some (.error f) ∧ moved (t.run s).2 = moved s
  run_released : ∀ result, (t.run s).1 = some result → IsReleased (t.run s).2
  run_phase : ∀ result, (t.run s).1 = some result →
    t.phase (t.run s).2 = .established
      ∨ (t.phase (t.run s).2 = .failed ∧ ∃ f, result = .error f)

theorem run_of_negotiate_eq_error {f : Failure} (failed : (t.negotiate s).1 = .error f) :
    t.run s = (some (.error f), t.close (t.negotiate s).2) := by
  rw [run, show t.negotiate s = (.error f, (t.negotiate s).2) from Prod.ext failed rfl]

/-- Whatever way a session ends, it closes last. -/
theorem exists_close_run {result : Ledger.Result} (ended : (t.run s).1 = some result) :
    ∃ s', (t.run s).2 = t.close s' := by
  unfold run at ended ⊢
  split
  · exact ⟨_, rfl⟩
  · rename_i opened
    rw [opened] at ended
    split
    · rename_i endless
      simp [endless] at ended
    · exact ⟨_, rfl⟩

/-- **A session** whose stages keep the phase in order, and release and move as they should, comes
to its end as it should. -/
theorem Orderly.lawful (orderly : t.Orderly) (tidy : t.Tidy IsReleased moved) (s : σ) :
    t.Lawful IsReleased moved s := by
  -- the way was opened or it was not, and the phase tells one from the other
  have either : (t.negotiate s).1 = .ok () ∨ ∃ f, (t.negotiate s).1 = .error f := by
    cases (t.negotiate s).1 with
    | ok u => exact .inl rfl
    | error f => exact .inr ⟨f, rfl⟩
  constructor
  case established_iff =>
    refine ⟨fun phase => either.resolve_right ?_, orderly.established s⟩
    rintro ⟨f, failed⟩
    rw [orderly.failed s f failed] at phase
    cases phase
  case failed_iff =>
    refine ⟨fun phase => either.resolve_left fun opened => ?_, fun ⟨f, h⟩ => orderly.failed s f h⟩
    rw [orderly.established s opened] at phase
    cases phase
  case negotiate_released => exact tidy.negotiate_released s
  case negotiate_moved => exact tidy.negotiate_moved s
  case run_of_error =>
    intro f failed
    rw [run_of_negotiate_eq_error failed]
    exact ⟨rfl, (tidy.close_moved _).trans (tidy.negotiate_moved s)⟩
  case run_released =>
    intro result ended
    obtain ⟨s', last⟩ := exists_close_run ended
    exact last ▸ tidy.close_released s'
  case run_phase => exact fun result => phase_run orderly

/-- Whether a session ends in this way. -/
def EndsAs (t : Tunnel σ) (s : σ) (e : Ledger.Ending) : Prop :=
  (t.run s).1 = some e.result ∧ t.phase (t.run s).2 = e.phase

theorem Lawful.tallies (lawful : t.Lawful IsReleased moved s) {e : Ledger.Ending}
    (ends : t.EndsAs s e) : Ledger.Tallies e.entries 1 := by
  have kept := lawful.run_phase e.result ends.1
  rw [ends.2] at kept
  exact e.tallies kept

end Tunnel

/-! ### Sessions over TCP -/

namespace Connection

/-- Whether neither side is held. -/
def IsReleased (c : Connection) : Prop :=
  c.near.isHeld = false ∧ ∀ side ∈ c.far, side.isHeld = false

theorem isReleased_release (c : Connection) : c.release.IsReleased := by
  refine ⟨rfl, fun side held => ?_⟩
  obtain ⟨before, _, rfl⟩ := Option.map_eq_some_iff.mp held
  rfl

theorem tidy (w : Surroundings) : (tunnel w).Tidy IsReleased (·.near.stream) where
  negotiate_released c f failed := by
    simp only [tunnel, negotiate] at failed ⊢
    split
    · rename_i opened
      rw [opened] at failed
      cases failed
    · exact isReleased_release _
  close_released := isReleased_release
  negotiate_moved := near_negotiate w
  close_moved _ := rfl

end Connection

/-! ### Sessions over UDP -/

namespace Association

/-- Whether no more datagrams are taken, and nothing is held. -/
def IsReleased (a : Association) : Prop :=
  a.isOpen = false ∧ (∀ side ∈ a.control, side.isHeld = false) ∧ a.relayEnd = none
    ∧ a.replyEnd = none

theorem isReleased_release (a : Association) : a.release.IsReleased := by
  refine ⟨rfl, fun side held => ?_, rfl, rfl⟩
  obtain ⟨before, _, rfl⟩ := Option.map_eq_some_iff.mp held
  rfl

theorem tidy (w : Surroundings) (arrivals : List (Nat × Relay.Arrival)) :
    (tunnel w arrivals).Tidy IsReleased moved where
  negotiate_released a f failed := by
    simp only [tunnel, negotiate] at failed ⊢
    split
    · rename_i opened
      rw [opened] at failed
      cases failed
    · exact isReleased_release _
  close_released := isReleased_release
  negotiate_moved := moved_negotiate w
  close_moved _ := rfl

end Association

/-! ### The ledger -/

/-- The ends that sessions come to, over either transport, wherever they reach out and whatever comes
of it. -/
inductive Ends : Ledger.Ending → Prop where
  | connection {w : Surroundings} {terms : Terms} {flow : Flow} {client : Stream} {now : Nat}
      {e : Ledger.Ending} :
      (Connection.tunnel w).EndsAs (.start terms flow client now) e → Ends e
  | association {w : Surroundings} {arrivals : List (Nat × Relay.Arrival)} {terms : Terms}
      {flow : Flow} {now : Nat} {e : Ledger.Ending} :
      (Association.tunnel w arrivals).EndsAs (.start terms flow now) e → Ends e

theorem Ends.tallies {e : Ledger.Ending} (ends : Ends e) : Ledger.Tallies e.entries 1 := by
  cases ends with
  | connection ends => exact ((Connection.orderly _).lawful (Connection.tidy _) _).tallies ends
  | association ends =>
    exact ((Association.orderly _ _).lawful (Association.tidy _ _) _).tallies ends

/-- An operation that reports the end of a session, or that tells of no end. -/
def Reports : Ledger.Operation → Prop
  | .entry e => e.IsAside
  | .ending e => Ends e

theorem tallies_entriesOf {operations : List Ledger.Operation}
    (reports : ∀ o ∈ operations, Reports o) :
    Ledger.Tallies (Ledger.entriesOf operations)
      (operations.countP Ledger.Operation.isEnding) := by
  induction operations with
  | nil => exact Ledger.tallies_nil
  | cons o operations ih =>
    have later := ih fun o' more => reports o' (List.mem_cons_of_mem o more)
    have one : Ledger.Tallies o.entries (if o.isEnding then 1 else 0) := by
      have this := reports o List.mem_cons_self
      cases o with
      | entry e => exact Ledger.tallies_of_isAside this
      | ending e => exact Ends.tallies this
    rw [List.countP_cons, Nat.add_comm]
    exact one.append later

/-- **How sessions end.** Every session, over either transport, through a proxy or straight, is
established if and only if it could open the way and has failed otherwise, then holding nothing; no
payload is moved unless the way was opened; a session that has been driven to its end holds nothing,
and was established or has failed with a failure. So however many sessions report their ends to a
ledger that counted from nothing, in whatever order and whatever else is recorded between, no more of
them completed than were established, and no more were established than completed or failed. -/
theorem outcome_law :
    (∀ (w : Surroundings) (terms : Terms) (flow : Flow) (client : Stream) (now : Nat),
      (Connection.tunnel w).Lawful Connection.IsReleased (·.near.stream)
        (.start terms flow client now))
    ∧ (∀ (w : Surroundings) (arrivals : List (Nat × Relay.Arrival)) (terms : Terms) (flow : Flow)
        (now : Nat),
      (Association.tunnel w arrivals).Lawful Association.IsReleased Association.moved
        (.start terms flow now))
    ∧ ∀ operations : List Ledger.Operation, (∀ o ∈ operations, Reports o) →
      operations.countP Ledger.Operation.isEnding < UInt64.size →
      let l := Ledger.empty.recordAll (Ledger.entriesOf operations)
      l.completed.toNat ≤ l.established.toNat
        ∧ l.established.toNat ≤ l.completed.toNat + l.failed.toNat := by
  refine ⟨fun w terms flow client now => ?_, fun w arrivals terms flow now => ?_,
    fun operations reports few => (tallies_entriesOf reports).recordAll few⟩
  · exact (Connection.orderly w).lawful (Connection.tidy w) _
  · exact (Association.orderly w arrivals).lawful (Association.tidy w arrivals) _

/-- One session over TCP cannot dial, one over UDP stays idle until it ends, both of them straight; a
ledger that both are reported to. -/
theorem outcome_law_of_two_sessions :
    let w : Surroundings :=
      { dialStream := fun _ _ => some (0, .error .privilegeDenied)
        dialRelay := fun _ _ => .ok ()
        dialClient := fun _ _ => .ok ()
        lookUp := fun _ _ => none }
    let terms : Terms := ⟨none, 1000, 1000, false, 64⟩
    let flow : Flow := ⟨.v4 ⟨10, 0, 0, 9⟩ 5, .v4 ⟨1, 2, 3, 4⟩ 53⟩
    let client : Stream := { reads := [.item [1, 2, 3]], writes := [], flushFault := none
                             shutdownFault := none, written := [], flushes := 0, shutdowns := 0 }
    let refused : Ledger.Ending := ⟨.failed, .error (.socket .privilegeDenied)⟩
    let idle : Ledger.Ending := ⟨.established, .ok (0, 0)⟩
    let operations : List Ledger.Operation := [.entry (.accepted .tcp), .entry (.accepted .udp),
      .ending refused, .entry .dropped, .ending idle]
    let l := Ledger.empty.recordAll (Ledger.entriesOf operations)
    (Connection.tunnel w).EndsAs (.start terms flow client 0) refused
      ∧ (Association.tunnel w []).EndsAs (.start terms flow 0) idle
      ∧ (∀ o ∈ operations, Reports o)
      ∧ operations.countP Ledger.Operation.isEnding < UInt64.size
      ∧ l.completed.toNat ≤ l.established.toNat
      ∧ l.established.toNat ≤ l.completed.toNat + l.failed.toNat := by
  intro w terms flow client refused idle operations l
  have refusal : (Connection.tunnel w).EndsAs (.start terms flow client 0) refused :=
    ⟨by decide, by decide⟩
  have idling : (Association.tunnel w []).EndsAs (.start terms flow 0) idle :=
    ⟨by decide, by decide⟩
  have aside (e : Ledger.Entry) (is : e.IsAside) : Reports (.entry e) := is
  have reports : ∀ o ∈ operations, Reports o := by
    simp only [operations, List.forall_mem_cons]
    exact ⟨aside _ ⟨rfl, rfl, rfl⟩, aside _ ⟨rfl, rfl, rfl⟩, Ends.connection refusal,
      aside _ ⟨rfl, rfl, rfl⟩, Ends.association idling, by simp⟩
  have few : operations.countP Ledger.Operation.isEnding < UInt64.size := by decide
  exact ⟨refusal, idling, reports, few, outcome_law.2.2 operations reports few⟩

end Intercept.Session
