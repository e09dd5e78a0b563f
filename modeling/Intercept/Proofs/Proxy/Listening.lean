import Intercept.Proofs.Stream.Calm
import Intercept.Proxy.Dialogue
import Mathlib.Data.List.Basic

/-!
# What a dialogue listens to

On a calm stream and without a limit, a dialogue comes to an end that only the octets decide, not
the pieces in which they come nor the waits between them. `listen` is that end as a function of the
octets. The octet strings that lead a dialogue to a value form a language, and listening succeeds
exactly on the strings that have a front in it.

## Main statements

* `perform_calm`: performing a dialogue on a calm stream is listening to its octets.
* `output_perform_calm`: what is said on a calm stream.
* `listen_eq_ok_iff`: listening succeeds exactly on a front in the language of the dialogue.
* `accepts_of_perform`: on any stream, a value comes only from the language of the dialogue.
* `accepts_bind`: the language of two dialogues in a row.
-/

namespace Intercept.Proxy

namespace Talk

/-- A willing sink takes a message whole; how the sending ends is for the flush after it to say. -/
theorem send_willing {t : Talk} (willing : ∀ e ∈ t.stream.writes, e.isWilling = true)
    (message : Bytes) :
    ∃ t', t.send none message = (match t.stream.flushFault with
        | some f => .error (.fault f)
        | none => .ok (), t')
      ∧ (∀ e ∈ t'.stream.writes, e.isWilling = true)
      ∧ t'.stream.flushFault = t.stream.flushFault
      ∧ t'.stream.output = t.stream.output ++ message
      ∧ t'.stream.flushes = t.stream.flushes + 1 := by
  obtain ⟨whole, still⟩ := Stream.deliver_willing t.now message willing
  have taken := Stream.flatten_chunks_deliver whole
  cases fault : t.stream.flushFault with
  | none =>
    refine ⟨_, Prod.ext ?_ rfl, ?_⟩
    · simp only [send, whole, handed, Sink.flush, fault]
    · simp only [send, whole, handed, Sink.flush, fault]
      exact ⟨still, trivial, by simp [Sink.output, taken], trivial⟩
  | some f =>
    refine ⟨_, Prod.ext ?_ rfl, ?_⟩
    · simp only [send, whole, handed, Sink.flush, fault]
    · simp only [send, whole, handed, Sink.flush, fault]
      exact ⟨still, trivial, by simp [Sink.output, taken], trivial⟩

theorem send_calm {t : Talk} (calm : t.stream.Calm) (message : Bytes) :
    ∃ t', t.send none message = (.ok (), t') ∧ t'.stream.Calm
      ∧ t'.stream.reads = t.stream.reads := by
  obtain ⟨t', sent, willing, flush, _⟩ := send_willing calm.writes message
  have reads := reads_send none message t
  rw [sent] at reads
  rw [calm.flush] at sent flush
  refine ⟨t', sent, ⟨?_, willing, flush⟩, reads⟩
  intro e unread
  rw [show t'.stream.reads = t.stream.reads from reads] at unread
  exact calm.reads e unread

/-- Waiting for octets that come without a fault takes them off the front, or meets the end of the
data. -/
theorem await_of_calm {t : Talk} (calm : ∀ e ∈ t.stream.reads, e.isCalm = true) (count : Nat) :
    ∃ t', t.await none count
        = (if count ≤ (Stream.dataOf t.stream.reads).length
            then .ok ((Stream.dataOf t.stream.reads).take count) else .error .ended, t')
      ∧ (∀ e ∈ t'.stream.reads, e.isCalm = true)
      ∧ Stream.dataOf t'.stream.reads = (Stream.dataOf t.stream.reads).drop count
      ∧ t'.stream.toSink = t.stream.toSink := by
  -- only the number of octets to come decides how the wait ends
  have stops := Stream.halt_gather_calm count t.now calm
  have left := Stream.calm_gather none count t.now calm
  refine ⟨_, Prod.ext ?_ rfl, ?_, ?_, ?_⟩
  · by_cases enough : count ≤ (Stream.dataOf t.stream.reads).length
    · rw [if_pos enough] at stops
      simp only [await, stops, if_pos enough, (Stream.gather_whole stops).1]
    · rw [if_neg enough] at stops
      simp only [await, stops, if_neg enough]
  · rw [stream_await]
    exact left
  · rw [stream_await]
    by_cases enough : count ≤ (Stream.dataOf t.stream.reads).length
    · rw [if_pos enough] at stops
      exact (Stream.gather_whole stops).2
    · rw [if_neg enough] at stops
      rw [(Stream.gather_stopped stops).2 rfl, List.drop_eq_nil_of_le (by omega)]
  · rw [stream_await]

/-- Waiting on a calm stream takes the octets off its front, or meets the end of the data. -/
theorem await_calm {t : Talk} (calm : t.stream.Calm) (count : Nat) :
    ∃ t', t.await none count
        = (if count ≤ (Stream.dataOf t.stream.reads).length
            then .ok ((Stream.dataOf t.stream.reads).take count) else .error .ended, t')
      ∧ t'.stream.Calm
      ∧ Stream.dataOf t'.stream.reads = (Stream.dataOf t.stream.reads).drop count := by
  obtain ⟨t', came, still, left, same⟩ := await_of_calm calm.reads count
  refine ⟨t', came, ⟨still, ?_, ?_⟩, left⟩
  · rw [same]
    exact calm.writes
  · rw [same]
    exact calm.flush

end Talk

namespace Dialogue

variable {α β : Type}

/-! ### Listening -/

/-- The end to which a dialogue comes if the given octets are all that will ever come, and the
octets that it leaves. -/
def listen : Dialogue α → Bytes → Except Failure.Negotiation α × Bytes
  | .done a, input => (.ok a, input)
  | .giveUp f, input => (.error f, input)
  | .enter _ next, input => next.listen input
  | .send _ _ next, input => next.listen input
  | .await stage ended count next, input =>
    if count ≤ input.length then (next (input.take count)).listen (input.drop count)
    else (.error (.io stage ended), [])

/-- **Only the octets decide.** On a calm stream a dialogue comes to the end that its octets
decide, and leaves the octets that it did not need. -/
theorem perform_calm (d : Dialogue α) {t : Talk} (calm : t.stream.Calm) :
    (d.perform none t).1 = (d.listen (Stream.dataOf t.stream.reads)).1.mapError .failure
      ∧ Stream.dataOf (d.perform none t).2.stream.reads
        = (d.listen (Stream.dataOf t.stream.reads)).2 := by
  induction d generalizing t with
  | done a => exact ⟨rfl, rfl⟩
  | giveUp f => exact ⟨rfl, rfl⟩
  | enter phase next ih => exact @ih { t with phase := phase } calm
  | send stage message next ih =>
    obtain ⟨t', sent, calm', same⟩ := Talk.send_calm calm message
    simp only [perform, sent, listen, ← same]
    exact ih calm'
  | await stage ended count next ih =>
    obtain ⟨t', came, calm', left⟩ := Talk.await_calm calm count
    by_cases enough : count ≤ (Stream.dataOf t.stream.reads).length
    · simp only [perform, came, listen, if_pos enough, ← left]
      exact ih _ calm'
    · simp only [perform, came, listen, if_neg enough]
      refine ⟨rfl, ?_⟩
      rw [left, List.drop_eq_nil_of_le (by omega)]

/-- What a dialogue says if the given octets are all that will ever come. -/
def speak : Dialogue α → Bytes → Bytes
  | .done _, _ | .giveUp _, _ => []
  | .enter _ next, input => next.speak input
  | .send _ message next, input => message ++ next.speak input
  | .await _ _ count next, input =>
    if count ≤ input.length then (next (input.take count)).speak (input.drop count) else []

/-- **Only the octets decide** what is said, too. -/
theorem output_perform_calm (d : Dialogue α) {t : Talk} (calm : t.stream.Calm) :
    (d.perform none t).2.stream.output
      = t.stream.output ++ d.speak (Stream.dataOf t.stream.reads) := by
  induction d generalizing t with
  | done a | giveUp f => exact (List.append_nil _).symm
  | enter phase next ih => exact @ih { t with phase := phase } calm
  | send stage message next ih =>
    obtain ⟨t', sent, calm', same⟩ := Talk.send_calm calm message
    obtain ⟨taken, rest, whole, added, complete⟩ := Talk.output_send none message t
    rw [sent] at added complete
    obtain rfl := complete rfl
    obtain rfl : taken = message := (whole.trans (List.append_nil taken)).symm
    simp only [perform, sent, speak, ← same, ih calm', added, List.append_assoc]
  | await stage ended count next ih =>
    obtain ⟨t', came, calm', left⟩ := Talk.await_calm calm count
    have kept : t'.stream.output = t.stream.output := by
      have same := Talk.stream_await none count t
      rw [came] at same
      rw [same]
    by_cases enough : count ≤ (Stream.dataOf t.stream.reads).length
    · simp only [perform, came, speak, if_pos enough, ← left, ih _ calm', kept]
    · simp only [perform, came, speak, if_neg enough, kept, List.append_nil]

/-- After a dialogue that was heard out the next one listens to what is left. -/
theorem listen_bind (d : Dialogue α) (rest : α → Dialogue β) (input : Bytes) :
    (d >>= rest).listen input = match d.listen input with
      | (.ok a, left) => (rest a).listen left
      | (.error f, left) => (.error f, left) := by
  rw [bind_eq]
  induction d generalizing input with
  | done a => rfl
  | giveUp f => rfl
  | enter phase next ih => exact ih input
  | send stage message next ih => exact ih input
  | await stage ended count next ih =>
    simp only [andThen, listen]
    by_cases enough : count ≤ input.length
    · simp only [if_pos enough]
      exact ih _ _
    · simp only [if_neg enough]

theorem speak_bind (d : Dialogue α) (rest : α → Dialogue β) (input : Bytes) :
    (d >>= rest).speak input = d.speak input ++ match d.listen input with
      | (.ok a, left) => (rest a).speak left
      | (.error _, _) => [] := by
  rw [bind_eq]
  induction d generalizing input with
  | done a => rfl
  | giveUp f => rfl
  | enter phase next ih => exact ih input
  | send stage message next ih =>
    simp only [andThen, speak, listen, ih, List.append_assoc]
  | await stage ended count next ih =>
    simp only [andThen, speak, listen]
    by_cases enough : count ≤ input.length
    · simp only [if_pos enough]
      exact ih _ _
    · simp only [if_neg enough, List.append_nil]

theorem listen_ofExcept (made : Except Failure.Negotiation α) (input : Bytes) :
    (ofExcept made).listen input = (made, input) := by
  cases made with
  | ok a => rfl
  | error f => rfl

theorem listen_receive (stage : String) (block rest : Bytes) :
    (receive stage block.length).listen (block ++ rest) = (.ok block, rest) := by
  have enough : block.length ≤ (block ++ rest).length := by
    rw [List.length_append]
    omega
  simp only [receive, listen, if_pos enough, List.take_left', List.drop_left']

theorem listen_receive_short (stage : String) {count : Nat} {input : Bytes}
    (short : input.length < count) :
    (receive stage count).listen input = (.error (.io stage .earlyEnd), []) := by
  have few : ¬ count ≤ input.length := by omega
  simp only [receive, listen, if_neg few]

theorem listen_receivePort (stage : String) (port : UInt16) (rest : Bytes) :
    (receivePort stage).listen (Bytes.be16 port ++ rest) = (.ok port, rest) := by
  show (Except.ok (Bytes.ofBE16 (UInt8.ofNat (port.toNat / 256)) (UInt8.ofNat (port.toNat % 256))),
    rest) = _
  rw [Bytes.ofBE16_be16]

theorem listen_receivePort_short (stage : String) {input : Bytes} (short : input.length < 2) :
    (receivePort stage).listen input = (.error (.io stage .unexpectedEnd), []) := by
  have few : ¬ 2 ≤ input.length := by omega
  simp only [receivePort, listen, if_neg few]

/-! ### The language of a dialogue -/

/-- Whether exactly these octets lead a dialogue to a value. -/
def Accepts : Dialogue α → Bytes → α → Prop
  | .done a, octets, b => octets = [] ∧ b = a
  | .giveUp _, _, _ => False
  | .enter _ next, octets, b => next.Accepts octets b
  | .send _ _ next, octets, b => next.Accepts octets b
  | .await _ _ count next, octets, b =>
    ∃ block rest, block.length = count ∧ octets = block ++ rest ∧ (next block).Accepts rest b

/-- **Success is a front in the language.** -/
theorem listen_eq_ok_iff {d : Dialogue α} {input rest : Bytes} {a : α} :
    d.listen input = (.ok a, rest) ↔ ∃ octets, d.Accepts octets a ∧ input = octets ++ rest := by
  induction d generalizing input with
  | done b =>
    constructor
    · intro h
      cases h
      exact ⟨[], ⟨rfl, rfl⟩, rfl⟩
    · rintro ⟨octets, ⟨rfl, rfl⟩, rfl⟩
      rfl
  | giveUp f =>
    constructor
    · intro h
      cases h
    · rintro ⟨octets, none, _⟩
      exact none.elim
  | enter phase next ih => exact ih
  | send stage message next ih => exact ih
  | await stage ended count next ih =>
    simp only [listen, Accepts]
    constructor
    · intro h
      by_cases enough : count ≤ input.length
      · rw [if_pos enough] at h
        obtain ⟨octets, accepted, split⟩ := (ih _).mp h
        refine ⟨input.take count ++ octets, ⟨input.take count, octets, ?_, rfl, accepted⟩, ?_⟩
        · rw [List.length_take, Nat.min_eq_left enough]
        · rw [List.append_assoc, ← split, List.take_append_drop]
      · rw [if_neg enough] at h
        cases h
    · rintro ⟨_, ⟨block, more, rfl, rfl, accepted⟩, rfl⟩
      rw [List.append_assoc, if_pos (by simp)]
      rw [List.take_left' rfl, List.drop_left' rfl]
      exact (ih _).mpr ⟨more, accepted, rfl⟩

/-- A wait on any stream that was not given up has brought as many octets as were waited for. -/
theorem length_of_await {limit : Stream.Limit} {count : Nat} {t t' : Talk} {octets : Bytes}
    (came : t.await limit count = (.ok octets, t')) : octets.length = count := by
  unfold Talk.await at came
  dsimp only at came
  split at came
  · rename_i whole
    cases came
    exact Stream.length_got_gather whole
  · cases came

/-- **A value has been heard.** On any stream and under any limit, a dialogue that comes to a value
has been led to it by octets of its language. -/
theorem accepts_of_perform {limit : Stream.Limit} {d : Dialogue α} {t : Talk} {a : α}
    (ok : (d.perform limit t).1 = .ok a) : ∃ octets, d.Accepts octets a := by
  induction d generalizing t with
  | done b =>
    cases ok
    exact ⟨[], rfl, rfl⟩
  | giveUp f => cases ok
  | enter phase next ih => exact ih ok
  | send stage message next ih =>
    simp only [perform] at ok
    split at ok
    · exact ih ok
    · cases ok
  | await stage ended count next ih =>
    simp only [perform] at ok
    split at ok
    · rename_i block t' came
      obtain ⟨octets, accepted⟩ := ih block ok
      exact ⟨block ++ octets, block, octets, length_of_await came, rfl, accepted⟩
    · cases ok

theorem accepts_bind {d : Dialogue α} {rest : α → Dialogue β} {octets : Bytes} {b : β} :
    (d >>= rest).Accepts octets b ↔
      ∃ front back a, octets = front ++ back ∧ d.Accepts front a ∧ (rest a).Accepts back b := by
  rw [bind_eq]
  induction d generalizing octets with
  | done a =>
    constructor
    · intro h
      exact ⟨[], octets, a, rfl, ⟨rfl, rfl⟩, h⟩
    · rintro ⟨front, back, _, rfl, ⟨rfl, rfl⟩, h⟩
      exact h
  | giveUp f =>
    constructor
    · intro h
      exact h.elim
    · rintro ⟨_, _, _, _, none, _⟩
      exact none.elim
  | enter phase next ih => exact ih
  | send stage message next ih => exact ih
  | await stage ended count next ih =>
    simp only [andThen, Accepts]
    constructor
    · rintro ⟨block, _, counted, rfl, h⟩
      obtain ⟨front, back, a, rfl, first, second⟩ := (ih _).mp h
      exact ⟨block ++ front, back, a, by simp, ⟨block, front, counted, rfl, first⟩, second⟩
    · rintro ⟨_, back, a, rfl, ⟨block, front, counted, rfl, first⟩, second⟩
      exact ⟨block, front ++ back, counted, by simp, (ih _).mpr ⟨front, back, a, rfl, first, second⟩⟩

/-! ### Single steps -/

@[simp]
theorem accepts_pure {a b : α} {octets : Bytes} :
    (pure a : Dialogue α).Accepts octets b ↔ octets = [] ∧ b = a := Iff.rfl

@[simp]
theorem accepts_giveUp {f : Failure.Negotiation} {octets : Bytes} {a : α} :
    ¬ (giveUp f : Dialogue α).Accepts octets a := id

@[simp]
theorem accepts_ofExcept {made : Except Failure.Negotiation α} {octets : Bytes} {a : α} :
    (ofExcept made).Accepts octets a ↔ octets = [] ∧ made = .ok a := by
  cases made with
  | ok b => simp [ofExcept, Accepts, eq_comm]
  | error f => simp [ofExcept]

theorem accepts_tell_bind {stage : String} {message octets : Bytes} {rest : Unit → Dialogue β}
    {b : β} : (tell stage message >>= rest).Accepts octets b ↔ (rest ()).Accepts octets b :=
  Iff.rfl

theorem accepts_proceed_bind {phase : Phase} {octets : Bytes} {rest : Unit → Dialogue β} {b : β} :
    (proceed phase >>= rest).Accepts octets b ↔ (rest ()).Accepts octets b := Iff.rfl

theorem accepts_ofExcept_bind {made : Except Failure.Negotiation α} {octets : Bytes}
    {rest : α → Dialogue β} {b : β} :
    (ofExcept made >>= rest).Accepts octets b ↔ ∃ a, made = .ok a ∧ (rest a).Accepts octets b := by
  cases made with
  | ok a =>
    constructor
    · intro h
      exact ⟨a, rfl, h⟩
    · rintro ⟨_, same, h⟩
      cases same
      exact h
  | error f =>
    constructor
    · intro h
      exact h.elim
    · rintro ⟨_, bad, _⟩
      cases bad

theorem accepts_receive_bind {stage : String} {count : Nat} {octets : Bytes}
    {rest : Bytes → Dialogue β} {b : β} :
    (receive stage count >>= rest).Accepts octets b ↔
      ∃ block back, block.length = count ∧ octets = block ++ back ∧ (rest block).Accepts back b :=
  Iff.rfl

/-- A wait for one octet goes on with it. -/
theorem accepts_await_one {stage : String} {ended : IoFault} {octets : Bytes} {octet : UInt8} :
    (await stage ended 1 fun block => .done (block.headD 0)).Accepts octets octet
      ↔ octets = [octet] := by
  constructor
  · rintro ⟨block, _, counted, rfl, rfl, rfl⟩
    obtain ⟨b, rfl⟩ := List.length_eq_one_iff.mp counted
    rfl
  · rintro rfl
    exact ⟨[octet], [], rfl, rfl, rfl, rfl⟩

theorem accepts_receiveOne {stage : String} {octets : Bytes} {octet : UInt8} :
    (receiveOne stage).Accepts octets octet ↔ octets = [octet] := accepts_await_one

theorem accepts_receiveOctet {stage : String} {octets : Bytes} {octet : UInt8} :
    (receiveOctet stage).Accepts octets octet ↔ octets = [octet] := accepts_await_one

theorem accepts_receivePort_bind {stage : String} {octets : Bytes} {rest : UInt16 → Dialogue β}
    {b : β} :
    (receivePort stage >>= rest).Accepts octets b ↔
      ∃ port back, octets = Bytes.be16 port ++ back ∧ (rest port).Accepts back b := by
  constructor
  · rintro ⟨block, back, counted, rfl, h⟩
    obtain ⟨high, low, rfl⟩ := List.length_eq_two.mp counted
    exact ⟨Bytes.ofBE16 high low, back, by rw [Bytes.be16_ofBE16], h⟩
  · rintro ⟨port, back, rfl, h⟩
    refine ⟨Bytes.be16 port, back, rfl, rfl, ?_⟩
    have same : Bytes.ofBE16 ((Bytes.be16 port).headD 0) ((Bytes.be16 port).tail.headD 0) = port :=
      Bytes.ofBE16_be16 port
    show (rest (Bytes.ofBE16 _ _)).Accepts back b
    rwa [same]

end Dialogue

end Intercept.Proxy
