import Intercept.Proofs.Proxy.Wrapping
import Intercept.Proofs.Relay.Traffic
import Intercept.Session.Association
import Intercept.Settings.Rules

/-!
# What an established session over UDP sends on

Once the way is open, all that comes in time is sent on, and the session ends when nothing more has
come for a while. To the client it sends the payloads of what it received, and it receives no more of
a datagram than its buffer holds. So an answer comes through whole if the datagram that brings it
fits into the buffer; of a longer one the client gets the front, unless it cannot be read. The
settings ask for a buffer of 1024 octets at least, and a datagram may have 65507.

## Main statements

* `exists_ends_negotiate`: what an open way consists of.
* `answersWhole_iff`: which answers are never cut.
* `front_of_answer_sent`: an answer that is cut.
* `sends_on_until_idle`: what is sent on, and when the session ends.
-/

namespace Intercept.Session.Association

open Relay (Arrival Datagrams)
open Relay.Datagrams (taken total)

variable {w : Surroundings} {a b : Association}

/-! ### An open way -/

theorem endpoint?_of_destination {destination : Endpoint}
    (literal : a.destination = .ok destination) :
    a.flow.destination.endpoint? = some destination := by
  unfold Association.destination at literal
  split at literal
  · rename_i e found
    cases literal
    exact found
  · cases literal

/-- What was established was joined. -/
theorem exists_join_of_establish (established : establish w a = (.ok (), b)) :
    ∃ c destination relay, a.destination = .ok destination
      ∧ join w c destination relay = (.ok (), b) := by
  unfold establish at established
  split at established
  · cases established
  · rename_i destination literal
    split at established
    · cases established
    · rename_i relay c reached
      exact ⟨c, destination, relay, literal, established⟩

theorem exists_ends_of_join {destination relay : Endpoint}
    (joined : join w a destination relay = (.ok (), b)) :
    ∃ far near, b.relayEnd = some far ∧ b.replyEnd = some near := by
  unfold join at joined
  split at joined
  · cases joined
  · dsimp only at joined
    split at joined
    · cases joined
    · cases joined
      exact ⟨_, _, rfl, rfl⟩

/-- **An open way** has a socket at either end, and leads to a literal address. -/
theorem exists_ends_negotiate (opened : negotiate w a = (.ok (), b)) :
    ∃ far near destination, b.relayEnd = some far ∧ b.replyEnd = some near
      ∧ b.way.destination.endpoint? = some destination := by
  have sameWay := congrArg Relay.Datagrams.Way.destination (way_negotiate w a)
  rw [opened] at sameWay
  unfold negotiate at opened
  split at opened
  · rename_i c established
    cases opened
    obtain ⟨_, destination, _, literal, joined⟩ := exists_join_of_establish established
    obtain ⟨far, near, hasFar, hasNear⟩ := exists_ends_of_join joined
    refine ⟨far, near, destination, hasFar, hasNear, ?_⟩
    rw [sameWay]
    exact endpoint?_of_destination literal
  · cases opened

theorem relay_of_ends {far near : Endpoint} (hasFar : a.relayEnd = some far)
    (hasNear : a.replyEnd = some near) (arrivals : List (Nat × Arrival)) :
    a.relay arrivals =
      let run := Relay.Datagrams.run a.way (.start a.way a.now) arrivals
      (some run.result, { a with
        sent := a.sent ++ run.relay.sent
        replied := a.replied ++ run.relay.replied
        now := run.relay.now }) := by
  unfold relay
  rw [hasFar, hasNear]

/-- What goes to a literal address can always be sent. -/
theorem exists_outgoing {way : Datagrams.Way} {destination : Endpoint}
    (literal : way.destination.endpoint? = some destination) (payload : Bytes) :
    ∃ frame, way.outgoing payload = .ok frame := by
  have fits : way.destination.IsEncodable := by
    cases address : way.destination with
    | v4 ip port | v6 ip port => trivial
    | name host port =>
      rw [address] at literal
      cases literal
  unfold Relay.Datagrams.Way.outgoing
  split
  · obtain ⟨field, written⟩ := (Address.exists_encode_eq way.destination).mpr fits
    exact ⟨_, Proxy.Packet.wrap_udp_of_encode (p := ⟨way.destination, payload⟩) written⟩
  · exact ⟨payload, rfl⟩

/-! ### Whole answers -/

/-- Whether the client gets answers whole as long as no datagram that comes is longer than `longest`:
of all that the session takes before it ends, it sends exactly the payloads of the whole datagrams,
in order, and if it ends well it counts their octets. -/
def AnswersWhole (a : Association) (longest : Nat) : Prop :=
  ∀ arrivals : List (Nat × Arrival),
    (∀ time octets fault?, (time, .datagram octets fault?) ∈ arrivals → octets.length ≤ longest) →
    let answers := (taken a.way (.start a.way a.now) arrivals).filterMap (a.way.wholeReply? ·.2)
    (a.relay arrivals).2.replied = a.replied ++ answers
      ∧ ∀ up down, (a.relay arrivals).1 = some (.ok (up, down)) → down = UInt64.ofNat (total answers)

variable {far near : Endpoint} {longest : Nat}

theorem answersWhole_of_fits (hasFar : a.relayEnd = some far) (hasNear : a.replyEnd = some near)
    (fits : longest ≤ a.terms.bufferSize) : a.AnswersWhole longest := by
  intro arrivals short answers
  have uncut : (taken a.way (.start a.way a.now) arrivals).filterMap (a.way.reply? ·.2)
      = answers := by
    refine List.filterMap_congr fun o member => Relay.Datagrams.Way.reply?_of_fits ?_
    intro octets fault? isDatagram
    have came : (o.1, .datagram octets fault?) ∈ arrivals :=
      isDatagram ▸ (Relay.Datagrams.taken_isPrefix _ _ arrivals).subset member
    exact Nat.le_trans (short o.1 octets fault? came) fits
  have carries := Relay.Datagrams.carries_run a.way (.start a.way a.now) arrivals
  rw [relay_of_ends hasFar hasNear]
  refine ⟨?_, fun up down well => ?_⟩
  · show a.replied ++ _ = _
    rw [carries.replied, uncut]
    rfl
  · have counted := Relay.Datagrams.result_run (Option.some.inj well)
    rw [Prod.mk.injEq] at counted
    rw [counted.2, carries.down, uncut]
    exact UInt64.zero_add _

/-- The front of a datagram that is read as an envelope. -/
def emptyEnvelope : Bytes := [0, 0, 0, 1, 0, 0, 0, 0, 0, 0]

theorem payload?_emptyEnvelope (way : Datagrams.Way) (rest : Bytes) :
    way.payload? (emptyEnvelope ++ rest)
      = some (if way.isProxied then rest else emptyEnvelope ++ rest) := by
  unfold Relay.Datagrams.Way.payload?
  split <;> rfl

/-- A datagram that has one octet too many may bring an answer that is cut. -/
theorem exists_cut_answer (way : Datagrams.Way) (room : 10 ≤ way.bufferSize) :
    ∃ octets cut whole, octets.length = way.bufferSize + 1 ∧ way.incoming? octets = some cut
      ∧ way.payload? octets = some whole ∧ cut ≠ whole := by
  let rest : Bytes := List.replicate (way.bufferSize - 9) 0
  have isCut : way.incoming? (emptyEnvelope ++ rest) = some (if way.isProxied then
      rest.take (way.bufferSize - 10) else emptyEnvelope ++ rest.take (way.bufferSize - 10)) := by
    rw [Relay.Datagrams.Way.incoming?, List.take_append,
      List.take_of_length_le (show emptyEnvelope.length ≤ _ from room)]
    exact payload?_emptyEnvelope way _
  have shorter : (rest.take (way.bufferSize - 10)).length ≠ rest.length := by
    rw [List.length_take, List.length_replicate]
    omega
  refine ⟨emptyEnvelope ++ rest, _, _, ?_, isCut, payload?_emptyEnvelope way rest, ?_⟩
  · rw [List.length_append, List.length_replicate]
    show 10 + _ = _
    omega
  · intro same
    split at same
    · exact shorter (congrArg List.length same)
    · exact shorter (congrArg List.length (List.append_cancel_left same))

theorem not_answersWhole_of_long (hasFar : a.relayEnd = some far) (hasNear : a.replyEnd = some near)
    (room : 10 ≤ a.terms.bufferSize) (idle : 0 < a.terms.idleMillis)
    (long : a.terms.bufferSize < longest) : ¬ a.AnswersWhole longest := by
  intro answersWhole
  obtain ⟨octets, cut, whole, size, received, isWhole, differs⟩ :=
    exists_cut_answer a.way room
  have size : octets.length = a.terms.bufferSize + 1 := size
  have inTime : ¬ (Relay.Datagrams.start a.way a.now).deadline ≤ a.now :=
    Nat.not_le.mpr (Clock.lt_deadlineAfter a.now idle)
  -- it is the only thing that comes, and comes at once
  have isTaken : taken a.way (.start a.way a.now) [(a.now, .datagram octets none)]
      = [(a.now, .datagram octets none)] := by
    rw [taken, if_neg inTime, Relay.Datagrams.step_datagram received]
    rfl
  have carries := Relay.Datagrams.carries_run a.way (.start a.way a.now)
    [(a.now, .datagram octets none)]
  have sent := (answersWhole [(a.now, .datagram octets none)] fun time octets' fault? came => by
    cases List.mem_singleton.mp came
    omega).1
  rw [relay_of_ends hasFar hasNear, isTaken] at sent
  have sent := List.append_cancel_left sent
  rw [carries.replied, isTaken] at sent
  have isCut : a.way.reply? (.datagram octets none) = some cut := received
  have isWhole : a.way.wholeReply? (.datagram octets none) = some whole := isWhole
  simp only [List.filterMap_cons, List.filterMap_nil, isCut, isWhole,
    Relay.Datagrams.start, List.nil_append, List.cons.injEq, and_true] at sent
  exact differs sent

/-- **Which answers are never cut.** Under settings that satisfy the rules, through a proxy or
straight, once the way is open: the client gets all answers whole, of datagrams no longer than
`longest`, exactly if the buffer of the settings holds the longest of them. -/
theorem answersWhole_iff {s : Settings} {flow : Flow} {now : Nat} (valid : s.Valid)
    (opened : negotiate w (.start (.ofSettings s) flow now) = (.ok (), a)) (longest : Nat) :
    a.AnswersWhole longest ↔ longest ≤ s.connection.bufferSize.toNat := by
  obtain ⟨far, near, _, hasFar, hasNear, _⟩ := exists_ends_negotiate opened
  have terms : a.terms = .ofSettings s := by
    have kept := congrArg Prod.fst (brief_negotiate w (.start (.ofSettings s) flow now))
    rwa [opened] at kept
  have room := valid.bufferSize
  have idle := valid.idleSeconds.1
  constructor
  · intro whole
    refine Nat.le_of_not_lt fun long => ?_
    refine not_answersWhole_of_long hasFar hasNear ?_ ?_ ?_ whole <;> rw [terms]
    · exact Nat.le_trans (by decide) room
    · show 0 < s.session.idleSeconds.toNat * 1000
      omega
    · exact long
  · intro fits
    refine answersWhole_of_fits hasFar hasNear ?_
    rw [terms]
    exact fits

/-- Through a proxy that grants a relay, with the smallest buffer that the rules allow: datagrams of
1024 octets bring their answers whole, and those of 65507 octets do not. -/
theorem answersWhole_of_1024 :
    let w : Surroundings :=
      { dialStream := fun _ _ => some (0, .ok
          { reads := [.item [5, 0], .item [5, 0, 0, 1, 10, 0, 0, 1, 4, 56]]
            writes := [], flushFault := none, shutdownFault := none
            written := [], flushes := 0, shutdowns := 0 })
        dialRelay := fun _ _ => .ok ()
        dialClient := fun _ _ => .ok ()
        lookUp := fun _ _ => none }
    let s : Settings := { Settings.default with
      proxy := some (.at (.v4 ⟨10, 0, 0, 1⟩ 1080))
      connection := { Settings.Connection.default with bufferSize := 1024 } }
    let opened := negotiate w
      (.start (.ofSettings s) ⟨.v4 ⟨10, 0, 0, 9⟩ 5, .v4 ⟨1, 2, 3, 4⟩ 53⟩ 0)
    s.Valid ∧ opened.1 = .ok () ∧ opened.2.AnswersWhole 1024 ∧ ¬ opened.2.AnswersWhole 65507 := by
  intro w s opened
  have valid : s.Valid := by decide
  have isOpen : opened.1 = .ok () := by decide
  have which := answersWhole_iff valid (Prod.ext isOpen rfl : opened = (.ok (), opened.2))
  exact ⟨valid, isOpen, (which 1024).mpr (by decide),
    fun whole => absurd ((which 65507).mp whole) (by decide)⟩

/-- **An answer that is cut.** The settings satisfy the rules and the way is open, straight to the
destination; of an answer of 1500 octets the client gets 1024, and the session ends well. -/
theorem front_of_answer_sent :
    let w : Surroundings :=
      { dialStream := fun _ _ => none
        dialRelay := fun _ _ => .ok ()
        dialClient := fun _ _ => .ok ()
        lookUp := fun _ _ => none }
    let s : Settings := { Settings.default with
      connection := { Settings.Connection.default with bufferSize := 1024 } }
    let opened := negotiate w (.start (.ofSettings s)
      ⟨.v4 ⟨127, 0, 0, 1⟩ 40001, .v4 ⟨127, 0, 0, 1⟩ 40053⟩ 0)
    let answer : Bytes := List.replicate 1500 7
    let relayed := opened.2.relay [(1, .payload [1] none), (2, .datagram answer none)]
    s.Valid ∧ opened.1 = .ok () ∧ opened.2.way.payload? answer = some answer
      ∧ relayed.2.replied = [answer.take 1024] ∧ answer.take 1024 ≠ answer
      ∧ relayed.1 = some (.ok (1, 1024)) ∧ ¬ opened.2.AnswersWhole 65507 := by
  intro w s opened answer relayed
  have front : (answer.take 1024).length = 1024 := by
    rw [List.length_take, List.length_replicate]
    rfl
  have whole : answer.length = 1500 := List.length_replicate
  refine ⟨by decide, by decide, rfl, by decide +kernel, fun same => ?_, by decide +kernel, ?_⟩
  · rw [same, whole] at front
    cases front
  · exact not_answersWhole_of_long (a := opened.2) rfl rfl (by decide) (by decide) (by decide)

/-! ### Until nothing comes -/

/-- **A session sends on what comes until nothing has come for a while.** While both sides stay open
and nothing fails, in whatever order things come: of all that can be sent on, that is every datagram
of the client and every readable one from the other side, it sends what comes before the deadline,
and nothing that comes after it. The deadline is set when the session begins to relay, and by each
datagram that is sent on, and by nothing else; when it has come the session ends well, having counted
what it has sent on without the envelopes. -/
theorem sends_on_until_idle (opened : negotiate w a = (.ok (), b))
    {offers : List (Nat × Arrival)} (sorted : (b.now :: offers.map Prod.fst).Pairwise (· ≤ ·))
    (offered : ∀ o ∈ offers, o.2.isOffer = true) :
    let deadline (last : Nat) := Clock.deadlineAfter last b.terms.idleMillis
    (∀ last, last + b.terms.idleMillis ≤ Clock.lastMoment →
      deadline last = last + b.terms.idleMillis) ∧
    ∃ heard late frames,
      b.way.forwarded offers = heard ++ late
      ∧ (b.now :: heard.map Prod.fst).IsChain (fun last time => time < deadline last)
      ∧ (∀ o ∈ late, deadline ((heard.map Prod.fst).getLastD b.now) ≤ o.1)
      ∧ (heard.filterMap (·.2.payload?)).map b.way.outgoing = frames.map .ok
      ∧ b.relay offers = (
        some (.ok (UInt64.ofNat (total (heard.filterMap (·.2.payload?))),
          UInt64.ofNat (total (heard.filterMap (b.way.reply? ·.2))))),
        { b with
          sent := b.sent ++ frames
          replied := b.replied ++ heard.filterMap (b.way.reply? ·.2)
          now := deadline ((heard.map Prod.fst).getLastD b.now) }) := by
  intro deadline
  obtain ⟨far, near, destination, hasFar, hasNear, literal⟩ := exists_ends_negotiate opened
  have wraps := exists_outgoing literal
  have idles := Relay.Datagrams.idles_run (d := .start b.way b.now) wraps rfl
    (Clock.le_deadlineAfter _ _) sorted offered
  have carries := (Relay.Datagrams.carries_run b.way (.start b.way b.now) offers).forwarded
  obtain ⟨⟨late, all, tooLate⟩, inTime, ⟨counts, well⟩, ends⟩ := idles
  have counted := Relay.Datagrams.result_run well
  refine ⟨fun last fits => Clock.deadlineAfter_of_le fits, _, late, _, all, inTime, tooLate,
    Relay.Datagrams.map_outgoing wraps, ?_⟩
  rw [relay_of_ends hasFar hasNear]
  dsimp only
  -- the relay itself begins with nothing sent and nothing counted
  rw [well, counted, carries.up, carries.down, carries.sent, carries.replied, ends]
  simp only [Relay.Datagrams.start, List.nil_append, UInt64.zero_add]
  rfl

/-- Through a proxy, with a second to wait: octets on the control connection and unreadable datagrams
come all the time, and the session still ends a second after the last datagram that it sent on, which
came a millisecond before the deadline; the next one comes at the deadline. -/
theorem sends_on_beside_junk :
    let w : Surroundings :=
      { dialStream := fun _ _ => some (0, .ok
          { reads := [.item [5, 0], .item [5, 0, 0, 1, 10, 0, 0, 1, 4, 56]]
            writes := [], flushFault := none, shutdownFault := none
            written := [], flushes := 0, shutdowns := 0 })
        dialRelay := fun _ _ => .ok ()
        dialClient := fun _ _ => .ok ()
        lookUp := fun _ _ => none }
    let a : Association := .start ⟨some (.at (.v4 ⟨10, 0, 0, 1⟩ 1080)), 1000, 1000, false, 64⟩
      ⟨.v4 ⟨10, 0, 0, 9⟩ 5, .v4 ⟨1, 2, 3, 4⟩ 53⟩ 0
    let b := (negotiate w a).2
    let answer : Bytes := [0, 0, 0, 1, 1, 2, 3, 4, 0, 53, 7]
    let offers : List (Nat × Arrival) := [(300, .payload [1] none), (900, .control [9]),
      (1200, .datagram [9, 9] none), (1299, .datagram answer none), (1300, .datagram [] none),
      (2000, .control [9, 9]), (2298, .payload [2, 3] none), (3000, .datagram [9] none),
      (3298, .payload [4] none)]
    negotiate w a = (.ok (), b)
      ∧ (b.now :: offers.map Prod.fst).Pairwise (· ≤ ·)
      ∧ (∀ o ∈ offers, o.2.isOffer = true)
      ∧ (∃ heard late, b.way.forwarded offers = heard ++ late
        ∧ (∀ o ∈ late, (b.relay offers).2.now ≤ o.1)
        ∧ (b.relay offers).2.replied = b.replied ++ heard.filterMap (b.way.reply? ·.2))
      ∧ (b.relay offers).1 = some (.ok (3, 1)) ∧ (b.relay offers).2.now = 3298 := by
  intro w a b answer offers
  have opened : negotiate w a = (.ok (), b) := Prod.ext (by decide) rfl
  have sorted : (b.now :: offers.map Prod.fst).Pairwise (· ≤ ·) := by decide
  have offered : ∀ o ∈ offers, o.2.isOffer = true := by decide
  have split : ∃ heard late, b.way.forwarded offers = heard ++ late
      ∧ (∀ o ∈ late, (b.relay offers).2.now ≤ o.1)
      ∧ (b.relay offers).2.replied = b.replied ++ heard.filterMap (b.way.reply? ·.2) := by
    clear_value b offers
    obtain ⟨_, heard, late, frames, all, _, tooLate, _, relayed⟩ :=
      sends_on_until_idle opened sorted offered
    rw [relayed]
    exact ⟨heard, late, all, tooLate, rfl⟩
  exact ⟨opened, sorted, offered, split, by decide, by decide⟩

end Intercept.Session.Association
