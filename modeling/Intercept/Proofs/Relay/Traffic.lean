import Intercept.Relay.Datagrams
import Mathlib.Data.List.Chain

/-!
# The traffic of a relay of datagrams

A relay takes what comes until it ends. Of what it has taken, the client's datagrams and the readable
answers have been sent on, each once and in their order, and counted without envelopes. If nothing
fails and neither side closes, the relay goes on as long as something that can be sent on comes
before the deadline that the last such thing has set, and nothing else matters for that.

## Main statements

* `comes_of_step`: all that can come of an arrival.
* `carries_run`: what a relay has sent on.
* `idles_run`: when a relay ends that is left alone.
-/

namespace Intercept.Relay

namespace Arrival

/-- The client's datagram in an arrival. -/
def payload? : Arrival → Option Bytes
  | .payload octets _ => some octets
  | _ => none

/-- Whether an arrival neither brings a fault nor closes a side. -/
def isOffer : Arrival → Bool
  | .payload _ fault? | .datagram _ fault? => fault?.isNone
  | .control _ => true
  | .closed | .receiveFault _ | .controlEnded => false

end Arrival

namespace Datagrams

/-- How many octets there are in some datagrams. -/
def total (datagrams : List Bytes) : Nat := datagrams.flatten.length

namespace Way

/-- What is sent to the other side for an arrival. -/
def frame? (w : Way) : Arrival → Option Bytes
  | .payload octets _ => (w.outgoing octets).toOption
  | _ => none

/-- What is sent to the client for an arrival. -/
def reply? (w : Way) : Arrival → Option Bytes
  | .datagram octets _ => w.incoming? octets
  | _ => none

/-- What would be sent to the client for an arrival if no datagram were ever cut. -/
def wholeReply? (w : Way) : Arrival → Option Bytes
  | .datagram octets _ => w.payload? octets
  | _ => none

/-- Whether an arrival is sent on. -/
def forwards (w : Way) : Arrival → Bool
  | .payload _ _ => true
  | .datagram octets _ => (w.incoming? octets).isSome
  | _ => false

/-- What is sent on of what comes. -/
def forwarded (w : Way) (arrivals : List (Nat × Arrival)) : List (Nat × Arrival) :=
  arrivals.filter (w.forwards ·.2)

theorem forwarded_cons_of_forwards {w : Way} {arrival : Arrival} (sent : w.forwards arrival = true)
    (time : Nat) (rest : List (Nat × Arrival)) :
    w.forwarded ((time, arrival) :: rest) = (time, arrival) :: w.forwarded rest :=
  List.filter_cons_of_pos sent

theorem forwarded_cons_of_not_forwards {w : Way} {arrival : Arrival}
    (dropped : w.forwards arrival = false) (time : Nat) (rest : List (Nat × Arrival)) :
    w.forwarded ((time, arrival) :: rest) = w.forwarded rest :=
  List.filter_cons_of_neg (Bool.eq_false_iff.mp dropped)

end Way

/-- What a relay takes of what comes before it ends. -/
def taken (w : Way) (d : Datagrams) : List (Nat × Arrival) → List (Nat × Arrival)
  | [] => []
  | (time, arrival) :: rest =>
    if d.deadline ≤ time then []
    else match step w { d with now := max d.now time } arrival with
      | .going e => (time, arrival) :: taken w e rest
      | .finished _ | .failed _ _ => []

/-- Whether one relay became the other by sending on what it heard. -/
structure Carries (w : Way) (d e : Datagrams) (heard : List (Nat × Arrival)) : Prop where
  sent : e.sent = d.sent ++ heard.filterMap (w.frame? ·.2)
  replied : e.replied = d.replied ++ heard.filterMap (w.reply? ·.2)
  up : e.up = d.up + UInt64.ofNat (total (heard.filterMap (·.2.payload?)))
  down : e.down = d.down + UInt64.ofNat (total (heard.filterMap (w.reply? ·.2)))

variable {w : Way} {d e f : Datagrams} {arrival : Arrival} {arrivals : List (Nat × Arrival)}

/-! ### Single arrivals -/

theorem Way.reply?_of_fits (fits : ∀ octets fault?, arrival = .datagram octets fault? →
    octets.length ≤ w.bufferSize) : w.reply? arrival = w.wholeReply? arrival := by
  cases arrival with
  | datagram octets fault? =>
    show w.payload? (octets.take w.bufferSize) = w.payload? octets
    rw [List.take_of_length_le (fits octets fault? rfl)]
  | payload octets fault? | closed | receiveFault f | control octets | controlEnded => rfl

/-- All that can come of an arrival. -/
inductive Comes (w : Way) (d : Datagrams) : Arrival → Next → Prop where
  | sendsUp {octets frame : Bytes} : w.outgoing octets = .ok frame →
      Comes w d (.payload octets none) (.going (sendUp w d octets frame))
  | sendsDown {octets payload : Bytes} : w.incoming? octets = some payload →
      Comes w d (.datagram octets none) (.going (sendDown w d payload))
  | drops {arrival : Arrival} : w.forwards arrival = false → Comes w d arrival (.going d)
  | finishes {arrival : Arrival} : arrival.isOffer = false → Comes w d arrival (.finished d)
  | fails {arrival : Arrival} (f : Failure) :
      (arrival.isOffer = true → ∃ octets g, arrival = .payload octets none ∧
        w.outgoing octets = .error g) → Comes w d arrival (.failed d f)

theorem comes_of_step (w : Way) (d : Datagrams) (arrival : Arrival) :
    Comes w d arrival (step w d arrival) := by
  cases arrival with
  | payload octets fault? =>
    cases wrapped : w.outgoing octets with
    | error g =>
      have failed : step w d (.payload octets fault?) = .failed d (.framing g) := by
        simp only [step, wrapped]
      rw [failed]
      refine .fails _ fun offered => ?_
      cases fault? with
      | none => exact ⟨octets, g, rfl, wrapped⟩
      | some f => cases offered
    | ok frame =>
      cases fault? with
      | none =>
        rw [step_payload wrapped]
        exact .sendsUp wrapped
      | some f =>
        have failed : step w d (.payload octets (some f)) = .failed d (.io f) := by
          simp only [step, wrapped]
        rw [failed]
        exact .fails _ fun never => by cases never
  | datagram octets fault? =>
    cases readable : w.incoming? octets with
    | none =>
      rw [step_datagram_dropped readable]
      exact .drops (by rw [Way.forwards, readable]; rfl)
    | some payload =>
      cases fault? with
      | none =>
        rw [step_datagram readable]
        exact .sendsDown readable
      | some f =>
        have failed : step w d (.datagram octets (some f)) = .failed d (.io f) := by
          simp only [step, readable]
        rw [failed]
        exact .fails _ fun never => by cases never
  | control octets => exact .drops rfl
  | controlEnded =>
    unfold step
    dsimp only
    split
    · exact .finishes rfl
    · exact .drops rfl
  | closed => exact .finishes rfl
  | receiveFault f => exact .fails _ fun never => by cases never

/-- What is offered does not end the relay. -/
theorem exists_going (wraps : ∀ payload, ∃ frame, w.outgoing payload = .ok frame) (d : Datagrams)
    (offer : arrival.isOffer = true) :
    ∃ e, step w d arrival = .going e ∧ Comes w d arrival (.going e) := by
  have comes := comes_of_step w d arrival
  cases came : step w d arrival with
  | going e =>
    rw [came] at comes
    exact ⟨e, rfl, comes⟩
  | finished e =>
    rw [came] at comes
    cases comes with
    | finishes closes => cases closes.symm.trans offer
  | failed e f =>
    rw [came] at comes
    cases comes with
    | fails f fault =>
      obtain ⟨octets, g, rfl, failed⟩ := fault offer
      obtain ⟨frame, wrapped⟩ := wraps octets
      cases failed.symm.trans wrapped

/-- What is not sent on is sent nowhere. -/
theorem nothing_of_not_forwards (dropped : w.forwards arrival = false) :
    w.frame? arrival = none ∧ w.reply? arrival = none ∧ arrival.payload? = none := by
  cases arrival with
  | payload octets fault? => cases dropped
  | datagram octets fault? =>
    have unreadable : w.incoming? octets = none := by
      simpa only [Way.forwards, Option.isSome_eq_false_iff, Option.isNone_iff_eq_none] using dropped
    exact ⟨rfl, unreadable, rfl⟩
  | control octets | controlEnded | closed | receiveFault f => exact ⟨rfl, rfl, rfl⟩

/-! ### What is sent on -/

theorem total_append (front back : List Bytes) :
    total (front ++ back) = total front + total back := by
  simp only [total, List.flatten_append, List.length_append]

theorem total_singleton (datagram : Bytes) : total [datagram] = datagram.length := by
  simp only [total, List.flatten_singleton]

theorem carries_nothing (w : Way) (d : Datagrams) : Carries w d d [] where
  sent := (List.append_nil _).symm
  replied := (List.append_nil _).symm
  up := (UInt64.add_zero _).symm
  down := (UInt64.add_zero _).symm

theorem Carries.trans {front back : List (Nat × Arrival)} (first : Carries w d e front)
    (second : Carries w e f back) : Carries w d f (front ++ back) where
  sent := by rw [second.sent, first.sent, List.filterMap_append, List.append_assoc]
  replied := by rw [second.replied, first.replied, List.filterMap_append, List.append_assoc]
  up := by
    rw [second.up, first.up, List.filterMap_append, total_append, UInt64.ofNat_add, UInt64.add_assoc]
  down := by
    rw [second.down, first.down, List.filterMap_append, total_append, UInt64.ofNat_add,
      UInt64.add_assoc]

theorem filterMap_single (f : Arrival → Option Bytes) (time : Nat) (arrival : Arrival) :
    [(time, arrival)].filterMap (f ·.2) = (f arrival).toList := by
  cases made : f arrival with
  | none => exact List.filterMap_cons_none made
  | some octets => exact List.filterMap_cons_some made

/-- **A step that goes on** has sent on what can be sent on. -/
theorem carries_of_comes (time : Nat) (comes : Comes w d arrival (.going e)) :
    Carries w d e [(time, arrival)] := by
  have frames := filterMap_single w.frame? time arrival
  have replies := filterMap_single w.reply? time arrival
  have payloads := filterMap_single Arrival.payload? time arrival
  cases comes with
  | @sendsUp octets frame wrapped =>
    have isFrame : w.frame? (.payload octets none) = some frame := by
      rw [Way.frame?, wrapped]
      rfl
    rw [isFrame] at frames
    constructor
    case sent => rw [frames]; rfl
    case replied => exact (List.append_nil _).symm
    case up => rw [payloads]; exact congrArg (d.up + UInt64.ofNat ·) (total_singleton octets).symm
    case down => exact (UInt64.add_zero _).symm
  | @sendsDown octets payload readable =>
    have isReply : w.reply? (.datagram octets none) = some payload := readable
    rw [isReply] at replies
    constructor
    case sent => exact (List.append_nil _).symm
    case replied => rw [replies]; rfl
    case up => exact (UInt64.add_zero _).symm
    case down =>
      rw [replies]
      exact congrArg (d.down + UInt64.ofNat ·) (total_singleton payload).symm
  | drops dropped =>
    obtain ⟨noFrame, noReply, noPayload⟩ := nothing_of_not_forwards dropped
    rw [noFrame] at frames
    rw [noReply] at replies
    rw [noPayload] at payloads
    have nothing := carries_nothing w d
    constructor
    case sent => rw [frames]; exact nothing.sent
    case replied => rw [replies]; exact nothing.replied
    case up => rw [payloads]; exact nothing.up
    case down => rw [replies]; exact nothing.down

/-- Only what is sent on puts the deadline off. -/
theorem deadline_of_comes (comes : Comes w d arrival (.going e)) :
    e.now = d.now ∧ e.deadline = if w.forwards arrival then Clock.deadlineAfter d.now w.idleMillis
      else d.deadline := by
  cases comes with
  | sendsUp wrapped => exact ⟨rfl, deadline_sendUp w d _ _⟩
  | sendsDown readable =>
    rw [Way.forwards, readable]
    exact ⟨rfl, deadline_sendDown w d _⟩
  | drops dropped =>
    rw [dropped]
    exact ⟨rfl, rfl⟩

/-- **What a relay has sent on** is what it has taken. -/
theorem carries_run (w : Way) (d : Datagrams) (arrivals : List (Nat × Arrival)) :
    Carries w d (run w d arrivals).relay (taken w d arrivals) := by
  induction arrivals generalizing d with
  | nil =>
    have nothing := carries_nothing w d
    exact ⟨nothing.sent, nothing.replied, nothing.up, nothing.down⟩
  | cons first rest ih =>
    obtain ⟨time, arrival⟩ := first
    have nothing := carries_nothing w d
    have still : ∀ now, Carries w d { d with now := now } [] := fun now =>
      ⟨nothing.sent, nothing.replied, nothing.up, nothing.down⟩
    rw [run, taken]
    by_cases late : d.deadline ≤ time
    · rw [if_pos late, if_pos late]
      exact still _
    · rw [if_neg late, if_neg late]
      have comes := comes_of_step w { d with now := max d.now time } arrival
      cases came : step w { d with now := max d.now time } arrival with
      | going e =>
        rw [came] at comes
        exact (still _).trans ((carries_of_comes time comes).trans (ih e))
      | finished e | failed e f =>
        rw [came] at comes
        cases comes
        exact still _

/-- A relay that ends well tells what it has counted. -/
theorem result_run {counts : UInt64 × UInt64} (well : (run w d arrivals).result = .ok counts) :
    counts = ((run w d arrivals).relay.up, (run w d arrivals).relay.down) := by
  induction arrivals generalizing d with
  | nil =>
    cases well
    rfl
  | cons first rest ih =>
    obtain ⟨time, arrival⟩ := first
    rw [run] at well ⊢
    split at well
    · rename_i late
      cases well
      rw [if_pos late]
      rfl
    · rename_i inTime
      rw [if_neg inTime]
      split at well
      · exact ih well
      · cases well
        rfl
      · cases well

/-- A relay takes things in the order in which they come, and leaves none out before it ends. -/
theorem taken_isPrefix (w : Way) (d : Datagrams) (arrivals : List (Nat × Arrival)) :
    taken w d arrivals <+: arrivals := by
  induction arrivals generalizing d with
  | nil => exact List.prefix_refl []
  | cons first rest ih =>
    rw [taken]
    split
    · exact List.nil_prefix
    · split
      · exact List.cons_prefix_cons.mpr ⟨rfl, ih _⟩
      · exact List.nil_prefix
      · exact List.nil_prefix

theorem filterMap_forwarded {β : Type} (f : Arrival → Option β) (arrivals : List (Nat × Arrival))
    (nothing : ∀ arrival, w.forwards arrival = false → f arrival = none) :
    (w.forwarded arrivals).filterMap (f ·.2) = arrivals.filterMap (f ·.2) := by
  rw [Way.forwarded, List.filterMap_filter]
  refine List.filterMap_congr fun o _ => ?_
  cases sent : w.forwards o.2 with
  | true => rfl
  | false => exact (nothing o.2 sent).symm

/-- What is not sent on leaves nothing behind. -/
theorem Carries.forwarded (carries : Carries w d e arrivals) :
    Carries w d e (w.forwarded arrivals) := by
  have frames := filterMap_forwarded (w := w) w.frame? arrivals
    fun _ dropped => (nothing_of_not_forwards dropped).1
  have replies := filterMap_forwarded (w := w) w.reply? arrivals
    fun _ dropped => (nothing_of_not_forwards dropped).2.1
  have payloads := filterMap_forwarded (w := w) Arrival.payload? arrivals
    fun _ dropped => (nothing_of_not_forwards dropped).2.2
  constructor
  case sent => rw [frames]; exact carries.sent
  case replied => rw [replies]; exact carries.replied
  case up => rw [payloads]; exact carries.up
  case down => rw [replies]; exact carries.down

/-- What is sent to the other side is what the client has sent, as it travels. -/
theorem map_outgoing (wraps : ∀ payload, ∃ frame, w.outgoing payload = .ok frame) :
    (arrivals.filterMap (·.2.payload?)).map w.outgoing
      = (arrivals.filterMap (w.frame? ·.2)).map .ok := by
  induction arrivals with
  | nil => rfl
  | cons first rest ih =>
    obtain ⟨time, arrival⟩ := first
    cases arrival with
    | payload octets fault? =>
      obtain ⟨frame, wrapped⟩ := wraps octets
      have isFrame : w.frame? (.payload octets fault?) = some frame := by
        rw [Way.frame?, wrapped]
        rfl
      simp only [List.filterMap_cons, Arrival.payload?, isFrame, List.map_cons, wrapped]
      exact congrArg (.ok frame :: ·) ih
    | datagram octets fault? | closed | receiveFault f | control octets | controlEnded => exact ih

/-! ### When nothing more is sent on -/

/-- When a relay ends to which nothing more comes, after what it has sent on since it begun. -/
def lastDeadline (w : Way) (begun : Nat) (heard : List (Nat × Arrival)) : Nat :=
  Clock.deadlineAfter ((heard.map Prod.fst).getLastD begun) w.idleMillis

/-- How a relay ends that is left alone: `heard` is all that comes in time of what can be sent on,
each before the deadline that the one before it has set, and the relay ends well at the last
deadline. -/
structure Idles (w : Way) (begun : Nat) (offers heard : List (Nat × Arrival)) (r : Run) : Prop where
  split : ∃ late, w.forwarded offers = heard ++ late
    ∧ ∀ o ∈ late, lastDeadline w begun heard ≤ o.1
  inTime : (begun :: heard.map Prod.fst).IsChain
    fun last time => time < Clock.deadlineAfter last w.idleMillis
  well : ∃ counts, r.result = .ok counts
  ends : r.relay.now = lastDeadline w begun heard

variable {begun time : Nat} {offers heard : List (Nat × Arrival)} {r : Run}

theorem idles_late (now : d.now ≤ d.deadline)
    (deadline : d.deadline = Clock.deadlineAfter begun w.idleMillis)
    (late : ∀ o ∈ offers, d.deadline ≤ o.1) : Idles w begun offers [] d.idle where
  split := ⟨_, rfl, fun o member => deadline.symm.trans_le (late o (List.mem_of_mem_filter member))⟩
  inTime := .singleton begun
  well := ⟨_, rfl⟩
  ends := (Nat.max_eq_right now).trans deadline

/-- What is not sent on makes no difference. -/
theorem Idles.drop (later : Idles w begun offers heard r) (dropped : w.forwards arrival = false) :
    Idles w begun ((time, arrival) :: offers) heard r where
  split := by
    rw [Way.forwarded_cons_of_not_forwards dropped]
    exact later.split
  inTime := later.inTime
  well := later.well
  ends := later.ends

/-- What is sent on sets a new deadline. -/
theorem Idles.send (later : Idles w time offers heard r) (sent : w.forwards arrival = true)
    (early : time < Clock.deadlineAfter begun w.idleMillis) :
    Idles w begun ((time, arrival) :: offers) ((time, arrival) :: heard) r where
  split := by
    obtain ⟨late, all, tooLate⟩ := later.split
    refine ⟨late, ?_, ?_⟩
    · rw [Way.forwarded_cons_of_forwards sent, all]
      rfl
    · rw [lastDeadline, List.map_cons, List.getLastD_cons]
      exact tooLate
  inTime := .cons_cons early later.inTime
  well := later.well
  ends := by
    rw [lastDeadline, List.map_cons, List.getLastD_cons]
    exact later.ends

/-- **A relay that is left alone** sends on what comes in time, and ends well when nothing more
does. -/
theorem idles_run (wraps : ∀ payload, ∃ frame, w.outgoing payload = .ok frame)
    (deadline : d.deadline = Clock.deadlineAfter begun w.idleMillis) (now : d.now ≤ d.deadline)
    (sorted : (d.now :: offers.map Prod.fst).Pairwise (· ≤ ·))
    (offered : ∀ o ∈ offers, o.2.isOffer = true) :
    Idles w begun offers (w.forwarded (taken w d offers)) (run w d offers) := by
  induction offers generalizing d begun with
  | nil => exact idles_late now deadline (fun _ none => by cases none)
  | cons first rest ih =>
    obtain ⟨time, arrival⟩ := first
    obtain ⟨after, sorted⟩ := List.pairwise_cons.mp sorted
    have notBefore := (List.pairwise_cons.mp sorted).1
    obtain ⟨offer, offered⟩ := List.forall_mem_cons.mp offered
    have isNow : max d.now time = time := Nat.max_eq_right (after time List.mem_cons_self)
    rw [run, taken]
    by_cases late : d.deadline ≤ time
    · rw [if_pos late, if_pos late]
      refine idles_late now deadline fun o member => ?_
      rcases List.mem_cons.mp member with rfl | more
      · exact late
      · exact Nat.le_trans late (notBefore o.1 (List.mem_map_of_mem more))
    · rw [if_neg late, if_neg late, isNow]
      have early : time < Clock.deadlineAfter begun w.idleMillis := by omega
      obtain ⟨e, came, comes⟩ := exists_going wraps { d with now := time } offer
      obtain ⟨isTime, next⟩ := deadline_of_comes comes
      have isTime : e.now = time := isTime
      have sorted : (e.now :: rest.map Prod.fst).Pairwise (· ≤ ·) := isTime ▸ sorted
      rw [came]
      dsimp only
      cases sent : w.forwards arrival with
      | true =>
        rw [sent, if_pos rfl] at next
        have now : e.now ≤ e.deadline := by
          rw [next, isTime]
          exact Clock.le_deadlineAfter time w.idleMillis
        rw [Way.forwarded_cons_of_forwards sent]
        exact (ih next now sorted offered).send sent early
      | false =>
        rw [sent, if_neg Bool.false_ne_true] at next
        have now : e.now ≤ e.deadline := by
          rw [next, isTime]
          exact Nat.le_of_not_le late
        rw [Way.forwarded_cons_of_not_forwards sent]
        exact (ih (next.trans deadline) now sorted offered).drop sent

end Datagrams

end Intercept.Relay
