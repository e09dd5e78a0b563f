import Intercept.Stream.Transfer

/-!
# Calm streams

Nothing goes wrong on a calm stream: its data come in pieces of any size, its writing side takes at
least one octet at a time, there are waits of any length, but every wait ends and no call fails. A
transfer without a limit then depends on the octets alone: gathering succeeds exactly if enough of
them are to come, a message is always taken whole, and the stream that is left is calm again.

## Main statements

* `gather_stopped`: on any stream, a transfer that stopped short fell short of its octets.
* `halt_gather_calm`: on a calm stream it stops short only at the end of the data.
* `deliver_stopped`: on any stream, a message that was stopped short was not taken whole.
* `deliver_willing`: a willing sink takes every message whole.
-/

namespace Intercept

namespace Event

/-- Whether an event brings something or is a wait that ends. -/
def isCalm {α : Type} : Event α → Bool
  | .fault _ | .hang => false
  | _ => true

/-- Whether a writing event takes at least one octet or is a wait that ends. -/
def isWilling : Event Nat → Bool
  | .item n => 0 < n
  | e => e.isCalm

end Event

namespace Stream

/-- A stream on which nothing goes wrong as long as it is open. -/
structure Calm (s : Stream) : Prop where
  reads : ∀ e ∈ s.reads, e.isCalm = true
  writes : ∀ e ∈ s.writes, e.isWilling = true
  flush : s.flushFault = none

/-! ### Gathering -/

/-- A transfer that stopped short fell short of its octets, and where it met the end of the data
there are no more. -/
theorem gather_stopped {limit : Limit} {need now : Nat} {es : List (Event Bytes)} {halt : Halt}
    (h : (gather limit need now es).halt = some halt) :
    (gather limit need now es).got.length < need
      ∧ (halt = .ended → dataOf (gather limit need now es).rest = []) := by
  fun_induction gather limit need now es with
  | case1 now es => cases h
  | case2 need now => exact ⟨by simp, fun _ => rfl⟩
  | case3 need now d es longer => cases h
  | case4 need now d es notLonger more ih =>
    obtain ⟨short, ended⟩ := ih h
    refine ⟨?_, ended⟩
    simp only [List.length_append, more]
    omega
  | case7 need now ms es inTime ih => exact ih h
  | case9 need now time es inTime ih => exact ih h
  | case11 need now es inTime ih => exact ih h
  | case5 need now f es | case6 need now ms es | case8 need now time es | case10 need now es
  | case12 need now es =>
    -- a fault, a wait that is given up, or one without end: nothing has come
    cases h
    exact ⟨by simp, by simp⟩

theorem calm_gather (limit : Limit) (need now : Nat) {es : List (Event Bytes)}
    (calm : ∀ e ∈ es, e.isCalm = true) :
    ∀ e ∈ (gather limit need now es).rest, e.isCalm = true := by
  fun_induction gather limit need now es with
  | case1 now es => exact calm
  | case2 need now => exact calm
  | case3 need now d es longer =>
    exact List.forall_mem_cons.mpr ⟨rfl, (List.forall_mem_cons.mp calm).2⟩
  | case4 need now d es notLonger more ih => exact ih (List.forall_mem_cons.mp calm).2
  | case5 need now f es => exact (List.forall_mem_cons.mp calm).2
  | case6 need now ms es late =>
    exact List.forall_mem_cons.mpr ⟨rfl, (List.forall_mem_cons.mp calm).2⟩
  | case7 need now ms es inTime ih => exact ih (List.forall_mem_cons.mp calm).2
  | case8 need now time es late => exact calm
  | case9 need now time es inTime ih => exact ih (List.forall_mem_cons.mp calm).2
  | case10 need now es late => exact (List.forall_mem_cons.mp calm).2
  | case11 need now es inTime ih => exact ih (List.forall_mem_cons.mp calm).2
  | case12 need now es => exact calm

/-- Without a limit, gathering from a calm stream stops short only at the end of the data. -/
theorem halt_gather_eq_ended {need now : Nat} {es : List (Event Bytes)} {halt : Halt}
    (calm : ∀ e ∈ es, e.isCalm = true) (h : (gather none need now es).halt = some halt) :
    halt = .ended := by
  induction es generalizing need now with
  | nil => cases need <;> cases h; rfl
  | cons e es ih =>
    obtain ⟨first, later⟩ := List.forall_mem_cons.mp calm
    cases need with
    | zero => cases h
    | succ need =>
      cases e with
      | item d =>
        by_cases longer : need + 1 < d.length
        · simp [gather, longer] at h
        · simp only [gather, if_neg longer] at h
          exact ih later h
      | delay ms => exact ih later h
      | wakeAt time => exact ih later h
      | yield => exact ih later h
      | fault f => cases first
      | hang => cases first

/-- **Gathering from a calm stream.** It succeeds exactly if enough octets are to come. -/
theorem halt_gather_calm (need now : Nat) {es : List (Event Bytes)}
    (calm : ∀ e ∈ es, e.isCalm = true) :
    (gather none need now es).halt = if need ≤ (dataOf es).length then none else some .ended := by
  have conserved := congrArg List.length (got_gather none need now es)
  rw [List.length_append] at conserved
  cases h : (gather none need now es).halt with
  | none =>
    have whole := length_got_gather h
    rw [if_pos (by omega)]
  | some halt =>
    obtain rfl := halt_gather_eq_ended calm h
    obtain ⟨short, nothing⟩ := gather_stopped h
    rw [nothing rfl, List.length_nil] at conserved
    rw [if_neg (by omega)]

theorem gather_whole {limit : Limit} {need now : Nat} {es : List (Event Bytes)}
    (h : (gather limit need now es).halt = none) :
    (gather limit need now es).got = (dataOf es).take need
      ∧ dataOf (gather limit need now es).rest = (dataOf es).drop need := by
  have whole := length_got_gather h
  have conserved := got_gather limit need now es
  constructor
  · rw [← conserved, List.take_left' whole]
  · rw [← conserved, List.drop_left' whole]

/-! ### Delivering -/

theorem deliver_stopped {limit : Limit} {now : Nat} {message : Bytes} {es : List (Event Nat)}
    {halt : Halt} (h : (deliver limit now message es).halt = some halt) :
    (deliver limit now message es).chunks.flatten.length < message.length := by
  fun_induction deliver limit now message es with
  | case1 now es | case2 now b bs => cases h
  | case4 now b bs n es more ih =>
    have shorter : more.chunks.flatten.length < (bs.drop n).length := ih h
    simp only [List.flatten_cons, List.length_append, List.length_cons, List.length_take]
    rw [List.length_drop] at shorter
    omega
  | case7 now b bs ms es inTime ih => exact ih h
  | case9 now b bs time es inTime ih => exact ih h
  | case11 now b bs es inTime ih => exact ih h
  | case3 | case5 | case6 | case8 | case10 | case12 =>
    -- refused, failed or given up: nothing of what was left has been taken
    simp

/-- **Delivering to a willing sink.** A message without a limit is taken whole, and the sink stays
willing. -/
theorem deliver_willing (now : Nat) (message : Bytes) {es : List (Event Nat)}
    (willing : ∀ e ∈ es, e.isWilling = true) :
    (deliver none now message es).halt = none
      ∧ ∀ e ∈ (deliver none now message es).rest, e.isWilling = true := by
  induction es generalizing now message with
  | nil => cases message <;> exact ⟨rfl, willing⟩
  | cons e es ih =>
    obtain ⟨first, later⟩ := List.forall_mem_cons.mp willing
    cases message with
    | nil => exact ⟨rfl, willing⟩
    | cons b bs =>
      cases e with
      | item n =>
        cases n with
        | zero => cases first
        | succ n => exact ih now _ later
      | delay ms => exact ih _ _ later
      | wakeAt time => exact ih _ _ later
      | yield => exact ih now _ later
      | fault f => cases first
      | hang => cases first

end Stream

end Intercept
