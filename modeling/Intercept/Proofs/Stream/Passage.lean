import Intercept.Stream.Transfer

/-!
# Passages

A transfer comes through if every call that it makes comes through: the call meets something that it
can use, or a wait that ends before it is given up. It cannot pass a call that fails, a peer that
takes nothing, a wait without end, or the limit.

## Main statements

* `passes_gather`, `passes_deliver`: a transfer that did not stop short came through.
-/

namespace Intercept.Stream

section

variable {α : Type} (limit : Limit) (usable : α → Prop) (leaves : α → α → Prop)

/-- Calls that come through, made from `now` on, take one side of a stream from a list of events to
another, and that is reached at a later time. What is met must be `usable`; the last item may be
used in part, if `leaves` says so. A wait that is over at once has no limit. -/
inductive Passes : Nat → List (Event α) → Nat → List (Event α) → Prop where
  | here {now es} : Passes now es now es
  | part {now a a' es} : usable a → leaves a a' → Passes now (.item a :: es) now (.item a' :: es)
  | item {now later a es rest} : usable a → Passes now es later rest →
      Passes now (.item a :: es) later rest
  | delay {now later ms es rest} : (ms = 0 ∨ ∀ d ∈ limit, now + ms ≤ d) →
      Passes (now + ms) es later rest → Passes now (.delay ms :: es) later rest
  | wakeAt {now later time es rest} : (time ≤ now ∨ ∀ d ∈ limit, time ≤ d) →
      Passes (max now time) es later rest → Passes now (.wakeAt time :: es) later rest
  | yield {now later es rest} : (∀ d ∈ limit, now < d) → Passes now es later rest →
      Passes now (.yield :: es) later rest

end

/-- Data of any length can be used, and in part. -/
abbrev ReadsOn (limit : Limit) : Nat → List (Event Bytes) → Nat → List (Event Bytes) → Prop :=
  Passes limit (fun _ => True) fun data left => left <:+ data

/-- A call that hands something over must be rid of at least one octet. -/
abbrev WritesOn (limit : Limit) : Nat → List (Event Nat) → Nat → List (Event Nat) → Prop :=
  Passes limit (0 < ·) fun _ _ => False

namespace Limit

variable {limit : Limit} {now time ms : Nat}

/-! What a wait that was not given up says of the limit. -/

theorem wakes_inTime (goesOn : ¬ (limit.isBefore time && now < time) = true) :
    time ≤ now ∨ ∀ d ∈ limit, time ≤ d := by
  by_cases past : time ≤ now
  · exact .inl past
  · refine .inr ?_
    rintro d rfl
    simp only [isBefore, Bool.and_eq_true, decide_eq_true_eq] at goesOn
    omega

theorem lasts_inTime (goesOn : ¬ (limit.isBefore (now + ms) && 0 < ms) = true) :
    ms = 0 ∨ ∀ d ∈ limit, now + ms ≤ d := by
  have wakes : ¬ (limit.isBefore (now + ms) && now < now + ms) = true := by
    simpa using goesOn
  refine (wakes_inTime wakes).imp_left ?_
  omega

theorem ahead (goesOn : ¬ limit.isReached now = true) : ∀ d ∈ limit, now < d := by
  rintro d rfl
  simp only [isReached, decide_eq_true_eq] at goesOn
  omega

end Limit

variable {limit : Limit}

/-- **Gathering comes through** unless it stops short. -/
theorem passes_gather (need now : Nat) (es : List (Event Bytes))
    (whole : (gather limit need now es).halt = none) :
    ReadsOn limit now es (gather limit need now es).now (gather limit need now es).rest := by
  fun_induction gather limit need now es with
  | case1 now es => exact .here
  | case3 need now d es longer => exact .part trivial (List.drop_suffix _ d)
  | case4 need now d es notLonger more ih => exact .item trivial (ih whole)
  | case7 need now ms es goesOn ih => exact .delay (Limit.lasts_inTime goesOn) (ih whole)
  | case9 need now time es goesOn ih => exact .wakeAt (Limit.wakes_inTime goesOn) (ih whole)
  | case11 need now es goesOn ih => exact .yield (Limit.ahead goesOn) (ih whole)
  | case2 | case5 | case6 | case8 | case10 | case12 =>
    -- the data end, a call fails, or a wait is given up
    cases whole

/-- **Delivering comes through** unless it stops short. -/
theorem passes_deliver (now : Nat) (message : Bytes) (es : List (Event Nat))
    (whole : (deliver limit now message es).halt = none) :
    WritesOn limit now es (deliver limit now message es).now
      (deliver limit now message es).rest := by
  fun_induction deliver limit now message es with
  | case1 now es | case2 now b bs => exact .here
  | case4 now b bs n es more ih => exact .item (Nat.succ_pos n) (ih whole)
  | case7 now b bs ms es goesOn ih => exact .delay (Limit.lasts_inTime goesOn) (ih whole)
  | case9 now b bs time es goesOn ih => exact .wakeAt (Limit.wakes_inTime goesOn) (ih whole)
  | case11 now b bs es goesOn ih => exact .yield (Limit.ahead goesOn) (ih whole)
  | case3 | case5 | case6 | case8 | case10 | case12 =>
    -- the other side takes nothing, a call fails, or a wait is given up
    cases whole

end Intercept.Stream
