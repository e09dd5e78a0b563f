import Intercept.Stream

/-!
# Whole transfers

A conversation moves whole messages: it waits until exactly so many octets have come, or until a
whole message has been taken. A wait may have a limit, a point of time after which it is given up;
what is ready at once is never given up, not even after the limit. The first fault ends a transfer,
whatever its kind. Main statements: `got_gather`, what was gathered and what remains make up what
was to come, and `chunks_deliver`, what was taken is the front of the message.
-/

namespace Intercept.Stream

/-- The point of time after which a wait is given up, if there is one. -/
abbrev Limit := Option Nat

namespace Limit

/-- Whether a wait until the given time is given up. -/
def isBefore (limit : Limit) (time : Nat) : Bool :=
  match limit with
  | some d => d < time
  | none => false

/-- Whether the limit has been reached. -/
def isReached (limit : Limit) (now : Nat) : Bool :=
  match limit with
  | some d => d ≤ now
  | none => false

/-- The time at which a wait that started at `now` is given up. -/
def expiry (limit : Limit) (now : Nat) : Nat :=
  match limit with
  | some d => max now d
  | none => now

end Limit

/-- Why a transfer stopped short. -/
inductive Halt where
  | fault (f : IoFault)
  /-- The data ended. -/
  | ended
  /-- The other side took nothing. -/
  | refused
  /-- The limit came first, or nothing will ever happen. -/
  | expired
deriving DecidableEq

/-! ### Gathering -/

structure Gathered where
  got : Bytes
  rest : List (Event Bytes)
  now : Nat
  halt : Option Halt
deriving DecidableEq

/-- Waits until `need` octets have come. -/
def gather (limit : Limit) : (need now : Nat) → List (Event Bytes) → Gathered
  | 0, now, es => ⟨[], es, now, none⟩
  | _ + 1, now, [] => ⟨[], [], now, some .ended⟩
  | need + 1, now, .item d :: es =>
    if need + 1 < d.length then
      ⟨d.take (need + 1), .item (d.drop (need + 1)) :: es, now, none⟩
    else
      let more := gather limit (need + 1 - d.length) now es
      { more with got := d ++ more.got }
  | _ + 1, now, .fault f :: es => ⟨[], es, now, some (.fault f)⟩
  | need + 1, now, .delay ms :: es =>
    if limit.isBefore (now + ms) && 0 < ms then
      ⟨[], .wakeAt (now + ms) :: es, limit.expiry now, some .expired⟩
    else gather limit (need + 1) (now + ms) es
  | need + 1, now, .wakeAt time :: es =>
    if limit.isBefore time && now < time then
      ⟨[], .wakeAt time :: es, limit.expiry now, some .expired⟩
    else gather limit (need + 1) (max now time) es
  | need + 1, now, .yield :: es =>
    if limit.isReached now then ⟨[], es, limit.expiry now, some .expired⟩
    else gather limit (need + 1) now es
  | _ + 1, now, .hang :: es => ⟨[], .hang :: es, limit.expiry now, some .expired⟩

/-- **Nothing is lost.** What was gathered and what remains make up what was to come. -/
theorem got_gather (limit : Limit) (need now : Nat) (es : List (Event Bytes)) :
    (gather limit need now es).got ++ dataOf (gather limit need now es).rest = dataOf es := by
  induction es generalizing need now with
  | nil => cases need <;> rfl
  | cons e es ih =>
    cases need with
    | zero => rfl
    | succ need =>
      cases e with
      | item d =>
        simp only [gather]
        split
        · simp [dataOf, ← List.append_assoc]
        · simp [dataOf, ih]
      | fault f => simp [gather, dataOf]
      | delay ms => simp only [gather]; split <;> simp [dataOf, ih]
      | wakeAt time => simp only [gather]; split <;> simp [dataOf, ih]
      | yield => simp only [gather]; split <;> simp [dataOf, ih]
      | hang => simp [gather, dataOf]

/-- A transfer that did not stop short gathered exactly what was needed. -/
theorem length_got_gather {limit : Limit} {need now : Nat} {es : List (Event Bytes)}
    (h : (gather limit need now es).halt = none) :
    (gather limit need now es).got.length = need := by
  induction es generalizing need now with
  | nil =>
    cases need with
    | zero => rfl
    | succ need => simp [gather] at h
  | cons e es ih =>
    cases need with
    | zero => rfl
    | succ need =>
      cases e with
      | item d =>
        simp only [gather] at h ⊢
        split
        · simp; omega
        · rename_i enough
          rw [if_neg enough] at h
          have := ih h
          simp only [List.length_append]
          omega
      | fault f => simp [gather] at h
      | delay ms =>
        simp only [gather] at h ⊢
        split <;> rename_i c
        · rw [if_pos c] at h; cases h
        · rw [if_neg c] at h; exact ih h
      | wakeAt time =>
        simp only [gather] at h ⊢
        split <;> rename_i c
        · rw [if_pos c] at h; cases h
        · rw [if_neg c] at h; exact ih h
      | yield =>
        simp only [gather] at h ⊢
        split <;> rename_i c
        · rw [if_pos c] at h; cases h
        · rw [if_neg c] at h; exact ih h
      | hang => simp [gather] at h

/-! ### Delivering -/

structure Delivered where
  chunks : List Bytes
  rest : List (Event Nat)
  now : Nat
  halt : Option Halt
deriving DecidableEq

/-- Hands over a message piece by piece until all of it has been taken. -/
def deliver (limit : Limit) : (now : Nat) → Bytes → List (Event Nat) → Delivered
  | now, [], es => ⟨[], es, now, none⟩
  | now, b :: bs, [] => ⟨[b :: bs], [], now, none⟩
  | now, _ :: _, .item 0 :: es => ⟨[], es, now, some .refused⟩
  | now, b :: bs, .item (n + 1) :: es =>
    let more := deliver limit now (bs.drop n) es
    { more with chunks := (b :: bs.take n) :: more.chunks }
  | now, _ :: _, .fault f :: es => ⟨[], es, now, some (.fault f)⟩
  | now, b :: bs, .delay ms :: es =>
    if limit.isBefore (now + ms) && 0 < ms then
      ⟨[], .wakeAt (now + ms) :: es, limit.expiry now, some .expired⟩
    else deliver limit (now + ms) (b :: bs) es
  | now, b :: bs, .wakeAt time :: es =>
    if limit.isBefore time && now < time then
      ⟨[], .wakeAt time :: es, limit.expiry now, some .expired⟩
    else deliver limit (max now time) (b :: bs) es
  | now, b :: bs, .yield :: es =>
    if limit.isReached now then ⟨[], es, limit.expiry now, some .expired⟩
    else deliver limit now (b :: bs) es
  | now, _ :: _, .hang :: es => ⟨[], .hang :: es, limit.expiry now, some .expired⟩

/-- **Only the message.** What was taken is the front of the message. -/
theorem chunks_deliver (limit : Limit) (now : Nat) (message : Bytes) (es : List (Event Nat)) :
    ∃ rest, message = (deliver limit now message es).chunks.flatten ++ rest := by
  induction es generalizing now message with
  | nil => cases message with
    | nil => exact ⟨[], rfl⟩
    | cons b bs => exact ⟨[], by simp [deliver]⟩
  | cons e es ih =>
    cases message with
    | nil => exact ⟨[], rfl⟩
    | cons b bs =>
      cases e with
      | item n =>
        cases n with
        | zero => exact ⟨b :: bs, by simp [deliver]⟩
        | succ n =>
          obtain ⟨rest, h⟩ := ih now (bs.drop n)
          refine ⟨rest, ?_⟩
          simp only [deliver, List.flatten_cons, List.cons_append, List.append_assoc, ← h,
            List.take_append_drop]
      | fault f => exact ⟨b :: bs, by simp [deliver]⟩
      | delay ms =>
        simp only [deliver]
        split
        · exact ⟨b :: bs, by simp⟩
        · exact ih (now + ms) (b :: bs)
      | wakeAt time =>
        simp only [deliver]
        split
        · exact ⟨b :: bs, by simp⟩
        · exact ih (max now time) (b :: bs)
      | yield =>
        simp only [deliver]
        split
        · exact ⟨b :: bs, by simp⟩
        · exact ih now (b :: bs)
      | hang => exact ⟨b :: bs, by simp [deliver]⟩

/-- A message that was not stopped short was taken whole. -/
theorem flatten_chunks_deliver {limit : Limit} {now : Nat} {message : Bytes}
    {es : List (Event Nat)} (h : (deliver limit now message es).halt = none) :
    (deliver limit now message es).chunks.flatten = message := by
  induction es generalizing now message with
  | nil => cases message <;> simp [deliver]
  | cons e es ih =>
    cases message with
    | nil => rfl
    | cons b bs =>
      cases e with
      | item n =>
        cases n with
        | zero => simp [deliver] at h
        | succ n =>
          simp only [deliver] at h ⊢
          simp [ih h]
      | fault f => simp [deliver] at h
      | delay ms =>
        simp only [deliver] at h ⊢
        split <;> rename_i c
        · rw [if_pos c] at h; cases h
        · rw [if_neg c] at h; exact ih h
      | wakeAt time =>
        simp only [deliver] at h ⊢
        split <;> rename_i c
        · rw [if_pos c] at h; cases h
        · rw [if_neg c] at h; exact ih h
      | yield =>
        simp only [deliver] at h ⊢
        split <;> rename_i c
        · rw [if_pos c] at h; cases h
        · rw [if_neg c] at h; exact ih h
      | hang => simp [deliver] at h

end Intercept.Stream
