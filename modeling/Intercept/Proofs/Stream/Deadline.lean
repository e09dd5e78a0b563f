import Intercept.Stream.Transfer
import Mathlib.Data.List.Infix

/-!
# Transfers with a deadline

The same transfer with a deadline and without one. Unless the deadline ends a wait they are one and
the same, and done by then. If it does, what had been moved by then is a front of what is moved
without a deadline, and without one the transfer is not done any sooner.

## Main statements

* `now_le_gather`, `now_le_deliver`: no transfer turns the clock back.
* `gather_within`, `deliver_within`: a transfer with a deadline next to the same one without.
* `Precedes`: what it means that more has happened on a stream.
-/

namespace Intercept.Stream

/-- How a transfer with the deadline `d` may stand to the same transfer without one, given what each
moved, when it stopped, and why. -/
inductive Within {τ β : Type} (moved : τ → List β) (time : τ → Nat) (halt : τ → Option Halt)
    (d : Nat) (free : τ) : τ → Prop where
  | inTime : halt free ≠ some .expired → time free ≤ d → Within moved time halt d free free
  | cut {timed : τ} : halt timed = some .expired → time timed = d → moved timed <+: moved free →
      halt free = some .expired ∨ d ≤ time free → Within moved time halt d free timed

theorem Limit.le_expiry (limit : Limit) (now : Nat) : now ≤ limit.expiry now := by
  cases limit with
  | none => exact Nat.le_refl now
  | some d => exact Nat.le_max_left now d

namespace Within

variable {τ β : Type} {moved : τ → List β} {time : τ → Nat} {halt : τ → Option Halt}
  {d now : Nat} {free timed stopped : τ}

/-- Giving up at the deadline before anything has been moved. -/
theorem of_gaveUp (ahead : now ≤ d) (expired : halt stopped = some .expired)
    (atExpiry : time stopped = Limit.expiry (some d) now) (nothing : moved stopped = [])
    (slow : halt free = some .expired ∨ d ≤ time free) : Within moved time halt d free stopped := by
  refine .cut expired ?_ ?_ slow
  · rw [atExpiry]
    exact Nat.max_eq_right ahead
  · rw [nothing]
    exact List.nil_prefix

/-- A wait until some time, after which the transfer goes on. -/
theorem of_wait {wakes : Nat} (ahead : now ≤ d) (expired : halt stopped = some .expired)
    (atExpiry : time stopped = Limit.expiry (some d) now) (nothing : moved stopped = [])
    (waits : max now wakes ≤ time free)
    (later : max now wakes ≤ d → Within moved time halt d free timed) :
    Within moved time halt d free
      (if (Limit.isBefore (some d) wakes && decide (now < wakes)) = true then stopped else timed) := by
  by_cases late : d < wakes
  · have gaveUp : (Limit.isBefore (some d) wakes && decide (now < wakes)) = true := by
      simp only [Limit.isBefore, Bool.and_eq_true, decide_eq_true_eq]
      omega
    rw [if_pos gaveUp]
    exact of_gaveUp ahead expired atExpiry nothing (.inr (by omega))
  · have wakesInTime : ¬ (Limit.isBefore (some d) wakes && decide (now < wakes)) = true := by
      simp only [Limit.isBefore, Bool.and_eq_true, decide_eq_true_eq]
      omega
    rw [if_neg wakesInTime]
    exact later (by omega)

/-- A wait for some time is a wait until some time. -/
theorem of_delay {ms : Nat} (ahead : now ≤ d) (expired : halt stopped = some .expired)
    (atExpiry : time stopped = Limit.expiry (some d) now) (nothing : moved stopped = [])
    (waits : now + ms ≤ time free)
    (later : now + ms ≤ d → Within moved time halt d free timed) :
    Within moved time halt d free
      (if (Limit.isBefore (some d) (now + ms) && decide (0 < ms)) = true then stopped else timed) := by
  have lasts : decide (0 < ms) = decide (now < now + ms) := by simp
  have wakes : max now (now + ms) = now + ms := by omega
  rw [lasts]
  apply of_wait ahead expired atExpiry nothing
  · rwa [wakes]
  · rwa [wakes]

/-- A call that is not ready, after which the transfer goes on. -/
theorem of_yield (ahead : now ≤ d) (expired : halt stopped = some .expired)
    (atExpiry : time stopped = Limit.expiry (some d) now) (nothing : moved stopped = [])
    (waits : now ≤ time free) (later : Within moved time halt d free timed) :
    Within moved time halt d free
      (if Limit.isReached (some d) now = true then stopped else timed) := by
  by_cases reached : d ≤ now
  · have gaveUp : Limit.isReached (some d) now = true := decide_eq_true reached
    rw [if_pos gaveUp]
    exact of_gaveUp ahead expired atExpiry nothing (.inr (Nat.le_trans reached waits))
  · have early : ¬ Limit.isReached (some d) now = true := fun c => reached (of_decide_eq_true c)
    rw [if_neg early]
    exact later

end Within

variable {d now : Nat}

/-! ### Gathering -/

theorem now_le_gather (limit : Limit) (need now : Nat) (es : List (Event Bytes)) :
    now ≤ (gather limit need now es).now := by
  fun_induction gather limit need now es with
  | case1 now es | case2 need now | case3 need now data es longer | case5 need now f es =>
    exact Nat.le_refl now
  | case4 need now data es notLonger more ih => exact ih
  | case7 need now ms es inTime ih => exact Nat.le_trans (Nat.le_add_right now ms) ih
  | case9 need now time es inTime ih => exact Nat.le_trans (Nat.le_max_left now time) ih
  | case11 need now es inTime ih => exact ih
  | case6 need now ms es | case8 need now time es | case10 need now es | case12 need now es =>
    exact limit.le_expiry now

/-- **Gathering with a deadline.** -/
theorem gather_within (ahead : now ≤ d) (need : Nat) (es : List (Event Bytes)) :
    Within Gathered.got Gathered.now Gathered.halt d
      (gather none need now es) (gather (some d) need now es) := by
  induction es generalizing need now with
  | nil =>
    cases need with
    | zero => exact .inTime (by simp [gather]) ahead
    | succ need => exact .inTime (by simp [gather]) ahead
  | cons e es ih =>
    cases need with
    | zero => exact .inTime (by simp [gather]) ahead
    | succ need =>
      cases e with
      | item data =>
        simp only [gather]
        split
        · exact .inTime (by simp) ahead
        · -- what the rest of the events brings comes behind the data
          generalize timed : gather (some d) (need + 1 - data.length) now es = more
          have later := ih ahead (need + 1 - data.length)
          rw [timed] at later
          cases later with
          | inTime unexpired soon => exact .inTime unexpired soon
          | cut expired atDeadline front slow =>
            exact .cut expired atDeadline ((List.prefix_append_right_inj data).mpr front) slow
      | fault f => exact .inTime (by simp [gather]) ahead
      | delay ms =>
        exact .of_delay ahead rfl rfl rfl (now_le_gather _ _ _ _) fun soon => ih soon (need + 1)
      | wakeAt time =>
        exact .of_wait ahead rfl rfl rfl (now_le_gather _ _ _ _) fun soon => ih soon (need + 1)
      | yield => exact .of_yield ahead rfl rfl rfl (now_le_gather _ _ _ _) (ih ahead (need + 1))
      | hang => exact .of_gaveUp ahead rfl rfl rfl (.inl rfl)

/-! ### Delivering -/

theorem now_le_deliver (limit : Limit) (now : Nat) (message : Bytes) (es : List (Event Nat)) :
    now ≤ (deliver limit now message es).now := by
  fun_induction deliver limit now message es with
  | case1 now es | case2 now b bs | case3 now b bs es | case5 now b bs f es => exact Nat.le_refl now
  | case4 now b bs n es more ih => exact ih
  | case7 now b bs ms es inTime ih => exact Nat.le_trans (Nat.le_add_right now ms) ih
  | case9 now b bs time es inTime ih => exact Nat.le_trans (Nat.le_max_left now time) ih
  | case11 now b bs es inTime ih => exact ih
  | case6 now b bs ms es | case8 now b bs time es | case10 now b bs es | case12 now b bs es =>
    exact limit.le_expiry now

/-- **Delivering with a deadline.** -/
theorem deliver_within (ahead : now ≤ d) (message : Bytes) (es : List (Event Nat)) :
    Within Delivered.chunks Delivered.now Delivered.halt d
      (deliver none now message es) (deliver (some d) now message es) := by
  induction es generalizing message now with
  | nil =>
    cases message with
    | nil => exact .inTime (by simp [deliver]) ahead
    | cons b bs => exact .inTime (by simp [deliver]) ahead
  | cons e es ih =>
    cases message with
    | nil => exact .inTime (by simp [deliver]) ahead
    | cons b bs =>
      cases e with
      | item n =>
        cases n with
        | zero => exact .inTime (by simp [deliver]) ahead
        | succ n =>
          -- what is taken of the rest of the message comes behind this piece
          simp only [deliver]
          generalize timed : deliver (some d) now (bs.drop n) es = more
          have later := ih ahead (bs.drop n)
          rw [timed] at later
          cases later with
          | inTime unexpired soon => exact .inTime unexpired soon
          | cut expired atDeadline front slow =>
            exact .cut expired atDeadline ((List.prefix_cons_inj _).mpr front) slow
      | fault f => exact .inTime (by simp [deliver]) ahead
      | delay ms =>
        exact .of_delay ahead rfl rfl rfl (now_le_deliver _ _ _ _) fun soon => ih soon (b :: bs)
      | wakeAt time =>
        exact .of_wait ahead rfl rfl rfl (now_le_deliver _ _ _ _) fun soon => ih soon (b :: bs)
      | yield => exact .of_yield ahead rfl rfl rfl (now_le_deliver _ _ _ _) (ih ahead (b :: bs))
      | hang => exact .of_gaveUp ahead rfl rfl rfl (.inl rfl)

/-! ### Earlier and later streams -/

/-- Whether a stream may become another one: the pieces written to it are the first of those that are
written to the other, and what is left to read of the other is the end of what is left of it. -/
structure Precedes (s s' : Stream) : Prop where
  written : s.written <+: s'.written
  read : ∃ octets, dataOf s.reads = octets ++ dataOf s'.reads

namespace Precedes

variable {s s' s'' : Stream}

theorem refl (s : Stream) : s.Precedes s := ⟨List.prefix_rfl, [], rfl⟩

theorem trans (first : s.Precedes s') (later : s'.Precedes s'') : s.Precedes s'' := by
  obtain ⟨octets, read⟩ := first.read
  obtain ⟨more, readMore⟩ := later.read
  refine ⟨first.written.trans later.written, octets ++ more, ?_⟩
  rw [read, readMore, List.append_assoc]

end Precedes

end Intercept.Stream
