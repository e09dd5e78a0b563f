/-!
# Slots

Slots are taken one at a time and come back. One who asks for a number of slots at once waits for
them: what is free is set aside for the one who asked, and so is what comes back, until the number
is complete. When the wait is over, for whatever reason, everything that was set aside is free
again.

## Main statements

* `total_take?`, `total_giveBack`, `total_ask`, `total_dismiss`: what an operation does to the
  number of slots that nobody holds.
-/

namespace Intercept

structure Slots where
  free : Nat
  /-- Slots that are set aside for one who asked for a number of them. -/
  collected : Nat
  /-- How many slots are still to be set aside. -/
  missing : Nat
  greedy : 0 < missing → free = 0
deriving DecidableEq

namespace Slots

/-- Slots for which nobody waits. -/
def ofCount (n : Nat) : Slots := ⟨n, 0, 0, fun waited => absurd waited (Nat.lt_irrefl 0)⟩

/-- The slots that nobody holds. -/
def total (s : Slots) : Nat := s.free + s.collected

/-- One slot less, unless none is free. -/
def take? (s : Slots) : Option Slots :=
  if s.free = 0 then none
  else some { s with free := s.free - 1, greedy := by have := s.greedy; omega }

/-- Slots come back; the one who waits gets what is missing first. -/
def giveBack (s : Slots) (n : Nat) : Slots where
  free := s.free + (n - s.missing)
  collected := s.collected + min n s.missing
  missing := s.missing - n
  greedy := by have := s.greedy; omega

/-- Asks for a number of slots, which takes those that are free at once. -/
def ask (s : Slots) (n : Nat) : Slots where
  free := s.free - n
  collected := s.collected + min n s.free
  missing := s.missing + (n - s.free)
  greedy := by have := s.greedy; omega

/-- Ends the wait of the one who asked. -/
def dismiss (s : Slots) : Slots := ofCount s.total

/-! ### Nothing is lost -/

theorem take?_eq_none_iff {s : Slots} : s.take? = none ↔ s.free = 0 := by
  unfold take?
  split <;> simp_all

theorem total_take? {s t : Slots} (taken : s.take? = some t) : t.total + 1 = s.total := by
  unfold take? at taken
  split at taken
  · cases taken
  · cases taken
    simp only [total]
    omega

theorem collected_take? {s t : Slots} (taken : s.take? = some t) :
    t.collected = s.collected ∧ t.missing = s.missing := by
  unfold take? at taken
  split at taken
  · cases taken
  · cases taken
    exact ⟨rfl, rfl⟩

theorem total_giveBack (s : Slots) (n : Nat) : (s.giveBack n).total = s.total + n := by
  simp only [total, giveBack]
  omega

theorem total_ask (s : Slots) (n : Nat) : (s.ask n).total = s.total := by
  simp only [total, ask]
  omega

@[simp]
theorem total_dismiss (s : Slots) : s.dismiss.total = s.total := rfl

/-- What is set aside and what is missing make up what was asked for. -/
theorem collected_add_missing_giveBack (s : Slots) (n : Nat) :
    (s.giveBack n).collected + (s.giveBack n).missing = s.collected + s.missing := by
  simp only [giveBack]
  omega

theorem collected_add_missing_ask (s : Slots) (n : Nat) :
    (s.ask n).collected + (s.ask n).missing = s.collected + s.missing + n := by
  simp only [ask]
  omega

@[simp]
theorem giveBack_zero (s : Slots) : s.giveBack 0 = s := by
  simp [giveBack]

end Slots

end Intercept
