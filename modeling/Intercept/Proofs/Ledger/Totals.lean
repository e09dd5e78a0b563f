import Intercept.Ledger.Snapshot
import Mathlib.Data.List.Induction
import Mathlib.Data.List.Nodup
import Mathlib.Data.UInt

/-!
# What the counters add up to

Every counter that sums something up grows with each entry by what the entry is worth to it, so after
a list of entries it holds the sum of their worths, modulo 2^64. A snapshot names the kinds of
failure that arose, each once and with its own count.

## Main statements

* `Adds.recordAll`: a counter that grows by worths holds their sum.
* `Tallies.recordAll`: the counters of ends keep the order that the entries of each end keep.
* `failureTotal_recordAll`: the failures of all kinds are those of sessions and those outside of any.
* `Snapshot.mem_failures_iff`, `Snapshot.nodup_failures`: the failures that a snapshot names.
-/

namespace Intercept

namespace Ledger

/-! ### Operations -/

/-- What is recorded at a time: an entry, or the end of a session with all its entries. -/
inductive Operation where
  | entry (e : Entry)
  | ending (e : Ending)

def Operation.entries : Operation → List Entry
  | .entry e => [e]
  | .ending e => e.entries

def Operation.isEnding : Operation → Bool
  | .entry _ => false
  | .ending _ => true

/-- The entries of a list of operations. -/
def entriesOf (operations : List Operation) : List Entry := operations.flatMap Operation.entries

/-! ### Sums -/

/-- Whether a counter grows with every entry by what the entry is worth to it. -/
def Adds (counter : Ledger → UInt64) (worth : Entry → UInt64) : Prop :=
  ∀ l e, counter (record l e) = counter l + worth e

theorem Adds.recordAll {counter : Ledger → UInt64} {worth : Entry → UInt64}
    (adds : Adds counter worth) (l : Ledger) (es : List Entry) :
    counter (l.recordAll es) = counter l + (es.map worth).sum := by
  induction es generalizing l with
  | nil => simp
  | cons e es ih => rw [recordAll_cons, ih, adds, List.map_cons, List.sum_cons, UInt64.add_assoc]

/-- The octets that a completed session moved from its client. -/
def Entry.up : Entry → UInt64
  | .completed up _ => up
  | _ => 0

/-- The octets that a completed session moved to its client. -/
def Entry.down : Entry → UInt64
  | .completed _ down => down
  | _ => 0

theorem adds_bytesUp : Adds (·.bytesUp) Entry.up := by
  intro l e
  cases e with
  | accepted t => cases t <;> simp [record, Entry.up]
  | _ => simp [record, Entry.up, countFailure]

theorem adds_bytesDown : Adds (·.bytesDown) Entry.down := by
  intro l e
  cases e with
  | accepted t => cases t <;> simp [record, Entry.down]
  | _ => simp [record, Entry.down, countFailure]

/-! ### Ends of sessions -/

def Entry.isEstablished : Entry → Bool
  | .established => true
  | _ => false

theorem counts_established : Counts (·.established) Entry.isEstablished := by
  intro l e
  cases e with
  | accepted t => cases t <;> simp [record, Entry.isEstablished]
  | _ => simp [record, Entry.isEstablished, countFailure]

/-- Whether entries tell of so many ends, and of these as they should: whoever completed had been
established, and whoever had been established has completed or failed. -/
structure Tallies (entries : List Entry) (ends : Nat) : Prop where
  completed : entries.countP Entry.isCompleted ≤ entries.countP Entry.isEstablished
  established : entries.countP Entry.isEstablished
    ≤ entries.countP Entry.isCompleted + entries.countP Entry.isFailed
  ended : entries.countP Entry.isCompleted + entries.countP Entry.isFailed = ends

theorem tallies_nil : Tallies [] 0 := ⟨Nat.le_refl _, Nat.le_refl _, rfl⟩

theorem Tallies.append {before after : List Entry} {m n : Nat} (first : Tallies before m)
    (second : Tallies after n) : Tallies (before ++ after) (m + n) := by
  obtain ⟨completed, established, ended⟩ := first
  obtain ⟨completed', established', ended'⟩ := second
  constructor <;> simp only [List.countP_append] <;> omega

/-- An entry that tells of no end, nor that the way was open. -/
def Entry.IsAside (e : Entry) : Prop :=
  e.isEstablished = false ∧ e.isCompleted = false ∧ e.isFailed = false

theorem tallies_of_isAside {e : Entry} (aside : e.IsAside) : Tallies [e] 0 := by
  obtain ⟨established, completed, failed⟩ := aside
  constructor <;> simp [established, completed, failed]

/-- An end in which the way was open, or in which it was not and the session failed. -/
theorem Ending.tallies {e : Ending}
    (kept : e.phase = .established ∨ (e.phase = .failed ∧ ∃ f, e.result = .error f)) :
    Tallies e.entries 1 := by
  obtain ⟨phase, result⟩ := e
  rcases kept with rfl | ⟨rfl, f, rfl⟩
  · cases result with
    | ok sizes => exact ⟨Nat.le_refl _, Nat.le_refl _, rfl⟩
    | error f => exact ⟨Nat.zero_le _, Nat.le_refl _, rfl⟩
  · exact ⟨Nat.le_refl _, Nat.zero_le _, rfl⟩

/-- As long as it has not wrapped around, a counter tells how many entries are of its sort. -/
theorem Counts.toNat_recordAll {counter : Ledger → UInt64} {sort : Entry → Bool}
    (counts : Counts counter sort) (none : counter empty = 0) (entries : List Entry)
    (few : entries.countP sort < UInt64.size) :
    (counter (empty.recordAll entries)).toNat = entries.countP sort := by
  rw [counts.recordAll, none, UInt64.zero_add, UInt64.toNat_ofNat_of_lt' few]

/-- **Ends** as the counters tell of them, as long as there are fewer than a counter can hold. -/
theorem Tallies.recordAll {entries : List Entry} {ends : Nat} (tallies : Tallies entries ends)
    (few : ends < UInt64.size) :
    (empty.recordAll entries).completed.toNat ≤ (empty.recordAll entries).established.toNat
      ∧ (empty.recordAll entries).established.toNat
        ≤ (empty.recordAll entries).completed.toNat + (empty.recordAll entries).failed.toNat := by
  obtain ⟨completed, established, ended⟩ := tallies
  -- none of the three counts more than there are ends, so none of them has wrapped around
  have completions := counts_completed.toNat_recordAll rfl entries (by omega)
  have openings := counts_established.toNat_recordAll rfl entries (by omega)
  have failures := counts_failed.toNat_recordAll rfl entries (by omega)
  exact ⟨by omega, by omega⟩

/-! ### Failures -/

def Entry.isError : Entry → Bool
  | .error _ => true
  | _ => false

def Operation.isError : Operation → Bool
  | .entry e => e.isError
  | .ending _ => false

/-- The end of a session is no failure outside of any. -/
theorem countP_isError_entries (o : Operation) :
    o.entries.countP Entry.isError = if o.isError then 1 else 0 := by
  cases o with
  | entry e => exact List.countP_singleton
  | ending e =>
    obtain ⟨phase, result⟩ := e
    show (outcome phase result).countP Entry.isError = 0
    cases result <;> by_cases established : phase = .established <;>
      simp [outcome, established, Entry.isError]

theorem countP_isError_entriesOf (operations : List Operation) :
    (entriesOf operations).countP Entry.isError = operations.countP Operation.isError := by
  induction operations with
  | nil => rfl
  | cons o operations ih =>
    rw [entriesOf, List.flatMap_cons, List.countP_append, countP_isError_entries,
      List.countP_cons, ← ih, Nat.add_comm]
    rfl

/-- How often failures of all kinds arose together. -/
def failureTotal (l : Ledger) : UInt64 := (Failure.Kind.all.map l.failures).sum

theorem sum_countFailure (l : Ledger) (kind : Failure.Kind) (kinds : List Failure.Kind) :
    (kinds.map (l.countFailure kind).failures).sum
      = (kinds.map l.failures).sum + .ofNat (kinds.count kind) := by
  induction kinds with
  | nil => simp
  | cons k kinds ih =>
    rw [List.map_cons, List.sum_cons, ih, List.map_cons, List.sum_cons, List.count_cons]
    by_cases same : k = kind
    · subst same
      simp only [countFailure, beq_self_eq_true, if_true, UInt64.ofNat_add]
      grind
    · simp only [countFailure, same, beq_iff_eq, if_false, Nat.add_zero]
      grind

/-- A failure is counted under one kind. -/
theorem failureTotal_countFailure (l : Ledger) (kind : Failure.Kind) :
    (l.countFailure kind).failureTotal = l.failureTotal + 1 := by
  have once : Failure.Kind.all.count kind = 1 := by cases kind <;> decide
  rw [failureTotal, sum_countFailure, once]
  rfl

theorem counts_failureTotal : Counts failureTotal fun e => e.isFailed || e.isError := by
  intro l e
  cases e with
  | accepted t => cases t <;> simp [record, failureTotal, Entry.isFailed, Entry.isError]
  | failed kind | error kind =>
    simp only [record, failureTotal_countFailure, Entry.isFailed, Entry.isError]
    rfl
  | _ => simp [record, failureTotal, Entry.isFailed, Entry.isError]

/-- **Failures of all kinds** are those that ended sessions and those outside of any. -/
theorem failureTotal_recordAll (es : List Entry) :
    (empty.recordAll es).failureTotal
      = (empty.recordAll es).failed + .ofNat (es.countP Entry.isError) := by
  have none : empty.failureTotal = 0 := by decide
  have split : es.countP (fun e => e.isFailed || e.isError)
      = es.countP Entry.isFailed + es.countP Entry.isError := by
    induction es with
    | nil => rfl
    | cons e es ih =>
      simp only [List.countP_cons, ih]
      cases e <;> simp [Entry.isFailed, Entry.isError] <;> omega
  rw [counts_failureTotal.recordAll, counts_failed.recordAll, split, UInt64.ofNat_add, none]
  show 0 + _ = 0 + _ + _
  grind

end Ledger

/-! ### Failures by name -/

theorem Failure.Kind.name_injective {j k : Failure.Kind} (same : j.name = k.name) : j = k := by
  have named := Failure.Kind.ofName?_name j
  rw [same, Failure.Kind.ofName?_name k] at named
  exact (Option.some.inj named).symm

namespace Snapshot

variable {counts : List (String × UInt64)} {name : String} {count : UInt64}

/-- Counts with a new name are the counts and the one under that name. -/
theorem insert_perm (new : name ∉ counts.map (·.1)) :
    (insert name count counts).Perm ((name, count) :: counts) := by
  induction counts with
  | nil => exact .refl _
  | cons first rest ih =>
    obtain ⟨n, c⟩ := first
    rw [List.map_cons, List.mem_cons, not_or] at new
    unfold insert
    split
    · exact .refl _
    · rw [if_neg new.1]
      exact ((ih new.2).cons _).trans (.swap _ _ _)

/-- Counts whose names differ are only put in order. -/
theorem ofCounts_perm (distinct : (counts.map (·.1)).Nodup) : (ofCounts counts).Perm counts := by
  -- from the back, since that is where the count that is added last stands
  induction counts using List.reverseRecOn with
  | nil => exact .refl _
  | append_singleton counts last ih =>
    obtain ⟨name, count⟩ := last
    rw [List.map_append, List.nodup_append] at distinct
    obtain ⟨earlier, _, apart⟩ := distinct
    have placed := ih earlier
    have new : name ∉ (ofCounts counts).map (·.1) := fun named =>
      apart name ((placed.map _).mem_iff.mp named) name List.mem_cons_self rfl
    rw [ofCounts, List.foldl_append]
    exact (insert_perm new).trans ((placed.cons _).trans (List.perm_append_singleton _ _).symm)

theorem nodup_arisen (l : Ledger) : ((arisen l).map (·.1)).Nodup := by
  have kinds : Failure.Kind.all.Nodup := by decide
  rw [arisen, List.map_map]
  exact (kinds.filter _).map fun _ _ => Failure.Kind.name_injective

theorem mem_arisen_iff {l : Ledger} : (name, count) ∈ arisen l ↔
    ∃ kind : Failure.Kind, kind.name = name ∧ l.failures kind = count ∧ count ≠ 0 := by
  simp only [arisen, List.mem_map, List.mem_filter, Failure.Kind.mem_all, true_and,
    decide_eq_true_eq, Prod.mk.injEq]
  constructor
  · rintro ⟨kind, arose, rfl, rfl⟩
    exact ⟨kind, rfl, rfl, arose⟩
  · rintro ⟨kind, rfl, rfl, arose⟩
    exact ⟨kind, arose, rfl, rfl⟩

/-- **Which failures a snapshot names:** those of the kinds that arose, each with its own count. -/
theorem mem_failures_iff (l : Ledger) (time : UInt64) : (name, count) ∈ (ofLedger l time).failures ↔
    ∃ kind : Failure.Kind, kind.name = name ∧ l.failures kind = count ∧ count ≠ 0 :=
  (ofCounts_perm (nodup_arisen l)).mem_iff.trans mem_arisen_iff

/-- A snapshot names a kind of failure at most once. -/
theorem nodup_failures (l : Ledger) (time : UInt64) :
    ((ofLedger l time).failures.map (·.1)).Nodup :=
  ((ofCounts_perm (nodup_arisen l)).map _).nodup_iff.mpr (nodup_arisen l)

end Snapshot

end Intercept
