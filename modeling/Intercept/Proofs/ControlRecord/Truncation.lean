import Intercept.Proofs.ControlRecord.Words

/-!
# Cut control records

Octets beside a datagram that end too early. Where the record that states the destination is whole,
the destination is the same. Where it is not, none is found: either because the octets end between
two records, as if the later ones had never been sent, or because they end inside one, and then they
are malformed. Padding counts as between: octets that end in it are not malformed.

## Main statements

* `read?_append`: octets behind a record do not change how it is read.
* `read?_cut`: a part of a record is not read as a record.
* `statedDestination_take_skip`: the walk goes on behind a record whose padding is cut.
* `statedDestination_cut`: octets that end before the deciding record does.
* `cut_never_invents`: the answer to any part of any octets that state a destination, and the walk
  over any octets whatever.
-/

namespace Intercept.ControlRecord

open Bytes (ofLE)

/-! ### Places -/

/-- Where what follows the given records starts. -/
def span : List ControlRecord → Nat
  | [] => 0
  | r :: records => aligned r.length + span records

/-- Whether a cut in octets that start with the given records and go on with another falls between
two of them: at the start of all or of the last, or behind one and not behind the start of the next. -/
def FallsBetween (before : List ControlRecord) (cut : Nat) : Prop :=
  cut = 0 ∨ cut = span before ∨ ∃ earlier s later, before = earlier ++ s :: later
    ∧ span earlier + s.length ≤ cut ∧ cut ≤ span earlier + aligned s.length

/-- Octets of records that state no destination, then one that states the given one, and anything
behind it. -/
inductive FirstMatch : Bytes → List ControlRecord → ControlRecord → Address → Prop where
  | intro {before : List ControlRecord} {front : Bytes} {r : ControlRecord} {a : Address} :
      Padded before front → (∀ b ∈ before, ¬ b.IsDestination) → r.Fits → r.States a →
      (rest : Bytes) → FirstMatch (front ++ r.layout ++ rest) before r a

variable {before records : List ControlRecord} {r s : ControlRecord} {a : Address}
variable {control front octets : Bytes} {cut : Nat}

theorem Padded.length_eq_span (padded : Padded records octets) : octets.length = span records := by
  induction padded with
  | nil => rfl
  | @cons r padding octets records fits fills padded ih =>
    rw [span, List.length_append, List.length_append, length_layout, fills_iff.mp fills, ih]

theorem fallsBetween_nil : FallsBetween [] cut ↔ cut = 0 := by
  constructor
  · rintro (start | start | ⟨earlier, s, later, split, _⟩)
    · exact start
    · exact start
    · cases earlier <;> cases split
  · exact .inl

/-- A cut in the first record falls between records only at its start. -/
theorem fallsBetween_of_part (part : cut < s.length) :
    FallsBetween (s :: records) cut ↔ cut = 0 := by
  have covered := le_aligned s.length
  constructor
  · rintro (start | start | ⟨earlier, t, later, split, above, below⟩)
    · exact start
    · rw [span] at start
      omega
    · cases earlier with
      | nil =>
        cases split
        omega
      | cons u earlier =>
        cases split
        rw [span] at above
        omega
  · exact .inl

/-- A cut behind the first record falls between records if it does so among the later ones. -/
theorem fallsBetween_cons (whole : s.length ≤ cut) :
    FallsBetween (s :: records) cut ↔ FallsBetween records (cut - aligned s.length) := by
  have covered := le_aligned s.length
  have header : 16 ≤ s.length := Nat.le_add_right _ _
  constructor
  · rintro (start | start | ⟨earlier, t, later, split, above, below⟩)
    · omega
    · rw [span] at start
      exact .inr (.inl (by omega))
    · cases earlier with
      | nil =>
        cases split
        rw [span] at above below
        exact .inl (by omega)
      | cons u earlier =>
        cases split
        rw [span] at above below
        exact .inr (.inr ⟨earlier, t, later, rfl, by omega, by omega⟩)
  · intro falls
    by_cases padding : cut ≤ aligned s.length
    · exact .inr (.inr ⟨[], s, records, rfl, by rw [span]; omega, by rw [span]; omega⟩)
    · rcases falls with start | start | ⟨earlier, t, later, split, above, below⟩
      · omega
      · exact .inr (.inl (by rw [span]; omega))
      · refine .inr (.inr ⟨s :: earlier, t, later, by rw [split]; rfl, ?_, ?_⟩)
        · rw [span]
          omega
        · rw [span]
          omega

/-! ### Parts of records -/

/-- Octets behind a record do not change how it is read. -/
theorem read?_append (read : read? octets = .ok r) (more : Bytes) :
    read? (octets ++ more) = .ok r := by
  obtain ⟨fits, rest, split⟩ := read?_eq_ok_iff.mp read
  refine read?_eq_ok_iff.mpr ⟨fits, rest ++ more, ?_⟩
  rw [split, List.append_assoc]

/-- **Part of a record** is not read as a record. -/
theorem read?_cut (fits : r.Fits) (part : cut < r.length) (rest : Bytes) :
    ∃ defect, read? ((r.layout ++ rest).take cut) = .error defect := by
  cases read : read? ((r.layout ++ rest).take cut) with
  | error defect => exact ⟨defect, rfl⟩
  | ok s =>
    -- whatever is read from a part is read from the whole, where the record itself stands
    have whole := read?_append read ((r.layout ++ rest).drop cut)
    rw [List.take_append_drop, read?_layout rest fits.level fits.type fits.length] at whole
    cases whole
    have bound := (length_le_of_read? read).1
    rw [List.length_take] at bound
    omega

/-- Octets that end inside their first record are malformed. -/
theorem statedDestination_part (fits : r.Fits) (part : cut < r.length) (some : 0 < cut)
    (rest : Bytes) :
    ∃ defect, statedDestination ((r.layout ++ rest).take cut) = .error (.malformed defect) := by
  obtain ⟨defect, read⟩ := read?_cut fits part rest
  have nonempty : (r.layout ++ rest).take cut ≠ [] := by
    apply List.ne_nil_of_length_pos
    rw [List.length_take, List.length_append, length_layout]
    omega
  exact ⟨defect, statedDestination_defect nonempty read⟩

/-- Behind a whole record that states no destination the walk goes on, also where the octets end in
the padding of the record. -/
theorem statedDestination_take_skip {padding : Bytes} (fits : s.Fits) (fills : s.Fills padding)
    (other : ¬ s.IsDestination) (whole : s.length ≤ cut) (rest : Bytes) :
    statedDestination ((s.layout ++ padding ++ rest).take cut)
      = statedDestination (rest.take (cut - aligned s.length)) := by
  have read : read? ((s.layout ++ padding ++ rest).take cut) = .ok s := by
    rw [List.append_assoc, List.take_append, length_layout,
      List.take_of_length_le (length_layout s ▸ whole)]
    exact read?_layout _ fits.level fits.type fits.length
  have passed : (s.layout ++ padding).length = aligned s.length := by
    rw [List.length_append, length_layout, fills_iff.mp fills]
  rw [statedDestination_skip read (variety?_eq_none_iff.mpr other), List.drop_take,
    List.drop_left' passed]

/-- **Octets that end before the deciding record does** hold no destination if they end between two
records, and are malformed if they end inside one. -/
theorem statedDestination_cut (padded : Padded before front)
    (others : ∀ b ∈ before, ¬ b.IsDestination) (fits : r.Fits) (rest : Bytes)
    (part : cut < span before + r.length) :
    (FallsBetween before cut →
      statedDestination ((front ++ r.layout ++ rest).take cut) = .error .missing)
    ∧ (¬ FallsBetween before cut → ∃ defect,
      statedDestination ((front ++ r.layout ++ rest).take cut) = .error (.malformed defect)) := by
  induction padded generalizing cut with
  | nil =>
    rw [fallsBetween_nil]
    constructor
    · intro start
      rw [start, List.take_zero, statedDestination_nil]
    · intro inside
      rw [span] at part
      exact statedDestination_part fits (by omega) (Nat.pos_of_ne_zero inside) rest
  | @cons s padding octets records sFits fills padded ih =>
    obtain ⟨other, later⟩ := List.forall_mem_cons.mp others
    by_cases whole : s.length ≤ cut
    · -- the first record is passed over, and the cut falls among the later ones
      have split : s.layout ++ padding ++ octets ++ r.layout ++ rest
          = s.layout ++ padding ++ (octets ++ r.layout ++ rest) := by
        simp only [List.append_assoc]
      have header : 16 ≤ r.length := Nat.le_add_right _ _
      rw [span] at part
      rw [fallsBetween_cons whole, split, statedDestination_take_skip sFits fills other whole]
      exact ih later (by omega)
    · -- the cut falls in the first record, if not in front of it
      have split : s.layout ++ padding ++ octets ++ r.layout ++ rest
          = s.layout ++ (padding ++ octets ++ r.layout ++ rest) := by
        simp only [List.append_assoc]
      have inFirst : cut < s.length := Nat.lt_of_not_le whole
      rw [fallsBetween_of_part inFirst, split]
      constructor
      · intro start
        rw [start, List.take_zero, statedDestination_nil]
      · intro inside
        exact statedDestination_part sFits inFirst (Nat.pos_of_ne_zero inside) _

/-! ### The first match -/

theorem exists_firstMatch_iff :
    statedDestination control = .ok a ↔ ∃ before r, FirstMatch control before r a := by
  constructor
  · intro found
    obtain ⟨before, front, r, rest, padded, others, fits, rfl, states⟩ := exists_first_match found
    exact ⟨before, r, .intro padded others fits states rest⟩
  · rintro ⟨before, r, ⟨padded, others, fits, states, rest⟩⟩
    obtain ⟨variety, found⟩ := exists_variety? states.isWhole.isDestination
    rw [statedDestination_of_first padded others fits found rest]
    exact states.destination_eq found

/-- Octets that end behind the deciding record start with the same first match. -/
theorem FirstMatch.take (first : FirstMatch control before r a)
    (whole : span before + r.length ≤ cut) : FirstMatch (control.take cut) before r a := by
  obtain ⟨padded, others, fits, states, rest⟩ := first
  rename_i front
  have covered : (front ++ r.layout).length ≤ cut := by
    rw [List.length_append, length_layout, padded.length_eq_span]
    exact whole
  rw [List.take_append, List.take_of_length_le covered]
  exact .intro padded others fits states _

/-- The deciding record starts behind the records before it, with its length in its header. -/
theorem FirstMatch.stands (first : FirstMatch control before r a) :
    read? (control.drop (span before)) = .ok r := by
  obtain ⟨padded, others, fits, states, rest⟩ := first
  rw [List.append_assoc, List.drop_left' padded.length_eq_span]
  exact read?_layout rest fits.level fits.type fits.length

/-! ### The law -/

/-- **Cutting octets invents no destination.** Octets state a destination exactly if they start with
records that state none and go on with a record `r` that states it. Cut behind the end of `r`, they
state the same. Cut before it, they state none: the record is missing if the cut falls between two
records, and the octets are malformed if it falls anywhere else. The walk over whatever octets a
buffer holds, made in words of 64 bits, asks for no octet that is not there and overflows in no
addition, goes on by sixteen octets at least, and comes to an end with the answer. -/
theorem cut_never_invents :
    (∀ control a, statedDestination control = .ok a ↔ ∃ before r, FirstMatch control before r a)
    ∧ (∀ control before r a, FirstMatch control before r a →
      ofLE ((control.drop (span before)).take 8) = r.length
      ∧ ∀ cut, (span before + r.length ≤ cut → statedDestination (control.take cut) = .ok a)
        ∧ (cut < span before + r.length →
          (FallsBetween before cut → statedDestination (control.take cut) = .error .missing)
          ∧ (¬ FallsBetween before cut → ∃ defect,
            statedDestination (control.take cut) = .error (.malformed defect))))
    ∧ (∀ control : Bytes, control.length < bufferLimit →
      (∀ offset, ∃ look, look? control offset = some look
        ∧ ∀ following, look = .next following → offset.toNat + 16 ≤ following.toNat)
      ∧ ∃ last, Leads (step? control) 0 last
        ∧ look? control last = some (.answer (statedDestination control))) := by
  refine ⟨fun control a => exists_firstMatch_iff, ?_,
    fun control held => ⟨exists_look held, leads_to_answer held⟩⟩
  intro control before r a first
  refine ⟨ofLE_take_of_read? first.stands, fun cut => ⟨?_, ?_⟩⟩
  · intro whole
    exact exists_firstMatch_iff.mpr ⟨before, r, first.take whole⟩
  · intro part
    obtain ⟨padded, others, fits, _, rest⟩ := first
    exact statedDestination_cut padded others fits rest part

/-- A record of 21 octets with three octets of padding, then a destination from octet 24 to octet 51,
cut in eight places; and a header that states the greatest length there is. -/
theorem cut_around_padding :
    let other : ControlRecord := ⟨1, 29, [7, 7, 7, 7, 7]⟩
    let stated : ControlRecord := ⟨0, 20, [2, 0, 31, 144, 10, 0, 0, 1, 9, 9, 9]⟩
    let control := other.layout ++ [1, 2, 3] ++ [] ++ stated.layout ++ [255, 0, 0]
    let huge : Bytes := List.replicate 8 255 ++ List.replicate 8 0
    (∀ cut ∈ [51, 53], statedDestination (control.take cut) = .ok (.v4 ⟨10, 0, 0, 1⟩ 8080))
      ∧ (∀ cut ∈ [0, 21, 24], statedDestination (control.take cut) = .error .missing)
      ∧ (∀ cut ∈ [20, 25, 50], ∃ defect,
        statedDestination (control.take cut) = .error (.malformed defect))
      ∧ ∃ last, Leads (step? huge) 0 last ∧ look? huge last
        = some (.answer (.error (.malformed (.short "control message" (UInt64.size - 1) 16)))) := by
  intro other stated control huge
  have fitsOther : other.Fits := ⟨by decide, by decide, by decide⟩
  have fits : stated.Fits := ⟨by decide, by decide, by decide⟩
  have fills : other.Fills [1, 2, 3] := ⟨by decide, by decide⟩
  have others : ∀ b ∈ [other], ¬ b.IsDestination := by simp [IsDestination, other]
  have states : stated.States (.v4 ⟨10, 0, 0, 1⟩ 8080) := .v4 8080 ⟨10, 0, 0, 1⟩ [9, 9, 9]
  have first : FirstMatch control [other] stated (.v4 ⟨10, 0, 0, 1⟩ 8080) :=
    .intro (.cons fitsOther fills .nil) others fits states [255, 0, 0]
  have overlong : statedDestination huge
      = .error (.malformed (.short "control message" (UInt64.size - 1) 16)) :=
    statedDestination_defect (by decide) (by decide)
  have between : ∀ cut ∈ [0, 21, 24], FallsBetween [other] cut := by
    intro cut chosen
    simp only [List.mem_cons, List.not_mem_nil, or_false] at chosen
    obtain rfl | rfl | rfl := chosen
    · exact .inl rfl
    · exact (fallsBetween_cons (by decide)).mpr (.inl (by decide))
    · exact .inr (.inl (by decide))
  have inside : ∀ cut ∈ [20, 25, 50], ¬ FallsBetween [other] cut := by
    intro cut chosen falls
    simp only [List.mem_cons, List.not_mem_nil, or_false] at chosen
    obtain rfl | rfl | rfl := chosen
    · exact absurd ((fallsBetween_of_part (by decide)).mp falls) (by decide)
    · exact absurd (fallsBetween_nil.mp ((fallsBetween_cons (by decide)).mp falls)) (by decide)
    · exact absurd (fallsBetween_nil.mp ((fallsBetween_cons (by decide)).mp falls)) (by decide)
  obtain ⟨_, cuts, words⟩ := cut_never_invents
  obtain ⟨_, answers⟩ := cuts _ _ _ _ first
  obtain ⟨_, ends⟩ := words huge (by decide)
  rw [overlong] at ends
  refine ⟨?_, ?_, ?_, ends⟩
  · intro cut chosen
    exact (answers cut).1 (by revert cut; decide)
  · intro cut chosen
    exact ((answers cut).2 (by revert cut; decide)).1 (between cut chosen)
  · intro cut chosen
    exact ((answers cut).2 (by revert cut; decide)).2 (inside cut chosen)

end Intercept.ControlRecord
