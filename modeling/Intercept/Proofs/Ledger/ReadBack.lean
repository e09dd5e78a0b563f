import Intercept.Proofs.Json.ReadBack
import Intercept.Proofs.Ledger.Totals

/-!
# Reading snapshots back

The counts of a snapshot stand under names in strictly rising order, so each name has one count.
Such a snapshot is read back from its text, whatever characters the names hold. A text that is read
may give the counts in any order and a name several times; what it is read as has the names in
order, each with the count that stands last under it.

## Main statements

* `inOrder_ofCounts`, `count?_ofCounts`: counts put in order, the last under each name.
* `ofCounts_of_inOrder`: counts that are in order stay as they are.
* `ofText?_text`: a snapshot is read back from its text.
* `countsIn_iff`: a value that is read states one list of counts.
* `exists_countsIn`: the failures that are read are these counts.
* `snapshot_read_back`: the round trips, of snapshots and of texts.
-/

namespace Intercept

namespace Snapshot

variable {counts : List (String × UInt64)} {name other : String} {count : UInt64}

/-! ### Counts in order -/

/-- Whether the names are in strictly rising order. -/
def InOrder (counts : List (String × UInt64)) : Prop := counts.Pairwise (·.1 < ·.1)

theorem InOrder.nodup (inOrder : InOrder counts) : (counts.map (·.1)).Nodup :=
  List.pairwise_map.mpr (inOrder.imp Std.ne_of_lt)

theorem fst_mem_insert {entry : String × UInt64} (found : entry ∈ insert name count counts) :
    entry.1 = name ∨ entry ∈ counts := by
  induction counts with
  | nil => exact .inl (congrArg Prod.fst (List.mem_singleton.mp found))
  | cons first rest ih =>
    obtain ⟨n, c⟩ := first
    unfold insert at found
    split at found
    · exact (List.mem_cons.mp found).imp_left (congrArg Prod.fst)
    · split at found
      · exact (List.mem_cons.mp found).imp (congrArg Prod.fst) (.tail _)
      · rcases List.mem_cons.mp found with rfl | found
        · exact .inr (.head _)
        · exact (ih found).imp_right (.tail _)

theorem inOrder_insert (inOrder : InOrder counts) : InOrder (insert name count counts) := by
  induction counts with
  | nil => exact List.pairwise_singleton _ _
  | cons first rest ih =>
    obtain ⟨n, c⟩ := first
    obtain ⟨above, rising⟩ := List.pairwise_cons.mp inOrder
    unfold insert
    split
    · rename_i less
      refine List.pairwise_cons.mpr ⟨fun entry found => ?_, inOrder⟩
      rcases List.mem_cons.mp found with rfl | found
      · exact less
      · exact String.lt_trans less (above entry found)
    · rename_i notLess
      split
      · rename_i same
        exact List.pairwise_cons.mpr ⟨fun entry found => same ▸ above entry found, rising⟩
      · rename_i different
        refine List.pairwise_cons.mpr ⟨fun entry found => ?_, ih rising⟩
        rcases fst_mem_insert found with named | found
        · rw [named]
          exact Std.lt_of_le_of_ne notLess (Ne.symm different)
        · exact above entry found

theorem inOrder_ofCounts (counts : List (String × UInt64)) : InOrder (ofCounts counts) := by
  induction counts using List.reverseRecOn with
  | nil => exact .nil
  | append_singleton counts last ih =>
    rw [ofCounts, List.foldl_append]
    exact inOrder_insert ih

/-- Counts that are in order stay as they are. -/
theorem ofCounts_of_inOrder (inOrder : InOrder counts) : ofCounts counts = counts :=
  (ofCounts_perm inOrder.nodup).eq_of_pairwise
    (fun _ _ _ _ less greater => absurd (String.lt_trans less greater) (String.lt_irrefl _))
    (inOrder_ofCounts counts) inOrder

/-! ### The count under a name -/

theorem count?_cons {n : String} {c : UInt64} :
    count? name ((n, c) :: counts) = if n = name then some c else count? name counts := by
  by_cases same : n = name <;> simp [count?, same]

theorem count?_insert :
    count? other (insert name count counts)
      = if name = other then some count else count? other counts := by
  induction counts with
  | nil => exact count?_cons
  | cons first rest ih =>
    obtain ⟨n, c⟩ := first
    unfold insert
    split
    · exact count?_cons
    · rename_i notLess
      split
      · rename_i same
        subst same
        simp only [count?_cons]
        split <;> rfl
      · rename_i different
        simp only [count?_cons, ih]
        grind

/-- **The last counts.** Of several counts under one name, the one added last is kept. -/
theorem count?_ofCounts (name : String) (counts : List (String × UInt64)) :
    count? name (ofCounts counts) = count? name counts.reverse := by
  induction counts using List.reverseRecOn with
  | nil => rfl
  | append_singleton counts last ih =>
    obtain ⟨n, c⟩ := last
    rw [ofCounts, List.foldl_append, List.reverse_append]
    exact count?_insert.trans ((congrArg _ ih).trans count?_cons.symm)

/-- The count under a name is the first under it. -/
theorem count?_eq_some_iff : count? name counts = some count
    ↔ ∃ before after, counts = before ++ (name, count) :: after ∧ name ∉ before.map (·.1) := by
  rw [count?, Option.map_eq_some_iff]
  constructor
  · rintro ⟨⟨n, c⟩, found, rfl⟩
    obtain ⟨same, before, after, split, none⟩ := List.find?_eq_some_iff_append.mp found
    cases eq_of_beq same
    refine ⟨before, after, split, fun named => ?_⟩
    obtain ⟨entry, found, named⟩ := List.mem_map.mp named
    simpa [named] using none entry found
  · rintro ⟨before, after, split, none⟩
    refine ⟨(name, count), List.find?_eq_some_iff_append.mpr ⟨beq_self_eq_true name, before, after,
      split, fun entry found => ?_⟩, rfl⟩
    rw [Bool.not_eq_true', beq_eq_false_iff_ne]
    rintro rfl
    exact none (List.mem_map_of_mem found)

theorem InOrder.mem_iff (inOrder : InOrder counts) :
    (name, count) ∈ counts ↔ count? name counts = some count := by
  rw [count?_eq_some_iff]
  constructor
  · intro found
    obtain ⟨before, after, split⟩ := List.append_of_mem found
    refine ⟨before, after, split, fun named => ?_⟩
    have distinct := inOrder.nodup
    rw [split, List.map_append, List.nodup_append] at distinct
    exact distinct.2.2 name named name (.head _) rfl
  · rintro ⟨before, after, rfl, _⟩
    exact List.mem_append_right before (.head _)

/-- The counts that are kept are those after which no other stands under their name. -/
theorem mem_ofCounts_iff : (name, count) ∈ ofCounts counts
    ↔ ∃ before after, counts = before ++ (name, count) :: after ∧ name ∉ after.map (·.1) := by
  rw [(inOrder_ofCounts counts).mem_iff, count?_ofCounts, count?_eq_some_iff]
  constructor
  · rintro ⟨after, before, reversed, last⟩
    refine ⟨before.reverse, after.reverse, ?_, by simpa using last⟩
    simpa using congrArg List.reverse reversed
  · rintro ⟨before, after, rfl, last⟩
    exact ⟨after.reverse, before.reverse, by simp, by simpa using last⟩

/-! ### Texts -/

theorem exact_counterJson (n : UInt64) : (counterJson n).Exact := .natural n.toNat

theorem exact_countsJson (counts : List (String × UInt64)) : (countsJson counts).Exact := by
  refine .members fun member found => ?_
  obtain ⟨⟨name, count⟩, _, rfl⟩ := List.mem_map.mp found
  exact exact_counterJson count

/-- Nothing is lost when a snapshot is written. -/
theorem exact_json (s : Snapshot) : s.json.Exact :=
  .members (by simp [exact_counterJson, exact_countsJson])

theorem word64?_eq_some_iff {v : Json} : Json.word64? v = some count ↔ v = counterJson count := by
  constructor
  · intro read
    obtain ⟨n, natural, rfl⟩ := Option.map_eq_some_iff.mp read
    unfold Json.natural? at natural
    split at natural
    · split at natural
      · rename_i fits
        cases natural
        rw [counterJson, UInt64.toNat_ofNat_of_lt' (Nat.lt_succ_of_le fits)]
      · cases natural
    · cases natural
  · rintro rfl
    exact Json.word64?_natural count

/-- The member of an object that states a count. -/
def member (c : String × UInt64) : Option String × Json := (some c.1, counterJson c.2)

theorem countsJson_eq (counts : List (String × UInt64)) :
    countsJson counts = .object (counts.map member) := by
  rw [countsJson, Json.ofMembers, List.map_map]
  rfl

theorem counts?_cons (name : String) (v : Json) (rest : List (Option String × Json)) :
    counts? ((some name, v) :: rest)
      = (Json.word64? v).bind fun count => (counts? rest).map ((name, count) :: ·) := by
  rw [counts?]
  cases Json.word64? v with
  | none => rfl
  | some count => cases counts? rest <;> rfl

/-- Which members state which counts. -/
theorem counts?_eq_some_iff {members : List (Option String × Json)} :
    counts? members = some counts ↔ members = counts.map member := by
  induction members generalizing counts with
  | nil => simp [counts?, eq_comm]
  | cons first rest ih =>
    obtain ⟨key, v⟩ := first
    cases key with
    | none =>
      constructor
      · intro h
        cases h
      · intro h
        cases counts <;> cases h
    | some key =>
      simp only [counts?_cons, Option.bind_eq_some_iff, Option.map_eq_some_iff,
        word64?_eq_some_iff, ih]
      constructor
      · rintro ⟨count, rfl, counts, rfl, rfl⟩
        rfl
      · intro h
        obtain ⟨⟨n, c⟩, counts, rfl, same, more⟩ := List.map_eq_cons_iff.mp h.symm
        cases same
        exact ⟨c, rfl, counts, more.symm, rfl⟩

theorem countsOfJson?_countsJson (counts : List (String × UInt64)) :
    countsOfJson? (countsJson counts) = some (ofCounts counts) := by
  rw [countsJson_eq, countsOfJson?, counts?_eq_some_iff.mpr rfl]
  rfl

theorem required_counterJson {r : Json.Record} {n : UInt64}
    (given : r.get? name = some (counterJson n)) : r.required name Json.word64? = some n := by
  rw [Json.Record.required, given]
  exact Json.word64?_natural n

theorem ofJson?_json (s : Snapshot) :
    ofJson? s.json = some { s with failures := ofCounts s.failures } := by
  have record : Json.Record.ofJson? fields s.json = _ :=
    Json.Record.ofJson?_ofMembers rfl (by decide)
  rw [ofJson?, record]
  -- one after the other, as they are read: ten counters, the failures, and the time
  refine Option.bind_eq_some_iff.mpr ⟨_, rfl, ?_⟩
  iterate 10 refine Option.bind_eq_some_iff.mpr ⟨_, required_counterJson rfl, ?_⟩
  refine Option.bind_eq_some_iff.mpr ⟨_, countsOfJson?_countsJson s.failures, ?_⟩
  exact Option.bind_eq_some_iff.mpr ⟨_, required_counterJson rfl, rfl⟩

/-- **Reading back.** A snapshot is read back from its text. -/
theorem ofText?_text {s : Snapshot} (inOrder : InOrder s.failures) : ofText? s.text = some s := by
  rw [ofText?, text, Json.ofText?_text s.exact_json, Option.bind_some, ofJson?_json,
    ofCounts_of_inOrder inOrder]

/-! ### What a text is read as -/

/-- Which counts a value states: under their name in an object, at their place in an array. -/
inductive CountsIn : Json → List (String × UInt64) → Prop where
  | object {given : List (Option String × Json)} {counts : List (String × UInt64)} :
      (some "failures", countsJson counts) ∈ given → CountsIn (.object given) counts
  | array {elements : List Json} {counts : List (String × UInt64)} :
      elements[10]? = some (countsJson counts) → CountsIn (.array elements) counts

theorem countsJson_inj {others : List (String × UInt64)} :
    countsJson counts = countsJson others ↔ counts = others := by
  constructor
  · intro same
    simp only [countsJson_eq, Json.object.injEq] at same
    exact Option.some.inj ((counts?_eq_some_iff.mpr rfl).symm.trans (counts?_eq_some_iff.mpr same))
  · rintro rfl
    rfl

theorem countsIn_iff {v : Json} {r : Json.Record}
    (record : Json.Record.ofJson? fields v = some r) :
    CountsIn v counts ↔ r.get? "failures" = some (countsJson counts) := by
  cases v with
  | object given =>
    rw [Json.Record.get?_of_ofMembers? record (by decide)]
    constructor
    · intro states
      cases states with
      | object found => exact .inr found
    · rintro (none | found)
      · cases none
      · exact .object found
  | array elements =>
    unfold Json.Record.ofJson? at record
    simp only at record
    split at record
    · cases record
      rw [Json.Record.get?_zip (i := 10) (by decide) rfl]
      constructor
      · intro states
        cases states with
        | array stated => exact stated
      · exact .array
    · cases record
  | _ => cases record

/-- The failures of a snapshot are the only counts that stand in the value it is read from. -/
theorem exists_countsIn {v : Json} {s : Snapshot} (read : ofJson? v = some s) :
    ∃ counts, CountsIn v counts ∧ (∀ others, CountsIn v others → others = counts)
      ∧ s.failures = ofCounts counts := by
  obtain ⟨r, record, read⟩ := Option.bind_eq_some_iff.mp read
  -- ten counters stand in front of the failures
  iterate 10 obtain ⟨_, _, read⟩ := Option.bind_eq_some_iff.mp read
  obtain ⟨failures, named, read⟩ := Option.bind_eq_some_iff.mp read
  obtain ⟨_, _, read⟩ := Option.bind_eq_some_iff.mp read
  cases read
  obtain ⟨value, found, stated⟩ := Option.bind_eq_some_iff.mp named
  unfold countsOfJson? at stated
  split at stated
  · obtain ⟨counts, each, rfl⟩ := Option.map_eq_some_iff.mp stated
    rw [counts?_eq_some_iff.mp each, ← countsJson_eq] at found
    refine ⟨counts, (countsIn_iff record).mpr found, fun others given => ?_, rfl⟩
    have again := (countsIn_iff record).mp given
    exact countsJson_inj.mp (Option.some.inj (again.symm.trans found))
  · cases stated

/-- **Round trips.** Every snapshot, with any counters and any counts under any names, is read back
from its text. Whatever text a snapshot was read from, it is read again from what is written for it;
its names are in order, each once, and each has the count that stands last under it in the text. -/
theorem snapshot_read_back :
    (∀ s : Snapshot, InOrder s.failures → ofText? s.text = some s)
      ∧ ∀ given s, ofText? given = some s →
          ofText? s.text = some s ∧ InOrder s.failures
            ∧ ∃ v counts, Json.ofText? given = some v ∧ CountsIn v counts
                ∧ (∀ others, CountsIn v others → others = counts)
                ∧ ∀ name count, (name, count) ∈ s.failures
                    ↔ ∃ before after, counts = before ++ (name, count) :: after
                        ∧ name ∉ after.map (·.1) := by
  refine ⟨fun s => ofText?_text, fun given s read => ?_⟩
  obtain ⟨v, spelled, read⟩ := Option.bind_eq_some_iff.mp read
  obtain ⟨counts, stated, only, failures⟩ := exists_countsIn read
  have inOrder : InOrder s.failures := failures ▸ inOrder_ofCounts counts
  refine ⟨ofText?_text inOrder, inOrder, v, counts, spelled, stated, only, fun name count => ?_⟩
  rw [failures]
  exact mem_ofCounts_iff

/-- A text that gives the fields as an array. One name is given twice, the second time with an
escape, and one is a character outside the first plane. -/
theorem snapshot_read_back_twice :
    let given := "[1,2,3,4,5,6,7,8,9,10, \x7b\"timeout\":3,\"\\ud83d\\ude00\":18446744073709551615,"
      ++ "\"time\\u006fut\":5,\"auth\":0\x7d, 9]"
    let meant : Snapshot := ⟨1, 2, 3, 4, 5, 6, 7, 8, 9, 10,
      [("auth", 0), ("timeout", 5), ("😀", 18446744073709551615)], 9⟩
    ofText? given = some meant ∧ ofText? meant.text = some meant ∧ InOrder meant.failures := by
  intro given meant
  have read : ofText? given = some meant := by decide +kernel
  obtain ⟨again, inOrder, _⟩ := snapshot_read_back.2 given meant read
  exact ⟨read, again, inOrder⟩

end Snapshot

end Intercept
