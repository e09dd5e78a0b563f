import Intercept.ControlRecord
import Intercept.Proofs.Address.Grammar

/-!
# The first record that states a destination

The octets beside a datagram, said without reading them: records one after the other, each padded up
to a multiple of eight. Of the records that state a destination the first decides, and nothing
behind it matters, not even whether it is records. Before it only the lengths matter.

## Main statements

* `read?_eq_ok_iff`: a record is read exactly where it is laid out.
* `destination_eq_ok_iff`: which destination a record states.
* `statedDestination_padded`: padded records that state no destination are passed over.
* `exists_first_match`: where a destination comes from.
* `first_match_decides`: the answer to any layout, and the layout behind any answer.
-/

namespace Intercept.ControlRecord

open Bytes (be16 le ofLE)

/-! ### Layout -/

/-- Whether the numbers of a record fit the fields of its header. -/
structure Fits (r : ControlRecord) : Prop where
  level : r.level < Bytes.capacity 4
  type : r.type < Bytes.capacity 4
  length : r.length < Bytes.capacity 8

/-- Whether a padding fills a record up to a multiple of eight, and no further than to the next. -/
structure Fills (r : ControlRecord) (padding : Bytes) : Prop where
  full : 8 ∣ r.length + padding.length
  short : padding.length < 8

/-- Octets of records one after the other, each with its padding. -/
inductive Padded : List ControlRecord → Bytes → Prop where
  | nil : Padded [] []
  | cons {r : ControlRecord} {padding octets : Bytes} {records : List ControlRecord} :
      r.Fits → r.Fills padding → Padded records octets →
      Padded (r :: records) (r.layout ++ padding ++ octets)

/-- Octets of records one after the other, where the padding of the last may be cut or missing. -/
inductive LaidOut : List ControlRecord → Bytes → Prop where
  | padded {records : List ControlRecord} {octets : Bytes} :
      Padded records octets → LaidOut records octets
  | cut {r : ControlRecord} {padding missing octets : Bytes} {records : List ControlRecord} :
      Padded records octets → r.Fits → r.Fills (padding ++ missing) →
      LaidOut (records ++ [r]) (octets ++ (r.layout ++ padding))

theorem fills_iff {r : ControlRecord} {padding : Bytes} :
    r.Fills padding ↔ r.length + padding.length = aligned r.length := by
  constructor
  · intro fills
    obtain ⟨full, short⟩ := fills
    simp only [aligned]
    omega
  · intro same
    simp only [aligned] at same
    exact ⟨by omega, by omega⟩

theorem length_layout (r : ControlRecord) : r.layout.length = r.length := by
  simp only [layout, List.length_append, Bytes.length_le, length, headerLength]

theorem le_ofLE_take {octets : Bytes} {width : Nat} (enough : width ≤ octets.length) :
    le width (ofLE (octets.take width)) = octets.take width := by
  have counted : (octets.take width).length = width := by
    rw [List.length_take, Nat.min_eq_left enough]
  have same := Bytes.le_ofLE (octets.take width)
  rwa [counted] at same

theorem ofLE_take_lt {octets : Bytes} {width : Nat} (enough : width ≤ octets.length) :
    ofLE (octets.take width) < Bytes.capacity width := by
  have bound := Bytes.ofLE_lt (octets.take width)
  rwa [List.length_take, Nat.min_eq_left enough] at bound

/-- The octets of a header in their three parts, with the data behind them. -/
theorem header_append_data {octets : Bytes} {n : Nat} (covered : 16 ≤ n) :
    octets.take 8 ++ (octets.drop 8).take 4 ++ (octets.drop 12).take 4
      ++ (octets.take n).drop headerLength = octets.take n := by
  have twelve : octets.take 8 ++ (octets.drop 8).take 4 = octets.take 12 := List.take_add.symm
  have header : octets.take 12 ++ (octets.drop 12).take 4 = octets.take 16 := List.take_add.symm
  have front : (octets.take n).take headerLength = octets.take 16 := by
    rw [List.take_take, headerLength, Nat.min_eq_left covered]
  rw [twelve, header, ← front, List.take_append_drop]

/-- **Reading a record.** A record is read exactly where it is laid out. -/
theorem read?_eq_ok_iff {octets : Bytes} {r : ControlRecord} :
    read? octets = .ok r ↔ r.Fits ∧ ∃ rest, octets = r.layout ++ rest := by
  constructor
  · intro h
    have bounds := length_le_of_read? h
    have sixteen : headerLength = 16 := rfl
    simp only [read?] at h
    split at h
    · cases h
    · split at h
      · cases h
      · split at h
        · cases h
        · -- the header holds the three numbers, and the length counts the rest of the record
          rename_i long covered whole
          cases h
          have stated : length ⟨ofLE ((octets.drop 8).take 4), ofLE ((octets.drop 12).take 4),
              (octets.take (ofLE (octets.take 8))).drop headerLength⟩ = ofLE (octets.take 8) := by
            simp only [length, List.length_drop, List.length_take]
            omega
          have enough : ∀ offset, offset ≤ 12 → 4 ≤ (octets.drop offset).length := by
            intro offset small
            rw [List.length_drop]
            omega
          refine ⟨⟨ofLE_take_lt (enough 8 (by omega)), ofLE_take_lt (enough 12 (by omega)), ?_⟩,
            octets.drop (ofLE (octets.take 8)), ?_⟩
          · rw [stated]
            exact ofLE_take_lt (by omega)
          · rw [layout, stated, le_ofLE_take (by omega), le_ofLE_take (enough 8 (by omega)),
              le_ofLE_take (enough 12 (by omega)), header_append_data (by omega),
              List.take_append_drop]
  · intro h
    obtain ⟨fits, rest, split⟩ := h
    rw [split]
    exact read?_layout rest fits.level fits.type fits.length

/-! ### Destinations -/

/-- Whether a record is meant to state a destination. -/
def IsDestination (r : ControlRecord) : Prop :=
  (r.level = 0 ∧ r.type = 20) ∨ (r.level = 41 ∧ r.type = 74)

/-- Whether a record is meant to state a destination, long enough to do so, and of the right
family. -/
def IsWhole (r : ControlRecord) : Prop :=
  (r.level = 0 ∧ r.type = 20 ∧ 8 ≤ r.data.length ∧ ofLE (r.data.take 2) = 2)
    ∨ (r.level = 41 ∧ r.type = 74 ∧ 24 ≤ r.data.length ∧ ofLE (r.data.take 2) = 10)

/-- The destination that a record states: after the family in two octets the port, and then for IPv4
the host, for IPv6 four octets of no interest and the host. -/
inductive States : ControlRecord → Address → Prop where
  | v4 (port : UInt16) (ip : Ip.V4) (more : Bytes) :
      States ⟨0, 20, [2, 0] ++ be16 port ++ ip.octets ++ more⟩ (.v4 ip port)
  | v6 (port : UInt16) {flow : Bytes} (four : flow.length = 4) (ip : Ip.V6) (more : Bytes) :
      States ⟨41, 74, [10, 0] ++ be16 port ++ flow ++ ip.octets ++ more⟩ (.ofIp (.v6 ip) port)

variable {r : ControlRecord} {a : Address} {variety : Variety}

theorem variety?_eq_none_iff : r.variety? = none ↔ ¬ r.IsDestination := by
  simp only [variety?, IsDestination]
  by_cases v4 : r.level = 0 ∧ r.type = 20
  · simp [v4]
  · by_cases v6 : r.level = 41 ∧ r.type = 74
    · simp [v6]
    · simp [v4, v6]

theorem exists_variety? (isDestination : r.IsDestination) : ∃ variety, r.variety? = some variety := by
  cases found : r.variety? with
  | none => exact absurd isDestination (variety?_eq_none_iff.mp found)
  | some variety => exact ⟨variety, rfl⟩

theorem destination_of_made {data : Bytes} (enough : variety.needed ≤ data.length)
    (family : ofLE (data.take 2) = variety.family)
    (made : Address.ofOctets (variety.host data) (portOf data) = .ok a) :
    destination variety data = .ok a := by
  have notShort : ¬ data.length < variety.needed := by omega
  simp only [destination, if_neg notShort, family, ne_eq, not_true_eq_false, if_false, made]

theorem destination_malformed {data : Bytes}
    (unfit : data.length < variety.needed ∨ ofLE (data.take 2) ≠ variety.family) :
    ∃ defect, destination variety data = .error (.malformed defect) := by
  by_cases short : data.length < variety.needed
  · exact ⟨_, by rw [destination, if_pos short]⟩
  · have wrong : ofLE (data.take 2) ≠ variety.family := unfit.resolve_left short
    refine ⟨.wrongFamily variety.tag (ofLE (data.take 2)), ?_⟩
    simp only [destination, if_neg short, if_pos wrong]

theorem destination_v4 (port : UInt16) (ip : Ip.V4) (more : Bytes) :
    destination .v4 ([2, 0] ++ be16 port ++ ip.octets ++ more) = .ok (.v4 ip port) := by
  have stated : portOf ([2, 0] ++ be16 port ++ ip.octets ++ more) = port := Bytes.ofBE16_be16 port
  refine destination_of_made ?_ rfl ?_
  · simp only [List.length_append, Ip.V4.length_octets, Bytes.length_be16]
    show 8 ≤ 2 + 2 + 4 + more.length
    omega
  · rw [stated]
    rfl

theorem destination_v6 (port : UInt16) {flow : Bytes} (four : flow.length = 4) (ip : Ip.V6)
    (more : Bytes) :
    destination .v6 ([10, 0] ++ be16 port ++ flow ++ ip.octets ++ more)
      = .ok (.ofIp (.v6 ip) port) := by
  have stated : portOf ([10, 0] ++ be16 port ++ flow ++ ip.octets ++ more) = port :=
    Bytes.ofBE16_be16 port
  have eight : ([10, 0] ++ be16 port ++ flow).length = 8 := by
    rw [List.length_append, four]
    rfl
  have host : Variety.v6.host ([10, 0] ++ be16 port ++ flow ++ ip.octets ++ more) = ip.octets := by
    rw [Variety.host, List.append_assoc, List.drop_left' eight, List.take_left' ip.length_octets]
  refine destination_of_made ?_ rfl ?_
  · rw [List.length_append, List.length_append, eight, ip.length_octets]
    show 24 ≤ 8 + 16 + more.length
    omega
  · rw [host, stated]
    exact Address.ofForm_v6 ip port

theorem drop_eq_append (data : Bytes) (offset count : Nat) :
    data.drop offset = (data.drop offset).take count ++ data.drop (offset + count) := by
  rw [← List.drop_drop, List.take_append_drop]

/-- Data that are long enough start with the family and the port. -/
theorem exists_family_port {data : Bytes} {family : Nat} (enough : 4 ≤ data.length)
    (stated : ofLE (data.take 2) = family) :
    ∃ port, data = le 2 family ++ be16 port ++ data.drop 4 := by
  obtain ⟨port, two⟩ : ∃ port, be16 port = (data.drop 2).take 2 := by
    apply Address.exists_be16_eq
    simp only [List.length_take, List.length_drop]
    omega
  have front : le 2 family = data.take 2 := by
    rw [← stated]
    exact le_ofLE_take (by omega)
  refine ⟨port, ?_⟩
  rw [front, two, List.append_assoc, ← drop_eq_append data 2 2, List.take_append_drop]

theorem exists_states_v4 {data : Bytes} (enough : 8 ≤ data.length)
    (family : ofLE (data.take 2) = 2) : ∃ a, States ⟨0, 20, data⟩ a := by
  obtain ⟨port, front⟩ := exists_family_port (by omega) family
  obtain ⟨ip, host⟩ : ∃ ip : Ip.V4, ip.octets = (data.drop 4).take 4 := by
    apply Ip.V4.exists_octets_eq
    simp only [List.length_take, List.length_drop]
    omega
  have split : data = [2, 0] ++ be16 port ++ ip.octets ++ data.drop 8 := by
    rw [host, List.append_assoc, ← drop_eq_append data 4 4]
    exact front
  rw [split]
  exact ⟨_, .v4 port ip _⟩

theorem exists_states_v6 {data : Bytes} (enough : 24 ≤ data.length)
    (family : ofLE (data.take 2) = 10) : ∃ a, States ⟨41, 74, data⟩ a := by
  obtain ⟨port, front⟩ := exists_family_port (by omega) family
  have four : ((data.drop 4).take 4).length = 4 := by
    simp only [List.length_take, List.length_drop]
    omega
  obtain ⟨ip, host⟩ : ∃ ip : Ip.V6, ip.octets = (data.drop 8).take 16 := by
    apply Ip.V6.exists_octets_eq
    simp only [List.length_take, List.length_drop]
    omega
  have split : data
      = [10, 0] ++ be16 port ++ (data.drop 4).take 4 ++ ip.octets ++ data.drop 24 := by
    rw [host, List.append_assoc, ← drop_eq_append data 8 16, List.append_assoc,
      ← drop_eq_append data 4 4]
    exact front
  rw [split]
  exact ⟨_, .v6 port four ip _⟩

/-- A record states a destination if it is long enough and of the right family. -/
theorem IsWhole.exists_states (whole : r.IsWhole) : ∃ a, r.States a := by
  rcases r with ⟨level, type, data⟩
  rcases whole with ⟨rfl, rfl, enough, family⟩ | ⟨rfl, rfl, enough, family⟩
  · exact exists_states_v4 enough family
  · exact exists_states_v6 enough family

theorem States.isWhole (states : r.States a) : r.IsWhole := by
  cases states with
  | v4 port ip more =>
    refine .inl ⟨rfl, rfl, ?_, rfl⟩
    simp only [List.length_append, Ip.V4.length_octets, Bytes.length_be16]
    show 8 ≤ 2 + 2 + 4 + more.length
    omega
  | v6 port four ip more =>
    refine .inr ⟨rfl, rfl, ?_, rfl⟩
    simp only [List.length_append, Ip.V6.length_octets, Bytes.length_be16, four]
    show 24 ≤ 2 + 2 + 4 + 16 + more.length
    omega

theorem IsWhole.isDestination (whole : r.IsWhole) : r.IsDestination := by
  rcases whole with ⟨level, type, _, _⟩ | ⟨level, type, _, _⟩
  · exact .inl ⟨level, type⟩
  · exact .inr ⟨level, type⟩

/-- What a record states is read from it. -/
theorem States.destination_eq (states : r.States a) (found : r.variety? = some variety) :
    destination variety r.data = .ok a := by
  cases states with
  | v4 port ip more =>
    cases found
    exact destination_v4 port ip more
  | v6 port four ip more =>
    cases found
    exact destination_v6 port four ip more

theorem destination_malformed_of_not_isWhole (found : r.variety? = some variety)
    (unfit : ¬ r.IsWhole) : ∃ defect, destination variety r.data = .error (.malformed defect) := by
  apply destination_malformed
  by_contra fit
  obtain ⟨enough, family⟩ := not_or.mp fit
  apply unfit
  simp only [variety?] at found
  split at found
  · rename_i v4
    cases found
    exact .inl ⟨v4.1, v4.2, by simpa [Variety.needed] using enough,
      by simpa [Variety.family] using family⟩
  · split at found
    · rename_i v6
      cases found
      exact .inr ⟨v6.1, v6.2, by simpa [Variety.needed] using enough,
        by simpa [Variety.family] using family⟩
    · cases found

/-- **The destination of a record** is what the record states. -/
theorem destination_eq_ok_iff (found : r.variety? = some variety) :
    destination variety r.data = .ok a ↔ r.States a := by
  constructor
  · intro read
    by_cases whole : r.IsWhole
    · obtain ⟨b, states⟩ := whole.exists_states
      have same := states.destination_eq found
      rw [read] at same
      cases same
      exact states
    · obtain ⟨defect, malformed⟩ := destination_malformed_of_not_isWhole found whole
      rw [read] at malformed
      cases malformed
  · intro states
    exact states.destination_eq found

/-! ### The walk over the records -/

/-- **Padded records** that state no destination are passed over. -/
theorem statedDestination_padded {records : List ControlRecord} {octets : Bytes}
    (padded : Padded records octets) (others : ∀ r ∈ records, ¬ r.IsDestination) (rest : Bytes) :
    statedDestination (octets ++ rest) = statedDestination rest := by
  induction padded with
  | nil => rfl
  | @cons r padding octets records fits fills padded ih =>
    obtain ⟨other, later⟩ := List.forall_mem_cons.mp others
    have split : r.layout ++ padding ++ octets ++ rest
        = r.layout ++ (padding ++ (octets ++ rest)) := by simp only [List.append_assoc]
    have read := read?_eq_ok_iff.mpr ⟨fits, padding ++ (octets ++ rest), split⟩
    have passed : (r.layout ++ padding).length = aligned r.length := by
      rw [List.length_append, length_layout, fills_iff.mp fills]
    rw [statedDestination_skip read (variety?_eq_none_iff.mpr other), List.append_assoc,
      List.drop_left' passed]
    exact ih later

theorem statedDestination_laidOut {records : List ControlRecord} {control : Bytes}
    (laidOut : LaidOut records control) (others : ∀ r ∈ records, ¬ r.IsDestination) :
    statedDestination control = .error .missing := by
  cases laidOut with
  | padded padded =>
    have passed := statedDestination_padded padded others []
    rwa [List.append_nil, statedDestination_nil] at passed
  | @cut r padding missing octets records padded fits fills =>
    -- the walk steps over the last record and whatever padding it has, to the end of the octets
    have last : ¬ r.IsDestination := others r (by simp)
    have read := read?_eq_ok_iff.mpr ⟨fits, padding, rfl⟩
    rw [statedDestination_padded padded fun b member => others b (by simp [member]),
      statedDestination_skip read (variety?_eq_none_iff.mpr last), List.drop_eq_nil_of_le,
      statedDestination_nil]
    have upTo := fills_iff.mp fills
    rw [List.length_append] at upTo
    rw [List.length_append, length_layout]
    omega

theorem statedDestination_of_first {before : List ControlRecord} {front : Bytes}
    (padded : Padded before front) (others : ∀ b ∈ before, ¬ b.IsDestination) (fits : r.Fits)
    (found : r.variety? = some variety) (rest : Bytes) :
    statedDestination (front ++ r.layout ++ rest) = destination variety r.data := by
  have read := read?_eq_ok_iff.mpr ⟨fits, rest, rfl⟩
  rw [List.append_assoc, statedDestination_padded padded others, statedDestination_match read found]

/-- What is passed over together with a record is the record and its padding, unless the octets end
there. -/
theorem exists_padding {control behind : Bytes} (read : read? control = .ok r)
    (passed : control.drop (aligned r.length) = behind) (more : behind ≠ []) :
    ∃ padding, r.Fills padding ∧ control = r.layout ++ padding ++ behind := by
  obtain ⟨_, rest, split⟩ := read?_eq_ok_iff.mp read
  have covered := le_aligned r.length
  have inside : aligned r.length < control.length := by
    by_contra outside
    apply more
    rw [← passed]
    exact List.drop_eq_nil_of_le (by omega)
  have total : control.length = r.length + rest.length := by
    rw [split, List.length_append, length_layout]
  have drops : rest.drop (aligned r.length - r.length) = behind := by
    have nothing : r.layout.drop (aligned r.length) = [] := by
      apply List.drop_eq_nil_of_le
      rwa [length_layout]
    rw [← passed, split, List.drop_append, nothing, length_layout, List.nil_append]
  refine ⟨rest.take (aligned r.length - r.length), ?_, ?_⟩
  · rw [fills_iff, List.length_take]
    omega
  · rw [split, List.append_assoc, ← drops, List.take_append_drop]

/-- **Where a destination comes from.** A destination that was found in any octets is what the first
record that is meant to state one states. -/
theorem exists_first_match {control : Bytes} (h : statedDestination control = .ok a) :
    ∃ (before : List ControlRecord) (front : Bytes) (r : ControlRecord) (rest : Bytes),
      Padded before front ∧ (∀ b ∈ before, ¬ b.IsDestination) ∧ r.Fits
      ∧ control = front ++ r.layout ++ rest ∧ r.States a := by
  fun_induction statedDestination control with
  | case1 => cases h
  | case2 b rest defect read => cases h
  | case3 b rest r read variety found =>
    obtain ⟨fits, behind, split⟩ := read?_eq_ok_iff.mp read
    exact ⟨[], [], r, behind, .nil, by simp, fits, split, (destination_eq_ok_iff found).mp h⟩
  | case4 b rest r read other ih =>
    obtain ⟨before, front, first, after, padded, others, firstFits, behind, states⟩ := ih h
    have more : front ++ first.layout ++ after ≠ [] := by
      intro empty
      have nothing := congrArg List.length empty
      have header : headerLength ≤ first.length := Nat.le_add_right _ _
      simp only [List.length_append, length_layout, List.length_nil, headerLength] at nothing header
      omega
    obtain ⟨padding, fills, split⟩ := exists_padding read behind more
    refine ⟨r :: before, r.layout ++ padding ++ front, first, after,
      .cons (read?_eq_ok_iff.mp read).1 fills padded, ?_, firstFits, ?_, states⟩
    · exact List.forall_mem_cons.mpr ⟨variety?_eq_none_iff.mp other, others⟩
    · rw [split]
      simp only [List.append_assoc]

/-! ### The law -/

/-- **The first match decides.** Octets of records none of which is meant to state a destination have
none. With anything behind it, the first record that is meant to state one decides the answer: the
destination that it states, which there is exactly if it is long enough and of the right family, and
otherwise that it is malformed. And a destination that is found in any octets whatever is the one
stated by the first such record in them. -/
theorem first_match_decides :
    (∀ (records : List ControlRecord) (control : Bytes), LaidOut records control →
      (∀ r ∈ records, ¬ r.IsDestination) → statedDestination control = .error .missing)
    ∧ (∀ (before : List ControlRecord) (front : Bytes) (r : ControlRecord) (rest : Bytes),
      Padded before front → (∀ b ∈ before, ¬ b.IsDestination) → r.Fits → r.IsDestination →
      (∀ a, statedDestination (front ++ r.layout ++ rest) = .ok a ↔ r.States a)
        ∧ ((∃ a, statedDestination (front ++ r.layout ++ rest) = .ok a) ↔ r.IsWhole)
        ∧ (¬ r.IsWhole → ∃ defect,
          statedDestination (front ++ r.layout ++ rest) = .error (.malformed defect)))
    ∧ (∀ control a, statedDestination control = .ok a →
      ∃ (before : List ControlRecord) (front : Bytes) (r : ControlRecord) (rest : Bytes),
        Padded before front ∧ (∀ b ∈ before, ¬ b.IsDestination) ∧ r.Fits
        ∧ control = front ++ r.layout ++ rest ∧ r.States a) := by
  refine ⟨fun records control => statedDestination_laidOut, ?_, fun control a => exists_first_match⟩
  intro before front r rest padded others fits isDestination
  obtain ⟨variety, found⟩ := exists_variety? isDestination
  have decided := statedDestination_of_first padded others fits found rest
  rw [decided]
  refine ⟨fun a => destination_eq_ok_iff found, ?_, destination_malformed_of_not_isWhole found⟩
  constructor
  · intro found
    obtain ⟨a, read⟩ := found
    exact ((destination_eq_ok_iff found).mp read).isWhole
  · intro whole
    obtain ⟨a, states⟩ := whole.exists_states
    exact ⟨a, states.destination_eq found⟩

/-- A record of five octets with its padding, a destination of twenty octets, and half a header. -/
theorem first_match_behind_padding :
    let other : ControlRecord := ⟨1, 29, [7, 7, 7, 7, 7]⟩
    let stated : ControlRecord := ⟨0, 20, [2, 0, 31, 144, 10, 0, 0, 1, 9, 9, 9]⟩
    let front := other.layout ++ [1, 2, 3] ++ []
    statedDestination (front ++ stated.layout ++ [255, 0, 0])
        = .ok (.v4 ⟨10, 0, 0, 1⟩ 8080)
      ∧ statedDestination (other.layout ++ [1]) = .error .missing := by
  intro other stated front
  have fitsOther : other.Fits := ⟨by decide, by decide, by decide⟩
  have fits : stated.Fits := ⟨by decide, by decide, by decide⟩
  have fills : other.Fills [1, 2, 3] := ⟨by decide, by decide⟩
  have padded : Padded [other] front := .cons fitsOther fills .nil
  have others : ∀ b ∈ [other], ¬ b.IsDestination := by simp [IsDestination, other]
  have states : stated.States (.v4 ⟨10, 0, 0, 1⟩ 8080) := .v4 8080 ⟨10, 0, 0, 1⟩ [9, 9, 9]
  have cut : LaidOut ([] ++ [other]) ([] ++ (other.layout ++ [1])) :=
    @LaidOut.cut other [1] [2, 3] [] [] .nil fitsOther fills
  obtain ⟨missing, decides, _⟩ := first_match_decides
  obtain ⟨answer, _, _⟩ := decides _ _ _ [255, 0, 0] padded others fits states.isWhole.isDestination
  exact ⟨(answer _).mpr states, missing _ _ cut others⟩

end Intercept.ControlRecord
