import Intercept.Address
import Intercept.Failure.Recovery

/-!
# Control records

Beside a datagram the system delivers control records: eight octets of length, four of level, four
of type (each low octet first), data, and padding up to the next multiple of eight. The length
counts the header and the data. Of interest is the record that states where a datagram was sent to;
there is one variety for IPv4 and one for IPv6, and the first of either variety decides. Main
statements: `read?_layout`, a record laid out with anything behind it is read back, and
`statedDestination_skip` and `statedDestination_match`, by which the walk over the records is
decided by the first match.
-/

namespace Intercept

/-- A control record. -/
structure ControlRecord where
  level : Nat
  type : Nat
  data : Bytes
deriving DecidableEq

namespace ControlRecord

def headerLength : Nat := 16

/-- The least multiple of eight that is not below a length. -/
def aligned (length : Nat) : Nat := (length + 7) / 8 * 8

theorem le_aligned (length : Nat) : length ≤ aligned length := by
  simp only [aligned]
  omega

/-! ### Layout -/

def length (r : ControlRecord) : Nat := headerLength + r.data.length

/-- The octets of a record, without padding. -/
def layout (r : ControlRecord) : Bytes :=
  Bytes.le 8 r.length ++ Bytes.le 4 r.level ++ Bytes.le 4 r.type ++ r.data

/-- The record at the front of the octets. -/
def read? (octets : Bytes) : Except Failure.Recovery.Defect ControlRecord :=
  if octets.length < headerLength then
    .error (.short "control message header" headerLength octets.length)
  else
    let length := Bytes.ofLE (octets.take 8)
    if length < headerLength then .error (.lengthBelowHeader length)
    else if octets.length < length then .error (.short "control message" length octets.length)
    else .ok {
      level := Bytes.ofLE ((octets.drop 8).take 4)
      type := Bytes.ofLE ((octets.drop 12).take 4)
      data := (octets.take length).drop headerLength }

/-- A record that was read is no longer than the octets it was read from. -/
theorem length_le_of_read? {octets : Bytes} {r : ControlRecord} (h : read? octets = .ok r) :
    r.length ≤ octets.length ∧ headerLength ≤ r.length := by
  simp only [read?] at h
  split at h
  · cases h
  · split at h
    · cases h
    · split at h
      · cases h
      · cases h
        simp only [ControlRecord.length, List.length_drop, List.length_take]
        omega

/-- **Layout and reading.** A record laid out in front of any octets is read back. -/
theorem read?_layout {r : ControlRecord} (rest : Bytes) (level : r.level < Bytes.capacity 4)
    (type : r.type < Bytes.capacity 4) (length : r.length < Bytes.capacity 8) :
    read? (r.layout ++ rest) = .ok r := by
  have shape : r.layout ++ rest
      = Bytes.le 8 r.length ++ (Bytes.le 4 r.level ++ (Bytes.le 4 r.type ++ (r.data ++ rest))) := by
    simp [layout]
  have total : (r.layout ++ rest).length = r.length + rest.length := by
    simp only [shape, List.length_append, Bytes.length_le, ControlRecord.length, headerLength]
    omega
  have front : (r.layout ++ rest).take 8 = Bytes.le 8 r.length := by
    rw [shape, List.take_left' (Bytes.length_le 8 _)]
  have after8 : (r.layout ++ rest).drop 8
      = Bytes.le 4 r.level ++ (Bytes.le 4 r.type ++ (r.data ++ rest)) := by
    rw [shape, List.drop_left' (Bytes.length_le 8 _)]
  have after12 : (r.layout ++ rest).drop 12 = Bytes.le 4 r.type ++ (r.data ++ rest) := by
    rw [show 12 = 8 + 4 from rfl, ← List.drop_drop, after8, List.drop_left' (Bytes.length_le 4 _)]
  have after16 : (r.layout ++ rest).drop 16 = r.data ++ rest := by
    rw [show 16 = 12 + 4 from rfl, ← List.drop_drop, after12,
      List.drop_left' (Bytes.length_le 4 _)]
  have covered : 16 ≤ r.length := Nat.le_add_right 16 _
  have data : ((r.layout ++ rest).take r.length).drop headerLength = r.data := by
    rw [List.drop_take, headerLength, after16]
    exact List.take_left' (by simp [ControlRecord.length, headerLength])
  have statedLength : Bytes.ofLE (Bytes.le 8 r.length) = r.length := Bytes.ofLE_le length
  have statedLevel : Bytes.ofLE (Bytes.le 4 r.level) = r.level := Bytes.ofLE_le level
  have statedType : Bytes.ofLE (Bytes.le 4 r.type) = r.type := Bytes.ofLE_le type
  unfold read?
  rw [total, front, after8, after12, List.take_left' (Bytes.length_le 4 _),
    List.take_left' (Bytes.length_le 4 _), statedLength, statedLevel, statedType]
  dsimp only
  rw [data, if_neg (by simp only [headerLength]; omega),
    if_neg (by simp only [headerLength]; omega),
    if_neg (by omega)]

/-! ### Destination records -/

/-- The two varieties of records that state a destination. -/
inductive Variety where
  | v4
  | v6
deriving DecidableEq

/-- The variety of a record, if it states a destination. -/
def variety? (r : ControlRecord) : Option Variety :=
  if r.level = 0 ∧ r.type = 20 then some .v4
  else if r.level = 41 ∧ r.type = 74 then some .v6
  else none

namespace Variety

def name : Variety → String
  | .v4 => "IP_ORIGDSTADDR record"
  | .v6 => "IPV6_ORIGDSTADDR record"

/-- The name of a variety of records without the word for a record. -/
def tag : Variety → String
  | .v4 => "IP_ORIGDSTADDR"
  | .v6 => "IPV6_ORIGDSTADDR"

/-- The number of octets that a destination of a variety needs. -/
def needed : Variety → Nat
  | .v4 => 8
  | .v6 => 24

def family : Variety → Nat
  | .v4 => 2
  | .v6 => 10

/-- Where the octets of the host stand in a destination of a variety. -/
def host : Variety → Bytes → Bytes
  | .v4, data => (data.drop 4).take 4
  | .v6, data => (data.drop 8).take 16

end Variety

def portOf (data : Bytes) : UInt16 :=
  match data.drop 2 with
  | high :: low :: _ => Bytes.ofBE16 high low
  | _ => 0

/-- The destination that the data of a record of the given variety state. -/
def destination (variety : Variety) (data : Bytes) : Except Failure.Recovery Address :=
  if data.length < variety.needed then
    .error (.malformed (.short variety.name variety.needed data.length))
  else
    let family := Bytes.ofLE (data.take 2)
    if family ≠ variety.family then .error (.malformed (.wrongFamily variety.tag family))
    else match Address.ofOctets (variety.host data) (portOf data) with
      | .ok a => .ok a
      | .error _ => .error (.malformed (.short variety.name variety.needed data.length))

/-- The destination that the first matching record states. -/
def statedDestination (control : Bytes) : Except Failure.Recovery Address :=
  match control with
  | [] => .error .missing
  | b :: rest =>
    match _read : read? (b :: rest) with
    | .error defect => .error (.malformed defect)
    | .ok r => match r.variety? with
      | some variety => destination variety r.data
      | none => statedDestination ((b :: rest).drop (aligned r.length))
termination_by control.length
decreasing_by
  have bounds := length_le_of_read? _read
  have := le_aligned r.length
  simp only [headerLength] at bounds
  simp only [List.length_drop, List.length_cons]
  omega

theorem statedDestination_nil : statedDestination [] = .error .missing := by
  rw [statedDestination]

/-- A defect of the first record is the answer. -/
theorem statedDestination_defect {control : Bytes} {defect : Failure.Recovery.Defect}
    (nonempty : control ≠ []) (h : read? control = .error defect) :
    statedDestination control = .error (.malformed defect) := by
  cases control with
  | nil => exact absurd rfl nonempty
  | cons b rest =>
    rw [statedDestination]
    split
    · rename_i d hd; rw [h] at hd; cases hd; rfl
    · rename_i r hr; rw [h] at hr; cases hr

/-- **First match.** A matching first record decides, whatever follows it. -/
theorem statedDestination_match {control : Bytes} {r : ControlRecord} {variety : Variety}
    (h : read? control = .ok r) (matching : r.variety? = some variety) :
    statedDestination control = destination variety r.data := by
  cases control with
  | nil => simp [read?, headerLength] at h
  | cons b rest =>
    rw [statedDestination]
    split
    · rename_i d hd; rw [h] at hd; cases hd
    · rename_i r' hr
      rw [h] at hr
      cases hr
      simp only [matching]

/-- **No match.** Any other first record is passed over together with its padding. -/
theorem statedDestination_skip {control : Bytes} {r : ControlRecord}
    (h : read? control = .ok r) (other : r.variety? = none) :
    statedDestination control = statedDestination (control.drop (aligned r.length)) := by
  cases control with
  | nil => simp [read?, headerLength] at h
  | cons b rest =>
    rw [statedDestination]
    split
    · rename_i d hd; rw [h] at hd; cases hd
    · rename_i r' hr
      rw [h] at hr
      cases hr
      simp only [other]

end ControlRecord

end Intercept
