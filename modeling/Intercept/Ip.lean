import Intercept.Bytes

/-!
# Internet addresses

An IPv4 address is four octets, an IPv6 address eight groups of two octets. The IPv6 addresses
`::ffff:a.b.c.d` stand for IPv4 addresses; `Ip.collapse` replaces each of them by the IPv4 address
it stands for, and a value that `collapse` leaves alone is canonical. Main statements:
`mapped?_eq_some_iff`, which says what the mapped addresses look like, and `collapse_collapse`.
-/

namespace Intercept

/-- An IPv4 address: four octets in the order in which they are written. -/
structure Ip.V4 where
  a : UInt8
  b : UInt8
  c : UInt8
  d : UInt8
deriving DecidableEq

/-- An IPv6 address: eight groups in the order in which they are written. -/
structure Ip.V6 where
  g0 : UInt16
  g1 : UInt16
  g2 : UInt16
  g3 : UInt16
  g4 : UInt16
  g5 : UInt16
  g6 : UInt16
  g7 : UInt16
deriving DecidableEq

inductive Ip where
  | v4 (ip : Ip.V4)
  | v6 (ip : Ip.V6)
deriving DecidableEq

namespace Ip

/-! ### IPv4 -/

namespace V4

def octets (ip : V4) : Bytes := [ip.a, ip.b, ip.c, ip.d]

def unspecified : V4 := ⟨0, 0, 0, 0⟩

@[simp]
theorem length_octets (ip : V4) : ip.octets.length = 4 := rfl

end V4

/-! ### IPv6 -/

namespace V6

def groups (ip : V6) : List UInt16 := [ip.g0, ip.g1, ip.g2, ip.g3, ip.g4, ip.g5, ip.g6, ip.g7]

def octets (ip : V6) : Bytes := ip.groups.flatMap Bytes.be16

/-- The address with the given eight groups, `none` if there are not eight. -/
def ofGroups? : List UInt16 → Option V6
  | [g0, g1, g2, g3, g4, g5, g6, g7] => some ⟨g0, g1, g2, g3, g4, g5, g6, g7⟩
  | _ => none

/-- The groups that pairs of octets spell; a last single octet is dropped. -/
def groupsOf : Bytes → List UInt16
  | high :: low :: rest => Bytes.ofBE16 high low :: groupsOf rest
  | _ => []

/-- The address with the given sixteen octets, `none` if there are not sixteen. -/
def ofOctets? (bytes : Bytes) : Option V6 :=
  if bytes.length = 16 then ofGroups? (groupsOf bytes) else none

def unspecified : V6 := ⟨0, 0, 0, 0, 0, 0, 0, 0⟩

/-- The IPv6 address that stands for an IPv4 address. -/
def mapped (ip : V4) : V6 :=
  ⟨0, 0, 0, 0, 0, 0xffff, Bytes.ofBE16 ip.a ip.b, Bytes.ofBE16 ip.c ip.d⟩

/-- The IPv4 address whose octets are those of two groups. -/
def tail (high low : UInt16) : V4 :=
  ⟨UInt8.ofNat (high.toNat / 256), UInt8.ofNat (high.toNat % 256),
    UInt8.ofNat (low.toNat / 256), UInt8.ofNat (low.toNat % 256)⟩

/-- The IPv4 address that an IPv6 address stands for, if it stands for one. -/
def mapped? (ip : V6) : Option V4 :=
  if ip.g0 = 0 ∧ ip.g1 = 0 ∧ ip.g2 = 0 ∧ ip.g3 = 0 ∧ ip.g4 = 0 ∧ ip.g5 = 0xffff then
    some (tail ip.g6 ip.g7)
  else none

@[simp]
theorem length_octets (ip : V6) : ip.octets.length = 16 := rfl

theorem groupsOf_flatMap_be16 (gs : List UInt16) : groupsOf (gs.flatMap Bytes.be16) = gs := by
  induction gs with
  | nil => rfl
  | cons g rest ih =>
    show Bytes.ofBE16 _ _ :: groupsOf (rest.flatMap Bytes.be16) = g :: rest
    rw [Bytes.ofBE16_be16, ih]

theorem ofOctets?_octets (ip : V6) : ofOctets? ip.octets = some ip := by
  rw [ofOctets?, if_pos (length_octets ip), octets, groupsOf_flatMap_be16]
  rfl

theorem tail_ofBE16 (ip : V4) :
    tail (Bytes.ofBE16 ip.a ip.b) (Bytes.ofBE16 ip.c ip.d) = ip := by
  have front := Bytes.be16_ofBE16 ip.a ip.b
  have back := Bytes.be16_ofBE16 ip.c ip.d
  simp only [Bytes.be16, List.cons.injEq, and_true] at front back
  simp [tail, front, back]

/-- **Mapped addresses.** An IPv6 address stands for an IPv4 address exactly when it is the image of
that address. -/
theorem mapped?_eq_some_iff {ip : V6} {v4 : V4} : ip.mapped? = some v4 ↔ ip = mapped v4 := by
  constructor
  · intro h
    rw [mapped?] at h
    split at h
    · rename_i zeros
      rcases ip with ⟨g0, g1, g2, g3, g4, g5, g6, g7⟩
      rcases zeros with ⟨rfl, rfl, rfl, rfl, rfl, rfl⟩
      cases h
      simp [mapped, tail, Bytes.ofBE16_be16]
    · cases h
  · rintro rfl
    simp [mapped?, mapped, tail_ofBE16]

end V6

/-! ### Both families -/

inductive Family where
  | ipv4
  | ipv6
deriving DecidableEq

def family : Ip → Family
  | .v4 _ => .ipv4
  | .v6 _ => .ipv6

def Family.name : Family → String
  | .ipv4 => "ipv4"
  | .ipv6 => "ipv6"

def octets : Ip → Bytes
  | .v4 ip => ip.octets
  | .v6 ip => ip.octets

/-- Replaces an IPv6 address that stands for an IPv4 address by that IPv4 address. -/
def collapse : Ip → Ip
  | .v4 ip => .v4 ip
  | .v6 ip => match ip.mapped? with
    | some plain => .v4 plain
    | none => .v6 ip

def unspecified : Family → Ip
  | .ipv4 => .v4 .unspecified
  | .ipv6 => .v6 .unspecified

def isUnspecified (ip : Ip) : Bool := ip = unspecified ip.family

@[simp]
theorem family_unspecified (f : Family) : (unspecified f).family = f := by cases f <;> rfl

@[simp]
theorem collapse_v4 (ip : V4) : collapse (.v4 ip) = .v4 ip := rfl

theorem collapse_v6_of_mapped? {ip : V6} {plain : V4} (h : ip.mapped? = some plain) :
    collapse (.v6 ip) = .v4 plain := by
  simp [collapse, h]

theorem collapse_v6_of_mapped?_none {ip : V6} (h : ip.mapped? = none) :
    collapse (.v6 ip) = .v6 ip := by
  simp [collapse, h]

theorem collapse_collapse (ip : Ip) : ip.collapse.collapse = ip.collapse := by
  cases ip with
  | v4 ip => rfl
  | v6 ip =>
    cases h : ip.mapped? with
    | some plain => rw [collapse_v6_of_mapped? h, collapse_v4]
    | none => rw [collapse_v6_of_mapped?_none h, collapse_v6_of_mapped?_none h]

end Ip

end Intercept
