import Intercept.Json

/-!
# Records in JSON

A record of named fields is given as an object or as an array. In an object, members that are no
field of the record are passed over, no field may occur twice, and every key must have a content. In
an array the elements are the fields in order; there may be fewer elements than fields, but not
more. What is not given may have a default.
-/

namespace Intercept.Json

/-- The fields of a record that are given, with their values. -/
structure Record where
  given : List (String × Json)

namespace Record

def get? (r : Record) (name : String) : Option Json := (r.given.find? (·.1 == name)).map (·.2)

/-- Takes the members of an object one after the other. -/
def ofMembers? (names : List String) : Record → List (Option String × Json) → Option Record
  | r, [] => some r
  | _, (none, _) :: _ => none
  | r, (some key, value) :: rest =>
    if key ∈ names then
      match r.get? key with
      | some _ => none
      | none => ofMembers? names ⟨r.given ++ [(key, value)]⟩ rest
    else ofMembers? names r rest

/-- The record with the given field names that a value is. -/
def ofJson? (names : List String) : Json → Option Record
  | .object members => ofMembers? names ⟨[]⟩ members
  | .array elements =>
    if elements.length ≤ names.length then some ⟨names.zip elements⟩ else none
  | _ => none

/-- A field that has to be given. -/
def required {α : Type} (r : Record) (name : String) (read : Json → Option α) : Option α :=
  (r.get? name).bind read

/-- A field that has a default. -/
def defaulted {α : Type} (r : Record) (name : String) (default : α) (read : Json → Option α) :
    Option α :=
  match r.get? name with
  | some value => read value
  | none => some default

end Record

/-! ### Values of fields -/

def bool? : Json → Option Bool
  | .bool b => some b
  | _ => none

/-- A natural that is at most `max`. -/
def natural? (max : Nat) : Json → Option Nat
  | .natural n => if n ≤ max then some n else none
  | _ => none

def word32? (v : Json) : Option UInt32 := (natural? 4294967295 v).map UInt32.ofNat

def word64? (v : Json) : Option UInt64 := (natural? 18446744073709551615 v).map UInt64.ofNat

def string? : Json → Option String
  | .string content => content
  | _ => none

/-- One of several names: a string, or an object whose only member has the name as its key and null
as its value. -/
def name? : Json → Option String
  | .string content => content
  | .object [(key, .null)] => key
  | _ => none

@[simp]
theorem word32?_natural (n : UInt32) : word32? (.natural n.toNat) = some n := by
  have := n.toNat_lt
  have fits : n.toNat ≤ 4294967295 := by omega
  simp [word32?, natural?, fits]

@[simp]
theorem word64?_natural (n : UInt64) : word64? (.natural n.toNat) = some n := by
  have := n.toNat_lt
  have fits : n.toNat ≤ 18446744073709551615 := by omega
  simp [word64?, natural?, fits]

end Intercept.Json
