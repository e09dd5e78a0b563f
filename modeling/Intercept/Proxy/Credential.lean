import Intercept.Failure.Negotiation
import Intercept.Text.Quoted
import Intercept.Text.Utf8

/-!
# Credentials

A username and a password for the proxy. The password method is offered only if both are given; the
proof of identity is written with a length octet before each field, so neither may exceed 255
octets.
-/

namespace Intercept.Proxy

/-- The version octet of the proxy protocol. -/
def version : UInt8 := 5

/-- The version octet of the password exchange. -/
def passwordVersion : UInt8 := 1

/-- The ways in which a client may identify itself. -/
inductive Method where
  | anonymous
  | password
deriving DecidableEq

namespace Method

def code : Method → UInt8
  | .anonymous => 0
  | .password => 2

def ofCode? (code : UInt8) : Option Method :=
  if code = 0 then some .anonymous else if code = 2 then some .password else none

@[simp]
theorem ofCode?_code (m : Method) : ofCode? m.code = some m := by cases m <;> rfl

theorem ofCode?_eq_some_iff {c : UInt8} {m : Method} : ofCode? c = some m ↔ c = m.code := by
  constructor
  · intro h
    simp only [ofCode?] at h
    split at h
    · cases h; assumption
    · split at h
      · cases h; assumption
      · cases h
  · rintro rfl; exact ofCode?_code m

end Method

/-- A username and a password; an empty text means that it is not given. -/
structure Credential where
  username : String
  password : String
deriving DecidableEq

namespace Credential

def isOffered (c : Credential) : Bool := c.username ≠ "" && c.password ≠ ""

def isNone (c : Credential) : Bool := c.username = "" && c.password = ""

def methods (c : Credential) : List Method :=
  if c.isOffered then [.anonymous, .password] else [.anonymous]

/-- The message that offers the methods. -/
def greeting (c : Credential) : Bytes :=
  version :: UInt8.ofNat c.methods.length :: c.methods.map Method.code

/-- A field of the proof: its length and its octets. -/
def proofField (field : Failure.Negotiation.Field) (text : String) :
    Except Failure.Negotiation Bytes :=
  let octets := Utf8.encode text
  if 255 < octets.length then .error (.credentialTooLong field octets.length)
  else .ok (UInt8.ofNat octets.length :: octets)

/-- The message that proves the client's identity. -/
def proof (c : Credential) : Except Failure.Negotiation Bytes :=
  match proofField .username c.username with
  | .error e => .error e
  | .ok username => match proofField .password c.password with
    | .error e => .error e
    | .ok password => .ok (passwordVersion :: username ++ password)

/-- A password as it may be shown: only whether there is one. -/
def redacted (password : String) : String := if password = "" then "" else "<redacted>"

/-- A credential as it may be shown. -/
def shown (c : Credential) : String :=
  "AuthCredential \x7b username: " ++ Quoted.quote c.username ++ ", password: "
    ++ Quoted.quote (redacted c.password) ++ " \x7d"

theorem proofField_eq_ok_iff {field : Failure.Negotiation.Field} {text : String} {octets : Bytes} :
    proofField field text = .ok octets ↔
      Utf8.size text ≤ 255 ∧ octets = UInt8.ofNat (Utf8.size text) :: Utf8.encode text := by
  simp only [proofField, Utf8.size]
  split
  · constructor
    · intro h; cases h
    · rintro ⟨h, _⟩; omega
  · constructor
    · intro h; cases h; exact ⟨by omega, rfl⟩
    · rintro ⟨_, rfl⟩; rfl

/-- **When a proof can be written.** Exactly when neither field exceeds 255 octets. -/
theorem proof_eq_ok_iff {c : Credential} {message : Bytes} :
    c.proof = .ok message ↔
      Utf8.size c.username ≤ 255 ∧ Utf8.size c.password ≤ 255 ∧
        message = passwordVersion :: (UInt8.ofNat (Utf8.size c.username) :: Utf8.encode c.username)
          ++ (UInt8.ofNat (Utf8.size c.password) :: Utf8.encode c.password) := by
  unfold proof
  cases hu : proofField .username c.username with
  | error e =>
    constructor
    · intro h; cases h
    · rintro ⟨h, _⟩
      rw [proofField_eq_ok_iff.mpr ⟨h, rfl⟩] at hu
      cases hu
  | ok username =>
    cases hp : proofField .password c.password with
    | error e =>
      constructor
      · intro h; cases h
      · rintro ⟨_, h, _⟩
        rw [proofField_eq_ok_iff.mpr ⟨h, rfl⟩] at hp
        cases hp
    | ok password =>
      obtain ⟨fitsU, rfl⟩ := proofField_eq_ok_iff.mp hu
      obtain ⟨fitsP, rfl⟩ := proofField_eq_ok_iff.mp hp
      constructor
      · intro h; cases h; exact ⟨fitsU, fitsP, rfl⟩
      · rintro ⟨_, _, rfl⟩; rfl

end Credential

end Intercept.Proxy
