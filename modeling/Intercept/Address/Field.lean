import Intercept.Address

/-!
# The address field

On the wire an address is a type octet, the host, and the port in two octets, high octet first. The
host is four octets of an IPv4 address (type 1), sixteen of an IPv6 address (type 4), or a length
octet and that many octets of a name (type 3). An IPv6 address that stands for an IPv4 address is
written as the latter. Main statements: `decode_encode`, a written field is read back as the
canonical form of the address, whatever follows it, and `write_eq`, writing into a buffer appends
that field or leaves the buffer alone.
-/

namespace Intercept.Address

/-- The form of host that a type octet announces. -/
inductive Form where
  | v4
  | v6
  | name
deriving DecidableEq

namespace Form

def tag : Form → UInt8
  | .v4 => 1
  | .name => 3
  | .v6 => 4

/-- The form that a type octet announces. -/
def ofTag? (tag : UInt8) : Option Form :=
  if tag = 1 then some .v4 else if tag = 3 then some .name else if tag = 4 then some .v6 else none

@[simp]
theorem ofTag?_tag (f : Form) : ofTag? f.tag = some f := by cases f <;> rfl

theorem ofTag?_eq_some_iff {t : UInt8} {f : Form} : ofTag? t = some f ↔ t = f.tag := by
  constructor
  · intro h
    simp only [ofTag?] at h
    split at h
    · cases h; assumption
    · split at h
      · cases h; assumption
      · split at h
        · cases h; assumption
        · cases h
  · rintro rfl; exact ofTag?_tag f

end Form

/-! ### Writing -/

def form : Address → Form
  | .v4 _ _ => .v4
  | .v6 ip _ => match ip.mapped? with
    | some _ => .v4
    | none => .v6
  | .name _ _ => .name

def tag (a : Address) : UInt8 := a.form.tag

def fieldLength (a : Address) : Nat :=
  match a with
  | .name host _ => 1 + 1 + Utf8.size host + 2
  | _ => match a.form with
    | .v4 => 1 + 4 + 2
    | _ => 1 + 16 + 2

def encodeV4 (ip : Ip.V4) (port : UInt16) : Bytes := 1 :: ip.octets ++ Bytes.be16 port

/-- The field of an address. A name must not be empty and must fit its length octet. -/
def encode : Address → Except Failure.Negotiation Bytes
  | .v4 ip port => .ok (encodeV4 ip port)
  | .v6 ip port => match ip.mapped? with
    | some plain => .ok (encodeV4 plain port)
    | none => .ok (4 :: ip.octets ++ Bytes.be16 port)
  | .name host port =>
    let length := Utf8.size host
    if maxName < length then .error (.nameTooLong length)
    else if length = 0 then .error (.addressInvalid .emptyName)
    else .ok (3 :: UInt8.ofNat length :: Utf8.encode host ++ Bytes.be16 port)

/-- The IPv4 address that a literal address is or stands for. -/
def plain? : Address → Option Ip.V4
  | .v4 ip _ => some ip
  | .v6 ip _ => ip.mapped?
  | .name _ _ => none

/-- Writes the field of an address behind what a buffer holds, part by part. A name is checked before
its first part is written. -/
def write (a : Address) (buffer : Bytes) : Except Failure.Negotiation Unit × Bytes :=
  match a.plain? with
  | some ip => (.ok (), buffer ++ [Form.v4.tag] ++ ip.octets ++ Bytes.be16 a.port)
  | none => match a with
    | .v4 _ _ => (.ok (), buffer)
    | .v6 ip port => (.ok (), buffer ++ [Form.v6.tag] ++ ip.octets ++ Bytes.be16 port)
    | .name host port =>
      let length := Utf8.size host
      if maxName < length then (.error (.nameTooLong length), buffer)
      else if length = 0 then (.error (.addressInvalid .emptyName), buffer)
      else (.ok (), buffer ++ [Form.name.tag] ++ [UInt8.ofNat length] ++ Utf8.encode host
        ++ Bytes.be16 port)

/-- Writing appends the field, or fails and leaves the buffer alone. -/
theorem write_eq (a : Address) (buffer : Bytes) :
    a.write buffer = match a.encode with
      | .ok field => (.ok (), buffer ++ field)
      | .error e => (.error e, buffer) := by
  cases a with
  | v4 ip port => simp [write, plain?, encode, encodeV4, Address.port, Form.tag]
  | v6 ip port =>
    cases mapped : ip.mapped? with
    | some plain => simp [write, plain?, encode, encodeV4, Address.port, Form.tag, mapped]
    | none => simp [write, plain?, encode, Form.tag, mapped]
  | name host port =>
    simp only [write, plain?, encode]
    by_cases long : maxName < Utf8.size host
    · simp only [if_pos long]
    · by_cases empty : Utf8.size host = 0
      · simp only [if_neg long, if_pos empty]
      · simp [if_neg long, if_neg empty, Form.tag]

/-! ### Reading -/

/-- The host of `length` octets and the port after it, at the front of the octets. -/
def hostAndPort? (length : Nat) (octets : Bytes) : Option (Bytes × UInt16) :=
  match octets.drop length with
  | high :: low :: _ => some (octets.take length, Bytes.ofBE16 high low)
  | _ => none

/-- The address that the octets of a host and a port make in the given form. -/
def ofForm (form : Form) (host : Bytes) (port : UInt16) : Except Failure.Negotiation Address :=
  match form with
  | .name => match Utf8.decode? host with
    | some text => .ok (.name text port)
    | none => .error (.addressInvalid .notText)
  | _ => ofOctets host port

/-- The number of octets of a host whose form has a fixed length. -/
def Form.hostLength? : Form → Option Nat
  | .v4 => some 4
  | .v6 => some 16
  | .name => none

/-- The address at the front of the octets and the number of octets of its field. -/
def decode (octets : Bytes) : Except Failure.Negotiation (Address × Nat) :=
  match octets with
  | [] => .error (.addressInvalid .truncated)
  | t :: rest => match Form.ofTag? t with
    | none => .error (.addressInvalid (.unknownType t))
    | some form => match form.hostLength? with
      | some length => body form 1 length rest
      | none => match rest with
        | [] => .error (.addressInvalid .truncated)
        | length :: more => body form 2 length.toNat more
where
  /-- The field whose host of `length` octets starts after `start` octets. -/
  body (form : Form) (start length : Nat) (rest : Bytes) :
      Except Failure.Negotiation (Address × Nat) :=
    match hostAndPort? length rest with
    | none => .error (.addressInvalid .truncated)
    | some (host, port) => match ofForm form host port with
      | .ok a => .ok (a, start + length + 2)
      | .error e => .error e

/-! ### Reading what was written -/

theorem hostAndPort?_append (host : Bytes) (port : UInt16) (rest : Bytes) :
    hostAndPort? host.length (host ++ Bytes.be16 port ++ rest) = some (host, port) := by
  rw [List.append_assoc]
  have back : (host ++ (Bytes.be16 port ++ rest)).drop host.length = Bytes.be16 port ++ rest := by
    simp
  rw [hostAndPort?, back]
  simp [Bytes.be16, Bytes.ofBE16_be16]

theorem decode_body_append {form : Form} {start : Nat} {host : Bytes} {port : UInt16}
    {a : Address} (rest : Bytes) (h : ofForm form host port = .ok a) :
    decode.body form start host.length (host ++ Bytes.be16 port ++ rest)
      = .ok (a, start + host.length + 2) := by
  simp only [decode.body, hostAndPort?_append, h]

theorem decode_encodeV4 (ip : Ip.V4) (port : UInt16) (rest : Bytes) :
    decode (encodeV4 ip port ++ rest) = .ok (.v4 ip port, 7) :=
  @decode_body_append .v4 1 ip.octets port _ rest rfl

/-- Sixteen octets make the canonical address of the IPv6 address that they are. -/
theorem ofForm_v6 (ip : Ip.V6) (port : UInt16) :
    ofForm .v6 ip.octets port = .ok (ofIp (.v6 ip) port) := by
  show ofOctets ip.octets port = _
  have sixteen : ∀ a b c d, ip.octets = [a, b, c, d] → False := by
    intro a b c d short
    have := congrArg List.length short
    simp at this
  rw [ofOctets, Ip.V6.ofOctets?_octets]
  exact sixteen

theorem decode_encodeV6 {ip : Ip.V6} (h : ip.mapped? = none) (port : UInt16) (rest : Bytes) :
    decode (4 :: ip.octets ++ Bytes.be16 port ++ rest) = .ok (.v6 ip port, 19) := by
  have made : ofForm .v6 ip.octets port = .ok (.v6 ip port) := by
    rw [ofForm_v6, ofIp, Ip.collapse_v6_of_mapped?_none h, literal]
  exact @decode_body_append .v6 1 ip.octets port _ rest made

theorem decode_encodeName {host : String} (fits : Utf8.size host ≤ maxName) (port : UInt16)
    (rest : Bytes) :
    decode (3 :: UInt8.ofNat (Utf8.size host) :: Utf8.encode host ++ Bytes.be16 port ++ rest)
      = .ok (.name host port, 2 + Utf8.size host + 2) := by
  have count : (UInt8.ofNat (Utf8.size host)).toNat = (Utf8.encode host).length := by
    rw [UInt8.toNat_ofNat']
    have : Utf8.size host = (Utf8.encode host).length := rfl
    have : maxName = 255 := rfl
    omega
  have made : ofForm .name (Utf8.encode host) port = .ok (.name host port) := by
    simp [ofForm, Utf8.decode?_encode]
  show decode.body .name 2 (UInt8.ofNat (Utf8.size host)).toNat _ = _
  rw [count]
  exact @decode_body_append .name 2 (Utf8.encode host) port _ rest made

/-- **Round trip.** A written field is read back as the canonical form of the address, and no octet
after it is taken. -/
theorem decode_encode {a : Address} {field : Bytes} (rest : Bytes) (h : a.encode = .ok field) :
    decode (field ++ rest) = .ok (a.canonical, a.fieldLength) := by
  cases a with
  | v4 ip port =>
    cases h
    exact decode_encodeV4 ip port rest
  | v6 ip port =>
    simp only [encode] at h
    cases hm : ip.mapped? with
    | some plain =>
      rw [hm] at h
      cases h
      rw [decode_encodeV4]
      simp [canonical, ofIp, Ip.collapse, hm, literal, fieldLength, form]
    | none =>
      rw [hm] at h
      cases h
      rw [decode_encodeV6 hm]
      simp [canonical, ofIp, Ip.collapse, hm, literal, fieldLength, form]
  | name host port =>
    simp only [encode] at h
    split at h
    · cases h
    · split at h
      · cases h
      · rename_i fits _
        cases h
        rw [decode_encodeName (by omega)]
        simp [canonical, fieldLength]

end Intercept.Address
