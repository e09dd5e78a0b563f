import Intercept.Proofs.Address.RoundTrip
import Intercept.Proxy.Envelope

/-!
# Wrapping packets and unwrapping them

An envelope is written for every address that has a field, but only one with an IPv4 address is
opened again. Since a field says of itself which form of host it holds, no other field is taken for
that of an IPv4 address, however short its envelope is.

## Main statements

* `wrap_udp_eq_ok_iff`, `wrap_udp_of_not_isEncodable`: what a packet is wrapped to.
* `unwrap_wrap`: which envelopes are opened again, and what is found in them.
* `wrap_unwrap`: what was found in an envelope is wrapped to that envelope again.
* `wraps_and_unwraps`: the law of the envelope.
-/

namespace Intercept.Proxy.Packet

open Address (encodeV4)

variable {p q : Packet} {frame datagram : Bytes}

/-! ### Wrapping -/

/-- A packet is wrapped behind three zero octets and the field of its address. -/
theorem wrap_udp_eq_ok_iff :
    wrap .udp p = .ok frame ↔
      ∃ field, p.address.encode = .ok field ∧ frame = [0, 0, 0] ++ field ++ p.payload := by
  rw [wrap]
  cases p.address.encode with
  | ok field => simp [eq_comm]
  | error e => cases e <;> simp

theorem wrap_udp_of_encode {field : Bytes} (h : p.address.encode = .ok field) :
    wrap .udp p = .ok ([0, 0, 0] ++ field ++ p.payload) :=
  wrap_udp_eq_ok_iff.mpr ⟨field, h, rfl⟩

/-- Why a packet cannot be wrapped. -/
theorem wrap_udp_of_not_isEncodable (unfit : ¬ p.address.IsEncodable) :
    ∃ host port, p.address = .name host port
      ∧ ((255 < Utf8.size host ∧ wrap .udp p = .error (.nameTooLong (Utf8.size host)))
        ∨ (host = "" ∧ wrap .udp p
          = .error (.invalidAddress "invalid address: empty domain name"))) := by
  obtain ⟨host, port, named, reason⟩ := Address.encode_of_not_isEncodable unfit
  refine ⟨host, port, named, ?_⟩
  rcases reason with ⟨long, failed⟩ | ⟨empty, failed⟩
  · exact .inl ⟨long, by rw [wrap, failed]⟩
  · exact .inr ⟨empty, by rw [wrap, failed]; rfl⟩

/-! ### Unwrapping -/

/-- What is long enough has a header of ten octets in front. -/
theorem exists_header (long : 10 ≤ datagram.length) :
    ∃ r s fragment tag a b c d high low payload, datagram
      = r :: s :: fragment :: tag :: a :: b :: c :: d :: high :: low :: payload := by
  match datagram, long with
  | r :: s :: fragment :: tag :: a :: b :: c :: d :: high :: low :: payload, _ =>
    exact ⟨r, s, fragment, tag, a, b, c, d, high, low, payload, rfl⟩

theorem unwrap_of_short (short : datagram.length < 10) :
    unwrap datagram = .error (.truncated 10 datagram.length) := by
  unfold unwrap
  split
  · simp only [List.length_cons] at short
    omega
  · rfl

theorem unwrap_of_fragment (long : 10 ≤ datagram.length) {fragment : UInt8}
    (third : datagram[2]? = some fragment) (part : fragment ≠ 0) :
    unwrap datagram = .error (.fragmented fragment) := by
  obtain ⟨_, _, _, _, _, _, _, _, _, _, _, rfl⟩ := exists_header long
  obtain rfl : fragment = _ := by simpa using third.symm
  rw [unwrap, if_pos part]

theorem unwrap_of_tag (long : 10 ≤ datagram.length) {tag : UInt8}
    (third : datagram[2]? = some 0) (fourth : datagram[3]? = some tag) (other : tag ≠ 1) :
    unwrap datagram = .error (.unsupportedAddressType tag) := by
  obtain ⟨_, _, _, _, _, _, _, _, _, _, _, rfl⟩ := exists_header long
  obtain rfl : _ = (0 : UInt8) := by simpa using third
  obtain rfl : tag = _ := by simpa using fourth.symm
  have unknown : tag ≠ Address.Form.v4.tag := other
  rw [unwrap, if_neg (by simp), if_pos unknown]

/-- Which envelopes are opened. -/
theorem exists_unwrap_eq :
    (∃ q, unwrap datagram = .ok q) ↔
      10 ≤ datagram.length ∧ datagram[2]? = some 0 ∧ datagram[3]? = some 1 := by
  constructor
  · rintro ⟨q, opened⟩
    obtain ⟨r, s, ip, port, payload, rfl, _⟩ := unwrap_eq_ok_iff.mp opened
    simp [encodeV4]
    omega
  · rintro ⟨long, third, fourth⟩
    obtain ⟨_, _, _, _, _, _, _, _, _, _, _, rfl⟩ := exists_header long
    obtain rfl : _ = (0 : UInt8) := by simpa using third
    obtain rfl : _ = (1 : UInt8) := by simpa using fourth
    exact ⟨_, rfl⟩

/-! ### One after the other -/

/-- A field with anything behind it is the field of an IPv4 address only if it was written for one. -/
theorem canonical_of_field {a : Address} {field more more' : Bytes} {ip : Ip.V4} {port : UInt16}
    (written : a.encode = .ok field) (same : field ++ more = encodeV4 ip port ++ more') :
    a.canonical = .v4 ip port ∧ more = more' := by
  have read := Address.decode_encode more written
  rw [same, Address.decode_encodeV4] at read
  have canonical : a.canonical = .v4 ip port := (congrArg Prod.fst (Except.ok.inj read)).symm
  rw [← Address.encode_canonical, canonical] at written
  cases written
  exact ⟨canonical, List.append_cancel_left same⟩

/-- What was wrapped is unwrapped exactly if its address stands for an IPv4 address. It is then found
with the canonical form of its address. -/
theorem unwrap_wrap (wrapped : wrap .udp p = .ok frame) :
    unwrap frame = .ok q ↔ (∃ ip port, p.address.canonical = .v4 ip port)
      ∧ q = ⟨p.address.canonical, p.payload⟩ := by
  obtain ⟨field, written, rfl⟩ := wrap_udp_eq_ok_iff.mp wrapped
  rw [unwrap_eq_ok_iff]
  constructor
  · rintro ⟨r, s, ip, port, payload, same, rfl⟩
    have same : field ++ p.payload = encodeV4 ip port ++ payload := by
      simp only [List.cons_append, List.nil_append, List.cons.injEq] at same
      exact same.2.2.2
    obtain ⟨canonical, rfl⟩ := canonical_of_field written same
    exact ⟨⟨ip, port, canonical⟩, by rw [canonical]⟩
  · rintro ⟨⟨ip, port, canonical⟩, rfl⟩
    rw [← Address.encode_canonical, canonical] at written
    cases written
    exact ⟨0, 0, ip, port, p.payload, by simp, by rw [canonical]⟩

/-- What was unwrapped is wrapped to the same octets, but for the two that do not count. -/
theorem wrap_unwrap (opened : unwrap datagram = .ok q) :
    wrap .udp q = .ok (0 :: 0 :: datagram.drop 2) := by
  obtain ⟨r, s, ip, port, payload, rfl, rfl⟩ := unwrap_eq_ok_iff.mp opened
  rw [wrap_udp_of_encode rfl]
  simp

/-- **The envelope.** Only datagrams are wrapped. A packet is wrapped exactly if its address can be
written, behind three zero octets and its field, and is unwrapped again exactly if the canonical form
of its address is IPv4; it is then found with that form. Octets are unwrapped exactly if there are ten
at least, they are no fragment, and their field is one of an IPv4 address; what is found in them is
wrapped to them again, but for the reserved octets. Of what is wrong with other octets their number
is told first, then the fragment, then the type of the field. -/
theorem wraps_and_unwraps :
    (∀ p : Packet, wrap .tcp p = .error (.unsupportedTransport .tcp))
    ∧ (∀ p : Packet, p.address.IsEncodable → ∃ field, p.address.encode = .ok field
      ∧ wrap .udp p = .ok ([0, 0, 0] ++ field ++ p.payload)
      ∧ ∀ q, unwrap ([0, 0, 0] ++ field ++ p.payload) = .ok q ↔
        (∃ ip port, p.address.canonical = .v4 ip port) ∧ q = ⟨p.address.canonical, p.payload⟩)
    ∧ (∀ p : Packet, ¬ p.address.IsEncodable → ∃ host port, p.address = .name host port
      ∧ ((255 < Utf8.size host ∧ wrap .udp p = .error (.nameTooLong (Utf8.size host)))
        ∨ (host = "" ∧ wrap .udp p
          = .error (.invalidAddress "invalid address: empty domain name"))))
    ∧ (∀ d : Bytes, (∃ q, unwrap d = .ok q) ↔ 10 ≤ d.length ∧ d[2]? = some 0 ∧ d[3]? = some 1)
    ∧ (∀ (d : Bytes) (q : Packet), unwrap d = .ok q → wrap .udp q = .ok (0 :: 0 :: d.drop 2))
    ∧ (∀ d : Bytes, d.length < 10 → unwrap d = .error (.truncated 10 d.length))
    ∧ (∀ (d : Bytes) (fragment : UInt8), 10 ≤ d.length → d[2]? = some fragment → fragment ≠ 0 →
      unwrap d = .error (.fragmented fragment))
    ∧ (∀ (d : Bytes) (tag : UInt8), 10 ≤ d.length → d[2]? = some 0 → d[3]? = some tag → tag ≠ 1 →
      unwrap d = .error (.unsupportedAddressType tag)) := by
  refine ⟨fun _ => rfl, ?_, fun _ => wrap_udp_of_not_isEncodable, fun _ => exists_unwrap_eq,
    fun _ _ => wrap_unwrap, fun _ => unwrap_of_short, fun _ _ long => unwrap_of_fragment long,
    fun _ _ long => unwrap_of_tag long⟩
  intro p fits
  obtain ⟨field, written⟩ := (Address.exists_encode_eq p.address).mpr fits
  have wrapped := wrap_udp_of_encode written
  exact ⟨field, written, wrapped, fun _ => unwrap_wrap wrapped⟩

/-- A mapped address is found again as what it stands for, and a name is not found, neither in an
envelope of eight octets nor in one of ten; what is found behind odd reserved octets is wrapped
without them. -/
theorem three_wrapped_and_unwrapped :
    let mapped : Packet := ⟨.v6 (.mapped ⟨1, 2, 3, 4⟩) 53, [7]⟩
    let found : Packet := ⟨.v4 ⟨1, 2, 3, 4⟩ 53, [7]⟩
    unwrap [0, 0, 0, 1, 1, 2, 3, 4, 0, 53, 7] = .ok found
      ∧ wrap .udp mapped = .ok [0, 0, 0, 1, 1, 2, 3, 4, 0, 53, 7]
      ∧ wrap .udp found = .ok [0, 0, 0, 1, 1, 2, 3, 4, 0, 53, 7]
      ∧ unwrap [0, 0, 0, 3, 1, 120, 0, 53] = .error (.truncated 10 8)
      ∧ unwrap [0, 0, 0, 3, 1, 120, 0, 53, 7, 7] = .error (.unsupportedAddressType 3)
      ∧ unwrap [0, 0, 9, 3, 1, 120, 0, 53, 7, 7] = .error (.fragmented 9)
      ∧ wrap .udp ⟨.name "" 53, []⟩
        = .error (.invalidAddress "invalid address: empty domain name") := by
  intro mapped found
  obtain ⟨_, fits, unfit, _, again, short, fragment, tag⟩ := wraps_and_unwraps
  obtain ⟨field, written, wrapped, opened⟩ := fits mapped trivial
  obtain rfl : field = [1, 1, 2, 3, 4, 0, 53] := by
    rw [show mapped.address.encode = .ok [1, 1, 2, 3, 4, 0, 53] by decide] at written
    cases written
    rfl
  refine ⟨(opened found).mpr ⟨⟨⟨1, 2, 3, 4⟩, 53, by decide⟩, by decide⟩, wrapped, ?_,
    short _ (by decide), tag _ 3 (by decide) rfl rfl (by decide),
    fragment _ 9 (by decide) rfl (by decide), ?_⟩
  · exact again [8, 9, 0, 1, 1, 2, 3, 4, 0, 53, 7] found (by decide)
  · have nameless : ¬ (Address.name "" 53).IsEncodable := fun named => absurd named.1 (by decide)
    obtain ⟨_, _, named, ⟨long, _⟩ | ⟨_, failed⟩⟩ := unfit ⟨.name "" 53, []⟩ nameless
    · obtain ⟨rfl, rfl⟩ := Address.name.inj named
      exact absurd long (by decide)
    · exact failed

end Intercept.Proxy.Packet
