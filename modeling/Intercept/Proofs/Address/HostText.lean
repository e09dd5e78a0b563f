import Mathlib.Data.List.DropRight
import Intercept.Address
import Intercept.Proofs.Endpoint.RoundTrip

/-!
# Reading the text of a host back

A host is read without the brackets at its two ends, so what it is read as depends only on a text
that has none. Such a text is a name unless it spells an internet address, and the text of an
internet address spells that address and no other: an IPv4 address is tried first, but an IPv6
address is never written without a colon, which no IPv4 address has.

## Main statements

* `isBare_unbracketed`, `unbracketed_of_isBare`: what is left of a host without its brackets.
* `Ip.ofChars?_toList_text`: an internet address is read back.
* `ofHost?_eq_ok_iff`: what a host is read as.
* `host_read_back`: the law of hosts as text.
-/

namespace Intercept

/-! ### Internet addresses of either family -/

namespace Ip

theorem V4.octet?_digits_only {piece : List Char} {o : UInt8} (read : octet? piece = some o) :
    piece.all Decimal.isDigit = true := by
  unfold octet? at read
  split at read
  · cases read
  · rename_i plain
    obtain ⟨n, found, -⟩ := Option.map_eq_some_iff.mp read
    obtain ⟨m, value, -⟩ := Option.bind_eq_some_iff.mp found
    unfold Decimal.value? at value
    split at value
    · rename_i digits
      exact ((Bool.and_eq_true _ _).mp digits).2
    · cases value

/-- A text with a colon in it is that of no IPv4 address. -/
theorem V4.ofChars?_of_colon {cs : List Char} (colon : ':' ∈ cs) : ofChars? cs = none := by
  have apart {piece : List Char} {o : UInt8} (read : octet? piece = some o) : ':' ∉ piece := by
    intro among
    have digit := List.all_eq_true.mp (octet?_digits_only read) ':' among
    cases digit
  cases read : ofChars? cs with
  | none => rfl
  | some ip =>
    exfalso
    unfold ofChars? at read
    split at read
    · rename_i p q r s parts
      simp only [Option.bind_eq_bind, Option.bind_eq_some_iff] at read
      obtain ⟨a, first, b, second, c, third, d, fourth, -⟩ := read
      rw [← joined_pieces '.' cs, parts] at colon
      rcases mem_joined colon with dot | ⟨piece, among, holds⟩
      · cases dot
      · simp only [List.mem_cons, List.not_mem_nil, or_false] at among
        rcases among with rfl | rfl | rfl | rfl
        · exact apart first holds
        · exact apart second holds
        · exact apart third holds
        · exact apart fourth holds
    · cases read

/-- An IPv6 address is written with colons. -/
theorem V6.colon_mem_chars (ip : V6) : ':' ∈ ip.chars := by
  rw [chars]
  split
  · exact List.mem_append_left _ List.mem_cons_self
  · rcases longestRun 0 ip.groups with ⟨start, length⟩
    by_cases long : 2 ≤ length
    · simp only [if_pos long]
      exact List.mem_append_right _ List.mem_cons_self
    · simp only [if_neg long]
      show ':' ∈ groupDigits ip.g0 ++ ':' :: _
      exact List.mem_append_right _ List.mem_cons_self

/-- **Internet addresses.** An internet address is read back. -/
theorem ofChars?_toList_text (ip : Ip) : ofChars? ip.text.toList = some ip := by
  cases ip with
  | v4 ip =>
    show ofChars? (String.ofList ip.chars).toList = _
    rw [String.toList_ofList, ofChars?, V4.ofChars?_chars]
  | v6 ip =>
    show ofChars? (String.ofList ip.chars).toList = _
    rw [String.toList_ofList, ofChars?, V4.ofChars?_of_colon ip.colon_mem_chars,
      V6.ofChars?_chars]
    rfl

theorem not_mem_toList_text {c : Char} (ip : Ip) (other : Hex.digitValue? c = none)
    (noColon : c ≠ ':') (noDot : c ≠ '.') (noDigit : Decimal.isDigit c = false) :
    c ∉ ip.text.toList := by
  cases ip with
  | v4 ip =>
    show c ∉ (String.ofList ip.chars).toList
    rw [String.toList_ofList]
    exact ip.not_mem_chars noDigit noDot
  | v6 ip =>
    show c ∉ (String.ofList ip.chars).toList
    rw [String.toList_ofList]
    exact ip.not_mem_chars other noColon noDot

end Ip

namespace Address

/-! ### Brackets -/

/-- Whether a text has no bracket at either end that would be taken off. -/
structure IsBare (cs : List Char) : Prop where
  front : cs.head? ≠ some '['
  back : cs.getLast? ≠ some ']'

theorem unbracketed_eq (cs : List Char) :
    unbracketed cs = (cs.dropWhile (· == '[')).rdropWhile (· == ']') := rfl

theorem dropWhile_of_head? {cs : List Char} {c : Char} (other : cs.head? ≠ some c) :
    cs.dropWhile (· == c) = cs := by
  cases cs with
  | nil => rfl
  | cons d cs =>
    have apart : ¬ (d == c) = true := by
      intro same
      exact other (congrArg some (beq_iff_eq.mp same))
    rw [List.dropWhile_cons, if_neg apart]

theorem rdropWhile_of_getLast? {cs : List Char} {c : Char} (other : cs.getLast? ≠ some c) :
    cs.rdropWhile (· == c) = cs := by
  apply List.rdropWhile_eq_self_iff.mpr
  intro any same
  apply other
  rw [List.getLast?_eq_some_getLast any, beq_iff_eq.mp same]

theorem isBare_unbracketed (cs : List Char) : IsBare (unbracketed cs) := by
  rw [unbracketed_eq]
  constructor
  · intro bracket
    -- what is taken off at the end leaves the front, or nothing
    have front : (cs.dropWhile (· == '[')).head? = some '[' := by
      obtain ⟨rest, whole⟩ := List.rdropWhile_prefix (· == ']') (cs.dropWhile (· == '['))
      rw [← whole, List.head?_append, bracket]
      rfl
    have taken := List.head?_dropWhile_not (· == '[') cs
    rw [front] at taken
    cases taken
  · intro bracket
    have any : (cs.dropWhile (· == '[')).rdropWhile (· == ']') ≠ [] := by
      intro none
      rw [none] at bracket
      cases bracket
    rw [List.getLast?_eq_some_getLast any] at bracket
    have last := List.rdropWhile_last_not (· == ']') _ any
    rw [Option.some.inj bracket] at last
    exact last rfl

theorem unbracketed_of_isBare {cs : List Char} (bare : IsBare cs) : unbracketed cs = cs := by
  rw [unbracketed_eq, dropWhile_of_head? bare.front, rdropWhile_of_getLast? bare.back]

/-- Brackets around a text that has none are taken off. -/
theorem unbracketed_bracketed {cs : List Char} (bare : IsBare cs) :
    unbracketed ('[' :: cs ++ [']']) = cs := by
  have front : ('[' :: cs ++ [']']).dropWhile (· == '[') = cs ++ [']'] := by
    rw [List.cons_append, List.dropWhile_cons, if_pos (beq_self_eq_true '[')]
    apply dropWhile_of_head?
    cases cs with
    | nil => decide
    | cons c cs => exact bare.front
  rw [unbracketed_eq, front, List.rdropWhile_concat_pos _ _ _ rfl, rdropWhile_of_getLast? bare.back]

theorem isBare_toList_text (ip : Ip) : IsBare ip.text.toList := by
  constructor
  · intro bracket
    exact ip.not_mem_toList_text (by decide) (by decide) (by decide) (by decide)
      (List.mem_of_head? bracket)
  · intro bracket
    exact ip.not_mem_toList_text (by decide) (by decide) (by decide) (by decide)
      (List.mem_of_getLast? bracket)

/-! ### Hosts -/

variable {host : String} {port : UInt16} {a : Address}

/-- **What a host is read as.** Without its brackets it spells an internet address, which is then read
in its canonical form, or it is a name of 1 to 255 octets. -/
theorem ofHost?_eq_ok_iff :
    ofHost? host port = .ok a ↔
      (∃ ip, Ip.ofChars? (unbracketed host.toList) = some ip ∧ a = ofIp ip port)
      ∨ (unbracketed host.toList ≠ [] ∧ Ip.ofChars? (unbracketed host.toList) = none
        ∧ Utf8.size (String.ofList (unbracketed host.toList)) ≤ 255
        ∧ a = .name (String.ofList (unbracketed host.toList)) port) := by
  have limit : maxName = 255 := rfl
  generalize found : unbracketed host.toList = bare
  simp only [ofHost?, found]
  cases spelled : Ip.ofChars? bare with
  | some ip =>
    have any : ¬ bare.isEmpty = true := by
      intro none
      rw [List.isEmpty_iff.mp none] at spelled
      cases spelled
    rw [if_neg any]
    constructor
    · intro read
      exact .inl ⟨ip, rfl, (Except.ok.inj read).symm⟩
    · rintro (⟨_, same, rfl⟩ | ⟨_, other, _⟩)
      · cases same
        rfl
      · cases other
  | none =>
    dsimp only
    constructor
    · intro read
      right
      split at read
      · cases read
      · rename_i any
        split at read
        · cases read
        · rename_i fits
          refine ⟨fun none => any (List.isEmpty_iff.mpr none), rfl, by omega, ?_⟩
          exact (Except.ok.inj read).symm
    · rintro (⟨_, other, _⟩ | ⟨any, _, fits, rfl⟩)
      · cases other
      · rw [if_neg fun none => any (List.isEmpty_iff.mp none), if_neg (by omega)]

/-- A text that spells an internet address, in brackets or not, is read as that address. -/
theorem ofHost?_of_ip {ip : Ip} (spelled : unbracketed host.toList = ip.text.toList) :
    ofHost? host port = .ok (ofIp ip port) := by
  apply ofHost?_eq_ok_iff.mpr
  exact .inl ⟨ip, by rw [spelled, Ip.ofChars?_toList_text], rfl⟩

theorem ofHost?_text (ip : Ip) (port : UInt16) : ofHost? ip.text port = .ok (ofIp ip port) :=
  ofHost?_of_ip (unbracketed_of_isBare (isBare_toList_text ip))

theorem ofHost?_bracketed (ip : Ip) (port : UInt16) :
    ofHost? ("[" ++ ip.text ++ "]") port = .ok (ofIp ip port) := by
  apply ofHost?_of_ip
  rw [String.toList_append, String.toList_append]
  exact unbracketed_bracketed (isBare_toList_text ip)

/-- A name without brackets that fits and spells no internet address is read as it is. -/
theorem ofHost?_name {name : String} (any : name ≠ "") (fits : Utf8.size name ≤ 255)
    (other : Ip.ofText? name = none) (bare : IsBare name.toList) :
    ofHost? name port = .ok (.name name port) := by
  apply ofHost?_eq_ok_iff.mpr
  rw [unbracketed_of_isBare bare, String.ofList_toList]
  refine .inr ⟨?_, other, fits, rfl⟩
  intro none
  exact any (String.toList_inj.mp none)

/-- What a name that was read is like. -/
theorem name_of_ofHost? {name : String} {number : UInt16}
    (read : ofHost? host port = .ok (.name name number)) :
    name ≠ "" ∧ Utf8.size name ≤ 255 ∧ Ip.ofText? name = none ∧ IsBare name.toList := by
  rcases ofHost?_eq_ok_iff.mp read with ⟨ip, _, same⟩ | ⟨any, other, fits, same⟩
  · rw [ofIp] at same
    cases collapsed : ip.collapse <;> rw [collapsed] at same <;> cases same
  · cases same
    rw [Ip.ofText?, String.toList_ofList]
    refine ⟨?_, fits, other, isBare_unbracketed host.toList⟩
    intro empty
    apply any
    rw [← String.toList_ofList (l := unbracketed host.toList), empty]
    rfl

/-- An address has the port that was given beside the host. -/
theorem port_of_ofHost? (read : ofHost? host port = .ok a) : a.port = port := by
  rcases ofHost?_eq_ok_iff.mp read with ⟨ip, _, rfl⟩ | ⟨_, _, _, rfl⟩
  · rw [ofIp]
    cases ip.collapse <;> rfl
  · rfl

/-! ### The text of an address -/

/-- The text of an address without its port. -/
def hostText : Address → String
  | .v4 ip _ => ip.text
  | .v6 ip _ => "[" ++ ip.text ++ "]"
  | .name host _ => host

theorem text_eq (a : Address) : a.text = a.hostText ++ ":" ++ Decimal.text a.port.toNat := by
  cases a with
  | v4 ip port => rfl
  | v6 ip port =>
    show "[" ++ ip.text ++ "]:" ++ Decimal.text port.toNat
      = "[" ++ ip.text ++ "]" ++ ":" ++ Decimal.text port.toNat
    simp only [String.append_assoc]
    rfl
  | name host port => rfl

/-- What stands before the port is the text of the host. -/
theorem eq_hostText {shown : String} (text : a.text = shown ++ ":" ++ Decimal.text a.port.toNat) :
    shown = a.hostText := by
  rw [text_eq, String.append_assoc, String.append_assoc] at text
  exact ((String.append_left_inj _).mp text).symm

theorem port_literal (ip : Ip) (port : UInt16) : (literal ip port).port = port := by
  cases ip <;> rfl

theorem ofHost?_hostText_literal (ip : Ip) (port : UInt16) :
    ofHost? (literal ip port).hostText port = .ok (literal ip port).canonical := by
  rw [canonical_literal]
  cases ip with
  | v4 ip => exact ofHost?_text (.v4 ip) port
  | v6 ip => exact ofHost?_bracketed (.v6 ip) port

/-- **Hosts as text.** Take the address that some host was read as, with the port given beside it. Its
text is that of a host with a colon and the port behind it; that host is read as the same address
again, and so is an IPv6 address without its brackets. The text of any internet address, one that
stands for another included, is read as its canonical form. And a name that was read has 1 to 255
octets, spells no internet address, and has no bracket at either end. -/
theorem host_read_back :
    (∀ (host : String) (port : UInt16) (a : Address), ofHost? host port = .ok a →
      ∃ shown, a.text = shown ++ ":" ++ Decimal.text port.toNat ∧ ofHost? shown port = .ok a
        ∧ ∀ ip number, a = .v6 ip number →
          shown = "[" ++ ip.text ++ "]" ∧ ofHost? ip.text port = .ok a)
    ∧ (∀ (ip : Ip) (port : UInt16),
      ∃ shown, (literal ip port).text = shown ++ ":" ++ Decimal.text port.toNat
        ∧ ofHost? shown port = .ok (literal ip port).canonical
        ∧ ofHost? ip.text port = .ok (literal ip port).canonical)
    ∧ (∀ (host name : String) (port number : UInt16),
      ofHost? host port = .ok (.name name number) →
        1 ≤ Utf8.size name ∧ Utf8.size name ≤ 255 ∧ Ip.ofText? name = none
          ∧ name.toList.head? ≠ some '[' ∧ name.toList.getLast? ≠ some ']') := by
  refine ⟨?_, ?_, ?_⟩
  · intro host port a read
    have canonical := canonical_ofHost? read
    obtain rfl : a.port = port := port_of_ofHost? read
    refine ⟨a.hostText, text_eq a, ?_, ?_⟩
    · cases a with
      | v4 ip number => exact ofHost?_text (.v4 ip) number
      | v6 ip number =>
        have made : ofIp (.v6 ip) number = .v6 ip number := canonical
        show ofHost? ("[" ++ (Ip.v6 ip).text ++ "]") number = _
        rw [ofHost?_bracketed, made]
      | name name number =>
        obtain ⟨any, fits, other, bare⟩ := name_of_ofHost? read
        exact ofHost?_name any fits other bare
    · rintro ip number rfl
      have made : ofIp (.v6 ip) number = .v6 ip number := canonical
      refine ⟨rfl, ?_⟩
      show ofHost? (Ip.v6 ip).text number = _
      rw [ofHost?_text, made]
  · intro ip port
    have text := text_eq (literal ip port)
    rw [port_literal] at text
    refine ⟨(literal ip port).hostText, text, ofHost?_hostText_literal ip port, ?_⟩
    rw [canonical_literal]
    exact ofHost?_text ip port
  · intro host name port number read
    obtain ⟨any, fits, other, bare⟩ := name_of_ofHost? read
    refine ⟨?_, fits, other, bare.front, bare.back⟩
    apply Nat.pos_of_ne_zero
    intro none
    have empty : Utf8.encode name = Utf8.encode "" := List.eq_nil_of_length_eq_zero none
    exact any (Utf8.encode_injective empty)

/-- A mapped address in two pairs of brackets, an address with two runs of zeros, and a name between
brackets that are turned around. -/
theorem three_hosts_read_back :
    let double : Ip.V6 := ⟨0x2001, 0xdb8, 0, 0, 1, 0, 0, 1⟩
    ofHost? "[[::FFFF:a00:1]]" 53 = .ok (.v4 ⟨10, 0, 0, 1⟩ 53)
      ∧ ofHost? "10.0.0.1" 53 = .ok (.v4 ⟨10, 0, 0, 1⟩ 53)
      ∧ ofHost? "::ffff:10.0.0.1" 53 = .ok (.v4 ⟨10, 0, 0, 1⟩ 53)
      ∧ ofHost? "[2001:db8:0:0:1:0:0:1]" 443 = .ok (.v6 double 443)
      ∧ ofHost? "2001:db8::1:0:0:1" 443 = .ok (.v6 double 443)
      ∧ ofHost? "[]é[]]" 80 = .ok (.name "]é[" 80) ∧ ofHost? "]é[" 80 = .ok (.name "]é[" 80)
      ∧ Ip.ofText? "]é[" = none := by
  intro double
  have mapped : ofHost? "[[::FFFF:a00:1]]" 53 = .ok (.v4 ⟨10, 0, 0, 1⟩ 53) := by decide +kernel
  have plain : ofHost? "[2001:db8:0:0:1:0:0:1]" 443 = .ok (.v6 double 443) := by decide +kernel
  have name : ofHost? "[]é[]]" 80 = .ok (.name "]é[" 80) := by decide +kernel
  obtain ⟨again, literals, names⟩ := host_read_back
  obtain ⟨shown, text, mappedAgain, _⟩ := again _ _ _ mapped
  have shownMapped : shown = "10.0.0.1" := (eq_hostText text).trans (by decide +kernel)
  obtain ⟨_, _, _, canonical⟩ := literals (.v6 (.mapped ⟨10, 0, 0, 1⟩)) 53
  have written : (Ip.v6 (.mapped ⟨10, 0, 0, 1⟩)).text = "::ffff:10.0.0.1" := by decide +kernel
  obtain ⟨_, _, _, unbracketed⟩ := again _ _ _ plain
  obtain ⟨_, plainAgain⟩ := unbracketed double 443 rfl
  have writtenPlain : double.text = "2001:db8::1:0:0:1" := by decide +kernel
  obtain ⟨shown', text', nameAgain, _⟩ := again _ _ _ name
  have shownName : shown' = "]é[" := eq_hostText text'
  obtain ⟨_, _, other, _⟩ := names _ _ _ _ name
  rw [shownMapped] at mappedAgain
  rw [written] at canonical
  rw [writtenPlain] at plainAgain
  rw [shownName] at nameAgain
  exact ⟨mapped, mappedAgain, canonical, plain, plainAgain, name, nameAgain, other⟩

end Address

end Intercept
