import Intercept.Endpoint

/-!
# Reading endpoints back

The text of an internet address, and of an endpoint, is read as what it was written for. For an IPv6
address this rests on where the separators are: no group holds a colon, none is empty, and so `::`
stands only where a run of zero groups was left out.

## Main statements

* `V4.ofChars?_chars`, `V6.ofChars?_chars`: addresses are read back.
* `Endpoint.ofText?_text`: endpoints are read back.
-/

namespace Intercept

namespace Ip

variable {sep c : Char}

/-! ### Pieces -/

theorem pieces_append_cons {front : List Char} (free : sep ∉ front) (back : List Char) :
    pieces sep (front ++ sep :: back) = front :: pieces sep back := by
  induction front with
  | nil => simp [pieces]
  | cons c front ih =>
    have other : c ≠ sep := (List.ne_of_not_mem_cons free).symm
    have later := List.not_mem_of_not_mem_cons free
    rw [List.cons_append, pieces, if_neg other, ih later]

theorem pieces_of_not_mem {cs : List Char} (free : sep ∉ cs) : pieces sep cs = [cs] := by
  induction cs with
  | nil => rfl
  | cons c cs ih =>
    have other : c ≠ sep := (List.ne_of_not_mem_cons free).symm
    have later := List.not_mem_of_not_mem_cons free
    rw [pieces, if_neg other, ih later]

/-- **Pieces.** Pieces that do not hold the separator are found again. -/
theorem pieces_joined {ps : List (List Char)} (any : ps ≠ []) (free : ∀ p ∈ ps, sep ∉ p) :
    pieces sep (joined sep ps) = ps := by
  induction ps with
  | nil => exact absurd rfl any
  | cons p ps ih =>
    have here := free p List.mem_cons_self
    cases ps with
    | nil => exact pieces_of_not_mem here
    | cons q ps =>
      have later := ih (List.cons_ne_nil q ps) fun r there => free r (List.mem_cons_of_mem p there)
      rw [joined, pieces_append_cons here, later]
      exact List.cons_ne_nil q ps

theorem mem_joined {ps : List (List Char)} (found : c ∈ joined sep ps) :
    c = sep ∨ ∃ p ∈ ps, c ∈ p := by
  induction ps with
  | nil => cases found
  | cons p ps ih =>
    cases ps with
    | nil => exact .inr ⟨p, List.mem_cons_self, found⟩
    | cons q ps =>
      rcases List.mem_append.mp found with here | there
      · exact .inr ⟨p, List.mem_cons_self, here⟩
      · rcases List.mem_cons.mp there with same | later
        · exact .inl same
        · exact (ih later).imp_right fun ⟨r, among, holds⟩ =>
            ⟨r, List.mem_cons_of_mem p among, holds⟩

theorem joined_ne_nil {ps : List (List Char)} (any : ps ≠ []) (some : ∀ p ∈ ps, p ≠ []) :
    joined sep ps ≠ [] := by
  cases ps with
  | nil => exact absurd rfl any
  | cons p ps =>
    have here := some p List.mem_cons_self
    cases ps with
    | nil => exact here
    | cons q ps => simp [joined, here]

/-! ### IPv4 -/

namespace V4

theorem octet?_digits (o : UInt8) : octet? (Decimal.digits o.toNat) = some o := by
  have fits : o.toNat ≤ 255 := Nat.le_of_lt_succ o.toNat_lt
  have plain : ¬ ((Decimal.digits o.toNat).head? = some '0'
      ∧ 1 < (Decimal.digits o.toNat).length) :=
    fun ⟨zero, more⟩ => Nat.not_lt_of_le (Decimal.length_digits_le_one zero) more
  rw [octet?, if_neg plain, Decimal.upTo?_digits fits]
  exact congrArg some (UInt8.ofNat_toNat ..)

/-- An address is written with digits and dots. -/
theorem not_mem_chars (ip : V4) (other : Decimal.isDigit c = false) (noDot : c ≠ '.') :
    c ∉ ip.chars := by
  intro found
  rcases mem_joined found with dot | ⟨p, among, holds⟩
  · exact noDot dot
  · obtain ⟨o, _, rfl⟩ := List.mem_map.mp among
    exact Decimal.not_mem_digits other _ holds

theorem ofChars?_chars (ip : V4) : ofChars? ip.chars = some ip := by
  have found : pieces '.' ip.chars = ip.octets.map fun o => Decimal.digits o.toNat := by
    refine pieces_joined (by simp [octets]) fun p among => ?_
    obtain ⟨o, _, rfl⟩ := List.mem_map.mp among
    exact Decimal.not_mem_digits (by decide) _
  rw [ofChars?, found]
  simp [octets, octet?_digits]

/-- There are more characters in an address than in a group. -/
theorem four_lt_length_chars (ip : V4) : 4 < ip.chars.length := by
  have some (o : UInt8) : 0 < (Decimal.digits o.toNat).length :=
    List.length_pos_iff.mpr (Decimal.digits_ne_nil o.toNat)
  have a := some ip.a
  have b := some ip.b
  simp only [chars, octets, joined, List.map_cons, List.map_nil, List.length_append,
    List.length_cons]
  omega

end V4

/-! ### Groups -/

namespace V6

/-- How a group is written. -/
def groupDigits (g : UInt16) : List Char := Hex.digits g.toNat

theorem groupDigits_ne_nil (g : UInt16) : groupDigits g ≠ [] := Hex.digits_ne_nil g.toNat

theorem not_mem_groupDigits (other : Hex.digitValue? c = none) (g : UInt16) : c ∉ groupDigits g :=
  Hex.not_mem_digits other g.toNat

theorem group?_groupDigits (g : UInt16) : group? (groupDigits g) = some g := by
  have short : (groupDigits g).length ≤ 4 := Hex.length_digits_le_four g.toNat_lt
  have some := groupDigits_ne_nil g
  rw [group?, if_neg (by simp [some, short]), groupDigits, Hex.value?_digits]
  exact congrArg Option.some (UInt16.ofNat_toNat ..)

theorem groupChars_eq (gs : List UInt16) : groupChars gs = joined ':' (gs.map groupDigits) := rfl

/-- Groups are written with digits and colons. -/
theorem not_mem_groupChars (other : Hex.digitValue? c = none) (noColon : c ≠ ':')
    (gs : List UInt16) : c ∉ groupChars gs := by
  intro found
  rcases mem_joined found with colon | ⟨p, among, holds⟩
  · exact noColon colon
  · obtain ⟨g, _, rfl⟩ := List.mem_map.mp among
    exact not_mem_groupDigits other g holds

theorem pieces_groupChars {gs : List UInt16} (any : gs ≠ []) :
    pieces ':' (groupChars gs) = gs.map groupDigits := by
  refine pieces_joined (by simpa using any) fun p among => ?_
  obtain ⟨g, _, rfl⟩ := List.mem_map.mp among
  exact not_mem_groupDigits (by decide) g

theorem groupChars_ne_nil {gs : List UInt16} (any : gs ≠ []) : groupChars gs ≠ [] := by
  refine joined_ne_nil (by simpa using any) fun p among => ?_
  obtain ⟨g, _, rfl⟩ := List.mem_map.mp among
  exact groupDigits_ne_nil g

theorem groups?_map_groupDigits (dottedTail : Bool) (gs : List UInt16) :
    groups? dottedTail (gs.map groupDigits) = some gs := by
  induction gs with
  | nil => rfl
  | cons g gs ih =>
    cases gs with
    | nil => simp [groups?, group?_groupDigits]
    | cons h gs =>
      simp only [List.map_cons] at ih ⊢
      rw [groups?, group?_groupDigits, ih]
      · rfl
      · exact List.cons_ne_nil _ _

theorem side?_groupChars (dottedTail : Bool) (gs : List UInt16) :
    side? dottedTail (groupChars gs) = some gs := by
  by_cases none : gs = []
  · rw [none]
    rfl
  · have some := groupChars_ne_nil none
    rw [side?, if_neg (by simpa using some), pieces_groupChars none,
      groups?_map_groupDigits]

/-! ### Where zero groups are left out -/

theorem splitGap?_cons {cs : List Char} (apart : c = ':' → cs.head? ≠ some ':') :
    splitGap? (c :: cs) = (splitGap? cs).map fun (front, back) => (c :: front, back) := by
  rw [splitGap?]
  rintro rest rfl rfl
  exact apart rfl rfl

theorem splitGap?_append {front : List Char} (free : ':' ∉ front) (rest : List Char) :
    splitGap? (front ++ rest)
      = (splitGap? rest).map fun (before, back) => (front ++ before, back) := by
  induction front with
  | nil => simp
  | cons c front ih =>
    have other : c ≠ ':' := (List.ne_of_not_mem_cons free).symm
    have later := List.not_mem_of_not_mem_cons free
    rw [List.cons_append, splitGap?_cons fun same => absurd same other, ih later, Option.map_map]
    rfl

theorem head?_groupChars_append (g : UInt16) (gs : List UInt16) (rest : List Char) :
    (groupChars (g :: gs) ++ rest).head? ≠ some ':' := by
  intro colon
  obtain ⟨c, more, digits⟩ := List.exists_cons_of_ne_nil (groupDigits_ne_nil g)
  have first : c = ':' := by
    cases gs <;> simpa [groupChars_eq, joined, digits] using colon
  have found : c ∈ groupDigits g := by simp [digits]
  exact not_mem_groupDigits (by decide) g (first ▸ found)

/-- There is no gap among groups. -/
theorem splitGap?_groupChars_append (gs : List UInt16) (rest : List Char) :
    splitGap? (groupChars gs ++ rest)
      = (splitGap? rest).map fun (before, back) => (groupChars gs ++ before, back) := by
  induction gs with
  | nil => exact splitGap?_append List.not_mem_nil rest
  | cons g gs ih =>
    have free : ':' ∉ groupDigits g := not_mem_groupDigits (by decide) g
    cases gs with
    | nil => exact splitGap?_append free rest
    | cons h gs =>
      -- behind this colon the next group begins, with a digit, so no gap begins here
      have split : groupChars (g :: h :: gs) = groupDigits g ++ ':' :: groupChars (h :: gs) := rfl
      rw [split, List.append_assoc, List.cons_append, splitGap?_append free,
        splitGap?_cons fun _ => head?_groupChars_append h gs rest, ih, Option.map_map,
        Option.map_map]
      congr 1
      funext ⟨before, back⟩
      simp

/-- A run of zero groups stands where the longest one is said to start. -/
theorem exists_longestRun (gs : List UInt16) (start : Nat) :
    ∃ front back, gs = front ++ List.replicate (longestRun start gs).2 0 ++ back
      ∧ (longestRun start gs).1 = start + front.length := by
  induction gs generalizing start with
  | nil => exact ⟨[], [], rfl, rfl⟩
  | cons g gs ih =>
    rw [longestRun]
    -- either the run in front is the longest, or the longest one lies further back
    split
    · have zeros : (g :: gs).takeWhile (· == 0) = List.replicate (leadingZeros (g :: gs)) 0 :=
        List.eq_replicate_of_mem fun h among => by
          simpa using List.all_eq_true.mp List.all_takeWhile h among
      refine ⟨[], (g :: gs).dropWhile (· == 0), ?_, rfl⟩
      rw [← zeros, List.nil_append, List.takeWhile_append_dropWhile]
    · obtain ⟨front, back, whole, place⟩ := ih (start + 1)
      refine ⟨g :: front, back, congrArg (g :: ·) whole, ?_⟩
      rw [place, List.length_cons]
      omega

/-! ### IPv6 -/

/-- An address that is written without a gap. -/
theorem ofChars?_groupChars (ip : V6) : ofChars? (groupChars ip.groups) = some ip := by
  have whole : splitGap? (groupChars ip.groups) = none := by
    have := splitGap?_groupChars_append ip.groups []
    rwa [List.append_nil] at this
  rw [ofChars?, whole]
  show (groups? true (pieces ':' (groupChars ip.groups))).bind ofGroups? = some ip
  have any : ip.groups ≠ [] := List.cons_ne_nil _ _
  rw [pieces_groupChars any, groups?_map_groupDigits]
  rfl

/-- What stands before and after a gap says what stands in it. -/
theorem ofChars?_gap {cs back : List Char} {front tail : List UInt16} {ip : V6} {length : Nat}
    (gap : splitGap? cs = some (groupChars front, back)) (behind : side? true back = some tail)
    (some : 0 < length) (whole : ip.groups = front ++ List.replicate length 0 ++ tail) :
    ofChars? cs = Option.some ip := by
  have size : ip.groups.length = 8 := rfl
  have eight : 8 = front.length + (length + tail.length) := by
    rw [whole] at size
    simpa using size.symm
  have fits : front.length + tail.length ≤ 7 := by omega
  have rest : 8 - front.length - tail.length = length := by omega
  rw [ofChars?, gap]
  simp only [side?_groupChars, behind, Option.bind_eq_bind, Option.bind_some, if_pos fits, rest,
    ← whole]
  rfl

theorem ofChars?_chars_of_mapped (v4 : V4) :
    ofChars? ("::ffff:".toList ++ v4.chars) = some (mapped v4) := by
  -- the dotted address is too long for a group, so it is read as an address
  have tail : side? true ("ffff:".toList ++ v4.chars)
      = some [0xffff, Bytes.ofBE16 v4.a v4.b, Bytes.ofBE16 v4.c v4.d] := by
    have long := v4.four_lt_length_chars
    have noGroup : group? v4.chars = none := by simp [group?, long]
    have front : group? ['f', 'f', 'f', 'f'] = some 0xffff := by decide
    have split : pieces ':' ("ffff:".toList ++ v4.chars) = [['f', 'f', 'f', 'f'], v4.chars] := by
      have noColon : ':' ∉ v4.chars := v4.not_mem_chars (by decide) (by decide)
      have first : ':' ∉ ['f', 'f', 'f', 'f'] := by decide
      rw [← pieces_of_not_mem noColon]
      exact pieces_append_cons first v4.chars
    rw [side?, if_neg (by simp), split]
    simp [groups?, front, noGroup, dotted?, V4.ofChars?_chars]
  have gap : splitGap? ("::ffff:".toList ++ v4.chars)
      = some (groupChars [], "ffff:".toList ++ v4.chars) := rfl
  have whole : (mapped v4).groups = [] ++ List.replicate 5 0
      ++ [0xffff, Bytes.ofBE16 v4.a v4.b, Bytes.ofBE16 v4.c v4.d] := rfl
  exact ofChars?_gap gap tail (by decide) whole

/-- **IPv6.** An address is read back, however its zero groups are written. -/
theorem ofChars?_chars (ip : V6) : ofChars? ip.chars = some ip := by
  cases stands : ip.mapped? with
  | some v4 =>
    rw [chars, stands, mapped?_eq_some_iff.mp stands]
    exact ofChars?_chars_of_mapped v4
  | none =>
    obtain ⟨front, back, whole, place⟩ := exists_longestRun ip.groups 0
    rcases run : longestRun 0 ip.groups with ⟨start, length⟩
    simp only [run, Nat.zero_add] at whole place
    simp only [chars, stands, run]
    split
    · rename_i long
      have before : ip.groups.take start = front := by
        rw [whole, place, List.append_assoc, List.take_left]
      have behind : ip.groups.drop (start + length) = back := by
        rw [whole, place]
        exact List.drop_left' (by simp)
      have gap := splitGap?_groupChars_append front (':' :: ':' :: groupChars back)
      rw [before, behind]
      refine ofChars?_gap (gap.trans ?_) (side?_groupChars true back) (by omega) whole
      simp [splitGap?]
    · exact ofChars?_groupChars ip

/-- An address is written with digits, colons and dots. -/
theorem not_mem_chars (ip : V6) (other : Hex.digitValue? c = none) (noColon : c ≠ ':')
    (noDot : c ≠ '.') : c ∉ ip.chars := by
  have noDecimal : Decimal.isDigit c = false := by
    cases isDigit : Decimal.isDigit c with
    | false => rfl
    | true =>
      simp only [Decimal.isDigit, Bool.and_eq_true, decide_eq_true_eq] at isDigit
      simp [Hex.digitValue?, isDigit] at other
  rw [chars]
  split
  · rename_i v4 _
    intro found
    rcases List.mem_append.mp found with front | back
    · have spelled : c ∈ [':', ':', 'f', 'f', 'f', 'f', ':'] := front
      have letter : c = 'f' := by simpa [noColon] using spelled
      rw [letter] at other
      cases other
    · exact v4.not_mem_chars noDecimal noDot back
  · have free := not_mem_groupChars other noColon
    rcases longestRun 0 ip.groups with ⟨start, length⟩
    by_cases long : 2 ≤ length
    · simp [long, free, noColon]
    · simpa [long] using free ip.groups

end V6

end Ip

/-! ### Endpoints -/

namespace Endpoint

variable {sep : Char}

theorem splitAt?_append_cons {front : List Char} (free : sep ∉ front) (back : List Char) :
    splitAt? sep (front ++ sep :: back) = some (front, back) := by
  induction front with
  | nil => simp [splitAt?]
  | cons c front ih =>
    have other : c ≠ sep := (List.ne_of_not_mem_cons free).symm
    have later := List.not_mem_of_not_mem_cons free
    rw [List.cons_append, splitAt?, if_neg other, ih later]
    rfl

theorem splitAt?_of_not_mem {cs : List Char} (free : sep ∉ cs) : splitAt? sep cs = none := by
  induction cs with
  | nil => rfl
  | cons c cs ih =>
    have other : c ≠ sep := (List.ne_of_not_mem_cons free).symm
    have later := List.not_mem_of_not_mem_cons free
    rw [splitAt?, if_neg other, ih later]
    rfl

theorem port?_digits (port : UInt16) : port? (Decimal.digits port.toNat) = some port := by
  have fits : port.toNat ≤ 65535 := Nat.le_of_lt_succ port.toNat_lt
  rw [port?, Decimal.upTo?_digits fits]
  exact congrArg some (UInt16.ofNat_toNat ..)

/-- How a scope is written behind an address; scope zero is not written. -/
def zoneChars (scope : UInt32) : List Char :=
  if scope = 0 then [] else '%' :: Decimal.digits scope.toNat

theorem scoped?_zoneChars (ip : Ip.V6) (scope : UInt32) :
    scoped? (ip.chars ++ zoneChars scope) = some (ip, scope) := by
  have free : '%' ∉ ip.chars := ip.not_mem_chars (by decide) (by decide) (by decide)
  rw [zoneChars]
  split
  · rename_i zero
    rw [List.append_nil, scoped?, splitAt?_of_not_mem free, Ip.V6.ofChars?_chars, zero]
    rfl
  · have fits : scope.toNat ≤ 4294967295 := Nat.le_of_lt_succ scope.toNat_lt
    rw [scoped?, splitAt?_append_cons free]
    simp only [Ip.V6.ofChars?_chars, Decimal.upTo?_digits fits, Option.bind_eq_bind,
      Option.bind_some]
    exact congrArg (fun s => some (ip, s)) (UInt32.ofNat_toNat ..)

theorem toList_text_v6 (ip : Ip.V6) (port : UInt16) (scope : UInt32) :
    (text (.v6 ip port scope)).toList
      = '[' :: (ip.chars ++ zoneChars scope) ++ ']' :: ':' :: Decimal.digits port.toNat := by
  by_cases zero : scope = 0 <;>
    simp [text, Ip.V6.text, Decimal.text, zoneChars, zero]

/-- **Endpoints.** An endpoint is read back, with its scope. -/
theorem ofText?_text (e : Endpoint) : ofText? e.text = some e := by
  rw [ofText?]
  cases e with
  | v4 ip port =>
    have written : (text (.v4 ip port)).toList = ip.chars ++ ':' :: Decimal.digits port.toNat := by
      simp [text, Ip.V4.text, Decimal.text]
    have noColon : ':' ∉ ip.chars := ip.not_mem_chars (by decide) (by decide)
    rw [written, ofChars?]
    · simp [splitAt?_append_cons noColon, Ip.V4.ofChars?_chars, port?_digits]
    · intro rest bracket
      have noBracket : '[' ∉ ip.chars := ip.not_mem_chars (by decide) (by decide)
      have long := ip.four_lt_length_chars
      cases digits : ip.chars with
      | nil =>
        rw [digits] at long
        cases long
      | cons c more =>
        rw [digits] at bracket noBracket
        cases bracket
        exact noBracket List.mem_cons_self
  | v6 ip port scope =>
    have noBracket : ']' ∉ ip.chars ++ zoneChars scope := by
      have address : ']' ∉ ip.chars := ip.not_mem_chars (by decide) (by decide) (by decide)
      have zone : ']' ∉ Decimal.digits scope.toNat := Decimal.not_mem_digits (by decide) _
      by_cases zero : scope = 0 <;> simp [zoneChars, zero, address, zone]
    rw [toList_text_v6, List.cons_append, ofChars?, splitAt?_append_cons noBracket]
    simp [scoped?_zoneChars, port?_digits]

end Endpoint

end Intercept
