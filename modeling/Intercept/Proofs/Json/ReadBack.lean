import Intercept.Json.Reader
import Intercept.Json.Record

/-!
# Reading values back

A value that the text format has a form for is read back from its text, whatever characters its
strings hold and however large its numbers are. A record that is written with its fields in order is
read back with all of them.

## Main statements

* `Token.next?_quoted`: a string is read back, with its content.
* `ofText?_text`: a value is read back from its text.
* `Record.ofJson?_ofMembers`: the fields of a record are read back.
* `Record.get?_of_ofMembers?`, `Record.get?_zip`: where the fields of a record stand.
-/

namespace Intercept.Json

/-- A value of which nothing is lost when it is written: its numbers are naturals, and its strings
have contents. -/
inductive Exact : Json → Prop where
  | null : Exact .null
  | bool (b : Bool) : Exact (.bool b)
  | natural (n : Nat) : Exact (.natural n)
  | string (s : String) : Exact (.ofString s)
  | array {elements : List Json} : (∀ v ∈ elements, Exact v) → Exact (.array elements)
  | members {members : List (String × Json)} :
    (∀ m ∈ members, Exact m.2) → Exact (.ofMembers members)

attribute [simp] Exact.null Exact.bool Exact.natural Exact.string

namespace Token

variable {cs cs' rest : List Char} {ts ts' : List Token} {c : Char} {t t' : Token}

/-! ### Strings -/

theorem stringUnits?_hex4 {n : Nat} (fits : n < 65536) (cs : List Char) :
    stringUnits? ('\\' :: 'u' :: hex4 n ++ cs)
      = (stringUnits? cs).map fun (units, after) => (n :: units, after) := by
  have four : (hex4 n).length = 4 := Hex.length_padded (Hex.length_digits_le_four fits)
  have value : Hex.value? (hex4 n) = some n := Hex.value?_padded 4 n
  match digits : hex4 n, four with
  | [w, x, y, z], _ =>
    rw [digits] at value
    simp only [List.cons_append, List.nil_append, stringUnits?, hex4?, value, Option.bind_eq_bind,
      Option.bind_some]
    cases stringUnits? cs <;> rfl

theorem stringUnits?_escape {e : Char} (stands : escape? e = some c) (cs : List Char) :
    stringUnits? ('\\' :: e :: cs)
      = (stringUnits? cs).map fun (units, after) => (c.toNat :: units, after) := by
  rw [stringUnits?, stands]
  · simp only [Option.bind_eq_bind, Option.bind_some]
    cases stringUnits? cs <;> rfl
  · rintro _ _ _ _ _ rfl
    cases stands

/-- A character is read back from how it is written in a string. -/
theorem stringUnits?_escaped (c : Char) (cs : List Char) :
    stringUnits? (escaped c ++ cs)
      = (stringUnits? cs).map fun (units, after) => (c.toNat :: units, after) := by
  unfold escaped
  split
  case h_8 noQuote noSlash _ _ _ _ _ =>
    split
    · rename_i low
      exact stringUnits?_hex4 (Nat.lt_trans low (by decide)) cs
    · rename_i plain
      rw [List.singleton_append, stringUnits?, if_neg plain]
      all_goals simp_all
  all_goals exact stringUnits?_escape rfl cs

theorem stringUnits?_flatMap_escaped (content rest : List Char) :
    stringUnits? (content.flatMap escaped ++ '"' :: rest)
      = some (content.map Char.toNat, rest) := by
  induction content with
  | nil => simp [stringUnits?]
  | cons c content ih =>
    rw [List.flatMap_cons, List.append_assoc, stringUnits?_escaped, ih]
    rfl

/-- No character is half of a surrogate pair. -/
theorem not_surrogate (c : Char) : (isHigh c.toNat || isLow c.toNat) = false := by
  have valid : c.toNat < 0xd800 ∨ 0xdfff < c.toNat := c.valid.imp_right And.left
  simp [isHigh, isLow]
  omega

theorem joined?_map_toNat (content : List Char) : joined? (content.map Char.toNat) = some content := by
  induction content with
  | nil => rfl
  | cons c content ih =>
    obtain ⟨notHigh, notLow⟩ := Bool.or_eq_false_iff.mp (not_surrogate c)
    cases content with
    | nil => simp [joined?, notHigh, notLow, Char.ofNat_toNat]
    | cons d content =>
      simp only [List.map_cons] at ih ⊢
      simp [joined?, notHigh, notLow, ih, Char.ofNat_toNat]

theorem contentOf_map_toNat (s : String) : contentOf (s.toList.map Char.toNat) = some s := by
  simp [contentOf, joined?_map_toNat]

/-! ### Tokens -/

/-- Whether a number ends in front of the characters. -/
def EndsNumber (rest : List Char) : Prop := ∀ c, rest.head? = some c → isNumeral c = false

theorem endsNumber_nil : EndsNumber [] := nofun

theorem next?_mark (stands : mark? c = some t) (rest : List Char) :
    next? (c :: rest) = some (t, rest) := by
  simp [next?, stands]

theorem endsNumber_mark (stands : mark? c = some t) (rest : List Char) : EndsNumber (c :: rest) := by
  rintro _ ⟨⟩
  unfold mark? at stands
  split at stands
  case h_7 => cases stands
  all_goals decide

theorem next?_quoted (s : String) (rest : List Char) :
    next? (quoted s ++ rest) = some (.string (some s), rest) := by
  simp [quoted, next?, mark?, stringUnits?_flatMap_escaped, contentOf_map_toNat]

theorem isNumeral_of_isDigit (digit : Decimal.isDigit c = true) : isNumeral c = true := by
  simp [isNumeral, digit]

theorem mark?_of_isNumeral (numeral : isNumeral c = true) : mark? c = none := by
  cases stands : mark? c with
  | none => rfl
  | some t =>
    rw [endsNumber_mark stands [] c rfl] at numeral
    cases numeral

theorem number?_digits (n : Nat) : number? (Decimal.digits n) = some (.natural n) := by
  have whole : isWhole (Decimal.digits n) = true := by
    have few : (Decimal.digits n).head? = some '0' → (Decimal.digits n).length = 1 := fun zero =>
      Nat.le_antisymm (Decimal.length_digits_le_one zero)
        (List.length_pos_iff.mpr (Decimal.digits_ne_nil n))
    simp only [isWhole, isDigits, Decimal.all_isDigit_digits]
    simpa [Decimal.digits_ne_nil] using Decidable.not_or_of_imp few
  simp only [number?, whole, if_true, Decimal.value_digits]

theorem next?_digits (n : Nat) (ends : EndsNumber rest) :
    next? (Decimal.digits n ++ rest) = some (.natural n, rest) := by
  have numerals : ∀ d ∈ Decimal.digits n, isNumeral d = true := fun d found =>
    isNumeral_of_isDigit (List.all_eq_true.mp (Decimal.all_isDigit_digits n) d found)
  obtain ⟨stop, kept⟩ : rest.takeWhile isNumeral = [] ∧ rest.dropWhile isNumeral = rest := by
    cases rest with
    | nil => exact ⟨rfl, rfl⟩
    | cons d rest => simp [ends d rfl]
  have front : (Decimal.digits n ++ rest).takeWhile isNumeral = Decimal.digits n := by
    rw [List.takeWhile_append_of_pos numerals, stop, List.append_nil]
  have number := number?_digits n
  obtain ⟨c, ds, digits⟩ := List.exists_cons_of_ne_nil (Decimal.digits_ne_nil n)
  rw [digits] at numerals front number ⊢
  have first : isNumeral c = true := numerals c List.mem_cons_self
  have noQuote : c ≠ '"' := by
    rintro rfl
    cases first
  have back : (ds ++ rest).dropWhile isNumeral = rest := by
    rw [List.dropWhile_append_of_pos fun d found => numerals d (List.mem_cons_of_mem c found), kept]
  rw [List.cons_append, next?, mark?_of_isNumeral first]
  simp only [if_neg noQuote, if_pos first, ← List.cons_append, front, number, back, Option.map_some]

/-- The first token, and then the others. -/
theorem scan?_of_next? (next : next? cs = some (t, rest)) :
    scan? cs = (scan? rest).map (t :: ·) := by
  cases cs with
  | nil => cases next
  | cons c cs =>
    have solid : isBlank c = false := by
      cases blank : isBlank c with
      | false => rfl
      | true =>
        simp only [isBlank, Bool.or_eq_true, beq_iff_eq] at blank
        rcases blank with ((rfl | rfl) | rfl) | rfl <;> cases next
    rw [scan?, if_neg (by simp [solid])]
    split
    · rename_i none
      rw [next] at none
      cases none
    · rename_i found
      rw [next] at found
      cases found
      rfl

/-- The characters are cut into the tokens, where no number goes on behind them. -/
def Scans (cs : List Char) (ts : List Token) : Prop :=
  ∀ rest, EndsNumber rest → scan? (cs ++ rest) = (scan? rest).map (ts ++ ·)

theorem scans_of_next? (next : ∀ rest, EndsNumber rest → next? (cs ++ rest) = some (t, rest)) :
    Scans cs [t] :=
  fun rest ends => scan?_of_next? (next rest ends)

theorem scans_mark (stands : mark? c = some t) : Scans [c] [t] :=
  scans_of_next? fun rest _ => next?_mark stands rest

/-- Behind a mark the next token begins, whatever it is. -/
theorem Scans.mark (stands : mark? c = some t) (later : Scans cs ts) : Scans (c :: cs) (t :: ts) := by
  intro rest ends
  rw [List.cons_append, scan?_of_next? (next?_mark stands (cs ++ rest)), later rest ends,
    Option.map_map]
  rfl

/-- What stands in front of a mark ends there. -/
theorem Scans.append_mark (first : Scans cs ts) (stands : mark? c = some t)
    (later : Scans cs' ts') : Scans (cs ++ c :: cs') (ts ++ t :: ts') := by
  intro rest ends
  have apart : EndsNumber (c :: cs' ++ rest) := endsNumber_mark stands (cs' ++ rest)
  rw [List.append_assoc, first _ apart, later.mark stands rest ends, Option.map_map]
  simp only [Function.comp_def, List.append_assoc]

theorem scans_nil : Scans [] [] := fun _ _ => by simp

theorem scans_string (s : String) : Scans (stringChars (some s)) [.string (some s)] :=
  scans_of_next? fun rest _ => next?_quoted s rest

theorem scans_elements {elements : List Json} (each : ∀ v ∈ elements, Scans v.chars v.tokens) :
    Scans (elementChars elements) (elementTokens elements) := by
  induction elements with
  | nil => exact scans_mark rfl
  | cons v elements ih =>
    have first := each v List.mem_cons_self
    cases elements with
    | nil => exact first.append_mark rfl scans_nil
    | cons w elements =>
      exact first.append_mark rfl (ih fun u found => each u (List.mem_cons_of_mem v found))

theorem scans_members {members : List (String × Json)}
    (each : ∀ m ∈ members, Scans m.2.chars m.2.tokens) :
    Scans (memberChars (members.map fun (key, v) => (some key, v)))
      (memberTokens (members.map fun (key, v) => (some key, v))) := by
  induction members with
  | nil => exact scans_mark rfl
  | cons m members ih =>
    obtain ⟨key, v⟩ := m
    have member : Scans (stringChars (some key) ++ ':' :: v.chars)
        (.string (some key) :: .colon :: v.tokens) :=
      (scans_string key).append_mark rfl (each (key, v) List.mem_cons_self)
    cases members with
    | nil => exact member.append_mark rfl scans_nil
    | cons n members =>
      exact member.append_mark rfl (ih fun u found => each u (List.mem_cons_of_mem _ found))

end Token

open Token

/-- A value is cut into its tokens. -/
theorem Exact.scans {v : Json} (exact : Exact v) : Scans v.chars v.tokens := by
  -- an element or member is followed by a comma or the end of what holds it, where a number ends
  induction exact with
  | null => exact scans_of_next? fun _ _ => rfl
  | bool b => cases b <;> exact scans_of_next? fun _ _ => rfl
  | natural n => exact scans_of_next? fun _ ends => next?_digits n ends
  | string s => exact scans_string s
  | array _ each => exact (scans_elements each).mark rfl
  | members _ each => exact (scans_members each).mark rfl

/-- **Round trip.** A value is read back from its text. -/
theorem ofText?_text {v : Json} (exact : Exact v) : ofText? v.text = some v := by
  have tokens : scan? v.chars = some v.tokens := by
    have whole := exact.scans [] endsNumber_nil
    simpa [scan?] using whole
  rw [ofText?, text, String.toList_ofList, tokens]
  exact read?_tokens v

/-! ### Records -/

@[simp]
theorem bool?_bool (b : Bool) : bool? (.bool b) = some b := rfl

@[simp]
theorem string?_ofString (s : String) : string? (.ofString s) = some s := rfl

namespace Record

theorem ofMembers?_eq {names : List String} (r : Record) {members : List (String × Json)}
    (known : ∀ m ∈ members, m.1 ∈ names)
    (distinct : ((r.given ++ members).map (·.1)).Nodup) :
    ofMembers? names r (members.map fun (key, v) => (some key, v))
      = some ⟨r.given ++ members⟩ := by
  -- the names that were taken and those still to come are distinct, so none is met a second time
  induction members generalizing r with
  | nil => simp [ofMembers?]
  | cons m members ih =>
    obtain ⟨key, v⟩ := m
    have fresh : r.get? key = none := by
      rw [List.map_append, List.nodup_append] at distinct
      rw [get?, Option.map_eq_none_iff, List.find?_eq_none]
      intro entry given same
      exact distinct.2.2 entry.1 (List.mem_map_of_mem given) key List.mem_cons_self
        (beq_iff_eq.mp same)
    rw [List.append_cons] at distinct ⊢
    simp only [List.map_cons, ofMembers?, known (key, v) List.mem_cons_self, fresh, if_true]
    exact ih ⟨r.given ++ [(key, v)]⟩ (fun u found => known u (List.mem_cons_of_mem _ found))
      distinct

/-- **Records.** The fields of a record are read back. -/
theorem ofJson?_ofMembers {names : List String} {members : List (String × Json)}
    (same : members.map (·.1) = names) (distinct : names.Nodup) :
    ofJson? names (.ofMembers members) = some ⟨members⟩ := by
  have known : ∀ m ∈ members, m.1 ∈ names := fun m found => same ▸ List.mem_map_of_mem found
  exact ofMembers?_eq ⟨[]⟩ known (same ▸ distinct)

variable {name : String}

theorem get?_append_singleton {r : Record} {key : String} {value v : Json}
    (fresh : r.get? key = none) : get? ⟨r.given ++ [(key, value)]⟩ name = some v
      ↔ r.get? name = some v ∨ name = key ∧ v = value := by
  have whole : get? ⟨r.given ++ [(key, value)]⟩ name
      = (r.get? name).or (get? ⟨[(key, value)]⟩ name) := by
    simp only [get?, List.find?_append, Option.map_or]
  rw [whole]
  by_cases same : name = key
  · subst same
    rw [fresh]
    simp [get?, eq_comm]
  · have none : get? ⟨[(key, value)]⟩ name = none := by
      simp [get?, Ne.symm same]
    simp [none, same]

/-- The fields of a record are the members of the object under their names. -/
theorem get?_of_ofMembers? {names : List String} {r taken : Record}
    {members : List (Option String × Json)} {v : Json}
    (h : ofMembers? names r members = some taken) (known : name ∈ names) :
    taken.get? name = some v ↔ r.get? name = some v ∨ (some name, v) ∈ members := by
  induction members generalizing r with
  | nil =>
    cases h
    simp
  | cons first rest ih =>
    obtain ⟨key, value⟩ := first
    cases key with
    | none => cases h
    | some key =>
      unfold ofMembers? at h
      split at h
      · split at h
        · cases h
        · rename_i fresh
          rw [ih h, get?_append_singleton fresh, List.mem_cons, Prod.mk.injEq, Option.some.injEq,
            or_assoc]
      · rename_i unknown
        have other : name ≠ key := fun same => unknown (same ▸ known)
        simp [ih h, other]

/-- The fields of a record are the elements of the array at their places. -/
theorem get?_zip {names : List String} {elements : List Json} {i : Nat} (distinct : names.Nodup)
    (named : names[i]? = some name) :
    get? ⟨names.zip elements⟩ name = elements[i]? := by
  induction names generalizing elements i with
  | nil => cases named
  | cons first names ih =>
    obtain ⟨apart, distinct⟩ := List.nodup_cons.mp distinct
    cases elements with
    | nil => rfl
    | cons element elements =>
      cases i with
      | zero =>
        cases named
        simp [get?]
      | succ i =>
        have other : first ≠ name := by
          rintro rfl
          exact apart (List.mem_of_getElem? named)
        have later : get? ⟨names.zip elements⟩ name = elements[i]? := ih distinct named
        simpa [get?, other] using later

end Record

end Intercept.Json
