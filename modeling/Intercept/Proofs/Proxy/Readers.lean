import Intercept.Proofs.Address.Front
import Intercept.Proofs.Proxy.Turns

/-!
# Three readers of an address field

An address field is read from octets that are there, taken off a stream, or skipped on a stream. The
three cut the same field out of any octets, in whatever pieces these come: they agree on where it
ends, on whether its type is known, and on whether it is whole. The one that skips takes no offence
at a name that is no text.

## Main statements

* `perform_speechless`: whoever only listens depends on the reading side alone.
* `agreement`: what the three readers come to, for any octets.
* `readers_agree`: on a stream on which nothing goes wrong, the readers take the same fields and
  fail on the same octets.
-/

namespace Intercept.Proxy

open Address (Form IsField)

namespace Dialogue

variable {α : Type}

/-! ### Listening without speaking -/

/-- A dialogue that sends nothing does not depend on the writing side of its stream. -/
theorem perform_congr {d : Dialogue α} (speechless : d.Speechless) (limit : Stream.Limit)
    {t u : Talk} (reads : t.stream.reads = u.stream.reads) (now : t.now = u.now) :
    (d.perform limit t).1 = (d.perform limit u).1
      ∧ (d.perform limit t).2.stream.reads = (d.perform limit u).2.stream.reads := by
  induction d generalizing t u with
  | done a => exact ⟨rfl, reads⟩
  | giveUp f => exact ⟨rfl, reads⟩
  | enter phase next ih => exact @ih speechless { t with phase } { u with phase } reads now
  | send stage message next ih => exact speechless.elim
  | await stage ended count next ih =>
    simp only [perform, Talk.await, reads, now]
    cases (Stream.gather limit count u.now u.stream.reads).halt with
    | some halt => exact ⟨rfl, rfl⟩
    | none => exact ih _ (speechless _) rfl rfl

/-- **Listening.** If nothing goes wrong on the reading side, a dialogue that sends nothing comes to
the end that the octets decide, and leaves those that it did not need. -/
theorem perform_speechless {d : Dialogue α} (speechless : d.Speechless) {t : Talk}
    (calm : ∀ e ∈ t.stream.reads, e.isCalm = true) :
    (d.perform none t).1 = (d.listen (Stream.dataOf t.stream.reads)).1.mapError .failure
      ∧ Stream.dataOf (d.perform none t).2.stream.reads
        = (d.listen (Stream.dataOf t.stream.reads)).2 := by
  -- the same reading side beside a writing side on which nothing goes wrong
  let quiet : Stream :=
    { reads := t.stream.reads, writes := [], flushFault := none, shutdownFault := none
      written := [], flushes := 0, shutdowns := 0 }
  have quietCalm : quiet.Calm := ⟨calm, by simp [quiet], rfl⟩
  obtain ⟨result, left⟩ :=
    perform_congr speechless none (t := t) (u := { t with stream := quiet }) rfl rfl
  rw [result, left]
  exact perform_calm d (t := { t with stream := quiet }) quietCalm

/-! ### Reading the head of a field -/

/-- Waits for one octet. -/
def single (stage : String) (ended : IoFault) : Dialogue UInt8 :=
  .await stage ended 1 fun octets => .done (octets.headD 0)

/-- Reads what stands before a host, and goes on with the form and the length of the host. -/
def afterHead (readTag readLength : Dialogue UInt8) (refusal : UInt8 → Failure.Negotiation)
    (body : Form → Nat → Dialogue α) : Dialogue α := do
  let tag ← readTag
  match Form.ofTag? tag with
  | none => giveUp (refusal tag)
  | some form => do
    let length ← hostLength form readLength
    body form length

/-- Waits for a host and a port and makes them an address. -/
def hostAndPort (form : Form) (length : Nat) : Dialogue Address := do
  let host ← receive "read address" length
  let port ← receivePort "read port"
  ofExcept (Address.ofForm form host port)

/-- Waits for as many octets as a host and a port have. -/
def passOver (_ : Form) (length : Nat) : Dialogue Unit := do
  let _ ← receive "read bound address" (length + 2)
  return ()

theorem takeAddress_eq : takeAddress = afterHead (single "read address type" .unexpectedEnd)
    (single "read domain length" .unexpectedEnd)
    (fun tag => .addressInvalid (.unknownType tag)) hostAndPort := rfl

theorem skipAddress_eq : skipAddress = afterHead (single "read bound address type" .earlyEnd)
    (single "read bound domain length" .earlyEnd)
    (fun tag => .addressInvalid (.unknownBoundType tag)) passOver := rfl

section

variable {stage stage' : String} {ended ended' : IoFault}
  {refusal : UInt8 → Failure.Negotiation} {body : Form → Nat → Dialogue α}
  {form : Form} {head : Bytes} {count : Nat}

theorem listen_afterHead (announced : form.IsHead head count) (rest : Bytes) :
    (afterHead (single stage ended) (single stage' ended') refusal body).listen (head ++ rest)
      = (body form count).listen rest := by
  cases announced with
  | v4 => rfl
  | v6 => rfl
  | name length => rfl

theorem listen_afterHead_unknown {tag : UInt8} (unknown : Form.ofTag? tag = none)
    (rest : Bytes) :
    (afterHead (single stage ended) (single stage' ended') refusal body).listen (tag :: rest)
      = (.error (refusal tag), rest) := by
  have one : (single stage ended).listen (tag :: rest) = (.ok tag, rest) := rfl
  rw [afterHead, listen_bind, one]
  simp only [unknown]
  rfl

end

/-! ### Reading what follows the head -/

theorem listen_hostAndPort (form : Form) (host : Bytes) (port : UInt16) (more : Bytes) :
    (hostAndPort form host.length).listen (host ++ Bytes.be16 port ++ more)
      = (Address.ofForm form host port, more) := by
  rw [hostAndPort, List.append_assoc, listen_bind, listen_receive]
  dsimp only
  rw [listen_bind, listen_receivePort]
  exact listen_ofExcept _ more

theorem listen_passOver (form : Form) (host : Bytes) (port : UInt16) (more : Bytes) :
    (passOver form host.length).listen (host ++ Bytes.be16 port ++ more) = (.ok (), more) := by
  have block : host.length + 2 = (host ++ Bytes.be16 port).length := by
    rw [List.length_append, Bytes.length_be16]
  rw [passOver, block, listen_bind, listen_receive]
  rfl

theorem listen_hostAndPort_short (form : Form) {count : Nat} {rest : Bytes}
    (short : rest.length < count + 2) :
    ∃ stage fault, (hostAndPort form count).listen rest = (.error (.io stage fault), []) := by
  by_cases host : rest.length < count
  · -- the host is short
    exact ⟨_, _, by rw [hostAndPort, listen_bind, listen_receive_short _ host]⟩
  · -- the host is there and the port is short
    have counted : (rest.take count).length = count := by
      rw [List.length_take]
      omega
    have few : (rest.drop count).length < 2 := by
      rw [List.length_drop]
      omega
    have first := listen_receive "read address" (rest.take count) (rest.drop count)
    rw [List.take_append_drop, counted] at first
    refine ⟨"read port", .unexpectedEnd, ?_⟩
    rw [hostAndPort, listen_bind, first]
    dsimp only
    rw [listen_bind, listen_receivePort_short _ few]

theorem listen_passOver_short (form : Form) {count : Nat} {rest : Bytes}
    (short : rest.length < count + 2) :
    ∃ stage fault, (passOver form count).listen rest = (.error (.io stage fault), []) :=
  ⟨_, _, by rw [passOver, listen_bind, listen_receive_short _ short]⟩

end Dialogue

open Dialogue

/-! ### The three readers -/

/-- What the three readers come to: the one that has the octets, the one that takes a field off a
stream, and the one that skips it, the last two with what they leave. -/
inductive Agreement (octets : Bytes) : Except Failure.Negotiation (Address × Nat) →
    Except Failure.Negotiation Address × Bytes → Except Failure.Negotiation Unit × Bytes → Prop where
  | field {field rest : Bytes} {a : Address} : IsField field (some a) → octets = field ++ rest →
      Agreement octets (.ok (a, field.length)) (.ok a, rest) (.ok (), rest)
  | notText {field rest : Bytes} : IsField field none → octets = field ++ rest →
      Agreement octets (.error (.addressInvalid .notText)) (.error (.addressInvalid .notText), rest)
        (.ok (), rest)
  | unknown {tag : UInt8} {rest : Bytes} : Form.ofTag? tag = none → octets = tag :: rest →
      Agreement octets (.error (.addressInvalid (.unknownType tag)))
        (.error (.addressInvalid (.unknownType tag)), rest)
        (.error (.addressInvalid (.unknownBoundType tag)), rest)
  | short (stage stage' : String) (fault fault' : IoFault) :
      Agreement octets (.error (.addressInvalid .truncated)) (.error (.io stage fault), [])
        (.error (.io stage' fault'), [])

/-- **Agreement.** The three readers cut the same field out of any octets. -/
theorem agreement (octets : Bytes) : Agreement octets (Address.decode octets)
    (takeAddress.listen octets) (skipAddress.listen octets) := by
  rw [takeAddress_eq, skipAddress_eq]
  cases Address.beginning octets with
  | nothing => exact .short _ _ _ _
  | half => exact .short _ _ _ _
  | unknown rest unknown =>
    rw [Address.decode_unknown unknown, listen_afterHead_unknown unknown,
      listen_afterHead_unknown unknown]
    exact .unknown unknown rfl
  | @head form head count rest announced =>
    rw [listen_afterHead announced, listen_afterHead announced]
    rcases Address.short_or_whole count rest with short | ⟨host, port, more, rfl, rfl⟩
    · obtain ⟨stage, fault, taken⟩ := listen_hostAndPort_short form short
      obtain ⟨stage', fault', skipped⟩ := listen_passOver_short form short
      rw [Address.decode_short announced short, taken, skipped]
      exact .short stage stage' fault fault'
    · have split : head ++ (host ++ Bytes.be16 port ++ more)
          = head ++ (host ++ Bytes.be16 port) ++ more := by simp only [List.append_assoc]
      have isField := Address.isField_iff.mpr ⟨form, head, host, port, announced, rfl, rfl⟩
      rw [Address.decode_whole announced, listen_hostAndPort, listen_passOver]
      rcases Address.ofForm_announced announced port with ⟨a, made⟩ | notText
      · rw [made] at isField ⊢
        exact .field isField split
      · rw [notText] at isField ⊢
        exact .notText isField split

/-! ### What they agree on -/

/-- Whether taking `n` octets off the front of `octets` leaves `rest`. -/
def Leaves (n : Nat) (octets rest : Bytes) : Prop :=
  ∃ front : Bytes, front.length = n ∧ octets = front ++ rest

/-- Whether octets start with a type that there is none of. -/
def StartsUnknown (tag : UInt8) (octets : Bytes) : Prop :=
  tag ≠ 1 ∧ tag ≠ 3 ∧ tag ≠ 4 ∧ ∃ rest, octets = tag :: rest

/-- Whether octets start with a whole field of `n` octets whose name is no text. -/
def StartsUnreadable (n : Nat) (octets : Bytes) : Prop :=
  ∃ field rest, IsField field none ∧ octets = field ++ rest ∧ field.length = n

section

variable {octets field rest : Bytes} {tag : UInt8} {n : Nat}

theorem leaves_iff (split : octets = field ++ rest) : Leaves n octets rest ↔ n = field.length := by
  constructor
  · intro leaves
    obtain ⟨front, counted, split'⟩ := leaves
    rw [split] at split'
    rw [List.append_cancel_right split', counted]
  · intro counted
    exact ⟨field, counted.symm, split⟩

theorem StartsUnknown.decode_eq (starts : StartsUnknown tag octets) :
    Address.decode octets = .error (.addressInvalid (.unknownType tag)) := by
  obtain ⟨one, three, four, rest, rfl⟩ := starts
  exact Address.decode_unknown (Form.ofTag?_eq_none_iff.mpr ⟨one, three, four⟩) rest

/-- Who skips a field does not look at the name in it. -/
theorem StartsUnreadable.leaves (starts : StartsUnreadable n octets) :
    ∃ rest, skipAddress.listen octets = (.ok (), rest) ∧ Leaves n octets rest := by
  obtain ⟨field, rest, isField, split, counted⟩ := starts
  have accepted : skipAddress.Accepts field () := accepts_skipAddress.mpr ⟨none, isField⟩
  exact ⟨rest, listen_eq_ok_iff.mpr ⟨field, accepted, split⟩, field, counted, split⟩

end

namespace Agreement

variable {octets : Bytes} {decoded : Except Failure.Negotiation (Address × Nat)}
  {taken : Except Failure.Negotiation Address × Bytes}
  {skipped : Except Failure.Negotiation Unit × Bytes}
  {defect : Failure.Negotiation.AddressDefect}

theorem taken_ok_iff (agree : Agreement octets decoded taken skipped) (a : Address) (n : Nat) :
    taken.1 = .ok a ∧ Leaves n octets taken.2 ↔ decoded = .ok (a, n) := by
  cases agree with
  | field isField split =>
    rw [leaves_iff split]
    simp [eq_comm]
  | notText | unknown | short => simp

theorem taken_short_iff (agree : Agreement octets decoded taken skipped) :
    (∃ stage fault, taken.1 = .error (.io stage fault))
      ↔ decoded = .error (.addressInvalid .truncated) := by
  cases agree with
  | field | notText | unknown | short => simp

theorem skipped_short_iff (agree : Agreement octets decoded taken skipped) :
    (∃ stage fault, skipped.1 = .error (.io stage fault))
      ↔ decoded = .error (.addressInvalid .truncated) := by
  cases agree with
  | field | notText | unknown | short => simp

theorem taken_invalid_iff (agree : Agreement octets (Address.decode octets) taken skipped)
    (skips : skipAddress.listen octets = skipped) (defect : Failure.Negotiation.AddressDefect) :
    taken.1 = .error (.addressInvalid defect) ↔
      Address.decode octets = .error (.addressInvalid defect)
        ∧ ((∃ tag, StartsUnknown tag octets) ∨ ∃ n, StartsUnreadable n octets) := by
  generalize decodes : Address.decode octets = decoded at agree
  cases agree with
  | field isField split => simp
  | notText isField split =>
    have starts : ∃ n, StartsUnreadable n octets := ⟨_, _, _, isField, split, rfl⟩
    simp [starts]
  | unknown none split =>
    obtain ⟨one, three, four⟩ := Form.ofTag?_eq_none_iff.mp none
    have starts : ∃ tag, StartsUnknown tag octets := ⟨_, one, three, four, _, split⟩
    simp [starts]
  | short =>
    -- octets that fall short start with neither
    have noType : ¬ ∃ tag, StartsUnknown tag octets := by
      intro starts
      obtain ⟨tag, starts⟩ := starts
      rw [starts.decode_eq] at decodes
      cases decodes
    have noName : ¬ ∃ n, StartsUnreadable n octets := by
      intro starts
      obtain ⟨n, starts⟩ := starts
      obtain ⟨rest, passed, _⟩ := starts.leaves
      rw [skips] at passed
      cases passed
    simp [noType, noName]

theorem skipped_ok_iff (agree : Agreement octets decoded taken skipped)
    (skips : skipAddress.listen octets = skipped) (n : Nat) :
    skipped.1 = .ok () ∧ Leaves n octets skipped.2 ↔ (∃ a, decoded = .ok (a, n))
      ∨ (decoded = .error (.addressInvalid .notText) ∧ StartsUnreadable n octets) := by
  cases agree with
  | field isField split =>
    rw [leaves_iff split]
    simp [eq_comm]
  | @notText field rest isField split =>
    have same : Leaves n octets rest ↔ StartsUnreadable n octets := by
      constructor
      · intro leaves
        obtain rfl := (leaves_iff split).mp leaves
        exact ⟨_, _, isField, split, rfl⟩
      · intro starts
        obtain ⟨rest, passed, leaves⟩ := starts.leaves
        rw [skips] at passed
        cases passed
        exact leaves
    simp [same]
  | unknown | short => simp

theorem skipped_invalid_iff (agree : Agreement octets (Address.decode octets) taken skipped)
    (defect : Failure.Negotiation.AddressDefect) :
    skipped.1 = .error (.addressInvalid defect) ↔
      ∃ tag, StartsUnknown tag octets ∧ defect = .unknownBoundType tag := by
  generalize decodes : Address.decode octets = decoded at agree
  cases agree with
  | unknown none split =>
    obtain ⟨one, three, four⟩ := Form.ofTag?_eq_none_iff.mp none
    constructor
    · intro same
      cases same
      exact ⟨_, ⟨one, three, four, _, split⟩, rfl⟩
    · intro starts
      obtain ⟨tag, starts, rfl⟩ := starts
      rw [starts.decode_eq] at decodes
      cases decodes
      rfl
  | field | notText | short =>
    -- the type is known, or there is none
    constructor
    · intro impossible
      cases impossible
    · intro starts
      obtain ⟨tag, starts, _⟩ := starts
      rw [starts.decode_eq] at decodes
      cases decodes

end Agreement

/-! ### The three readers on a stream -/

/-- What a performance came to if it was not given up. -/
theorem eq_ok_iff_of_mapError {α : Type} {performed : Except Talk.Stop α}
    {heard : Except Failure.Negotiation α} (same : performed = heard.mapError .failure) :
    (∀ a, performed = .ok a ↔ heard = .ok a)
      ∧ ∀ f, performed = .error (.failure f) ↔ heard = .error f := by
  subst same
  cases heard with
  | ok a => simp [Except.mapError]
  | error f => simp [Except.mapError]

/-- **The three readers agree** on a stream on which nothing goes wrong, in whatever pieces the
octets come. -/
theorem readers_agree (t : Talk) (calm : ∀ e ∈ t.stream.reads, e.isCalm = true) :
    let octets := Stream.dataOf t.stream.reads
    let decoded := Address.decode octets
    let taken := readAddress none t
    let skipped := skipAddress.perform none t
    (∀ a n, taken.1 = .ok a ∧ Leaves n octets (Stream.dataOf taken.2.stream.reads)
      ↔ decoded = .ok (a, n))
    ∧ (∀ defect, taken.1 = .error (.failure (.addressInvalid defect)) ↔
      decoded = .error (.addressInvalid defect)
        ∧ ((∃ tag, StartsUnknown tag octets) ∨ ∃ n, StartsUnreadable n octets))
    ∧ ((∃ stage fault, taken.1 = .error (.failure (.io stage fault))) ↔
      decoded = .error (.addressInvalid .truncated))
    ∧ (∀ n, skipped.1 = .ok () ∧ Leaves n octets (Stream.dataOf skipped.2.stream.reads)
      ↔ (∃ a, decoded = .ok (a, n))
        ∨ (decoded = .error (.addressInvalid .notText) ∧ StartsUnreadable n octets))
    ∧ (∀ defect, skipped.1 = .error (.failure (.addressInvalid defect)) ↔
      ∃ tag, StartsUnknown tag octets ∧ defect = .unknownBoundType tag)
    ∧ ((∃ stage fault, skipped.1 = .error (.failure (.io stage fault))) ↔
      decoded = .error (.addressInvalid .truncated)) := by
  intro octets decoded taken skipped
  have agree := agreement octets
  -- what happens on the stream is what is heard of its octets
  obtain ⟨took, tookRest⟩ : taken.1 = _ ∧ Stream.dataOf taken.2.stream.reads = _ :=
    perform_speechless speechless_takeAddress calm
  obtain ⟨passed, passedRest⟩ : skipped.1 = _ ∧ Stream.dataOf skipped.2.stream.reads = _ :=
    perform_speechless speechless_skipAddress calm
  obtain ⟨takenOk, takenError⟩ := eq_ok_iff_of_mapError took
  obtain ⟨skippedOk, skippedError⟩ := eq_ok_iff_of_mapError passed
  refine ⟨?_, ?_, ?_, ?_, ?_, ?_⟩
  · intro a n
    rw [tookRest, takenOk]
    exact agree.taken_ok_iff a n
  · intro defect
    rw [takenError]
    exact agree.taken_invalid_iff rfl defect
  · simp only [takenError]
    exact agree.taken_short_iff
  · intro n
    rw [passedRest, skippedOk]
    exact agree.skipped_ok_iff rfl n
  · intro defect
    rw [skippedError]
    exact agree.skipped_invalid_iff defect
  · simp only [skippedError]
    exact agree.skipped_short_iff

/-- A name that is no text, in pieces: it is refused by who takes it and passed over by who skips
it, and either way the field ends where its octets end. -/
theorem unreadable_name_in_pieces :
    let stream : Stream :=
      { reads := [.item [3], .yield, .item [1, 255], .delay 2, .item [0, 80, 7]], writes := []
        flushFault := none, shutdownFault := none, written := [], flushes := 0, shutdowns := 0 }
    let t : Talk := ⟨.init, stream, 0⟩
    (∀ e ∈ t.stream.reads, e.isCalm = true)
      ∧ (readAddress none t).1 = .error (.failure (.addressInvalid .notText))
      ∧ (skipAddress.perform none t).1 = .ok ()
      ∧ Stream.dataOf (skipAddress.perform none t).2.stream.reads = [7] := by
  intro stream t
  have calm : ∀ e ∈ t.stream.reads, e.isCalm = true := by decide
  have decoded : Address.decode [3, 1, 255, 0, 80, 7] = .error (.addressInvalid .notText) := by
    decide
  have unreadable : StartsUnreadable 5 [3, 1, 255, 0, 80, 7] :=
    ⟨_, [7], @IsField.name 1 [255] rfl 80, rfl, rfl⟩
  obtain ⟨_, refused, _, skips, _, _⟩ := readers_agree t calm
  obtain ⟨passed, front, counted, split⟩ := (skips 5).mpr (.inr ⟨decoded, unreadable⟩)
  refine ⟨calm, (refused .notText).mpr ⟨decoded, .inr ⟨5, unreadable⟩⟩, passed, ?_⟩
  have split : ([3, 1, 255, 0, 80] : Bytes) ++ [7] = front ++ _ := split
  exact (List.append_inj split counted.symm).2.symm

end Intercept.Proxy
