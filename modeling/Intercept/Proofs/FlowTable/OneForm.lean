import Intercept.Proofs.Address.RoundTrip
import Intercept.Proofs.Address.WriteBack
import Intercept.Proofs.ControlRecord.FirstMatch
import Intercept.Proofs.FlowTable.Registration
import Intercept.Proofs.Proxy.SingleUse
import Intercept.Proxy.Envelope

/-!
# One form for every address

However an address comes into the program, it is in its canonical form: no IPv6 address stands for
an IPv4 one. So what would be written for two addresses is the same only if they are, and the flow
table, in which flows are told apart by their addresses as they are, tells them apart by what is
written for them.

## Main statements

* `Address.FromOutside.canonical_eq`: an address from outside is canonical.
* `Address.FromOutside.encode_eq_iff`: two of them are written alike only if they are the same.
* `registered_step`: what one event does to the flows that are registered.
* `Keyed.step`, `keyed_run`: no flow is ever registered twice.
* `addresses_have_one_form`: the law of both.
-/

namespace Intercept

namespace Address

variable {a b : Address} {octets : Bytes} {port : UInt16}

/-! ### Where addresses come from -/

/-- The ways in which addresses come into the program. -/
inductive FromOutside : Address → Prop where
  | host {host : String} {port : UInt16} {a : Address} : ofHost? host port = .ok a → FromOutside a
  | octets {octets : Bytes} {port : UInt16} {a : Address} :
      ofOctets octets port = .ok a → FromOutside a
  | ip (ip : Ip) (port : UInt16) : FromOutside (ofIp ip port)
  | endpoint (e : Endpoint) : FromOutside (ofEndpoint e)
  /-- From a field in front of some octets. -/
  | field {octets : Bytes} {a : Address} {used : Nat} :
      decode octets = .ok (a, used) → FromOutside a
  /-- From a field that is taken off a stream. -/
  | stream {limit : Stream.Limit} {t : Proxy.Talk} {a : Address} :
      (Proxy.readAddress limit t).1 = .ok a → FromOutside a
  /-- From the control records beside a datagram. -/
  | control {octets : Bytes} {a : Address} :
      ControlRecord.statedDestination octets = .ok a → FromOutside a
  /-- From the envelope of a datagram. -/
  | envelope {datagram : Bytes} {p : Proxy.Packet} :
      Proxy.Packet.unwrap datagram = .ok p → FromOutside p.address
  /-- The address of a relay, from a negotiation in whatever state. -/
  | bound {n : Proxy.Negotiator} {horizon : Stream.Limit} {now : Nat} {stream : Stream}
      {a : Address} :
      (n.associate horizon now stream).outcome = .ok (some a) → FromOutside a

theorem canonical_ofForm {form : Form} (made : ofForm form octets port = .ok a) :
    a.canonical = a := by
  cases form with
  | v4 => exact canonical_ofOctets made
  | v6 => exact canonical_ofOctets made
  | name =>
    simp only [ofForm] at made
    split at made
    · cases made
      rfl
    · cases made

theorem canonical_of_isField (field : IsField octets (some a)) : a.canonical = a := by
  obtain ⟨form, _, host, port, _, _, named⟩ := isField_iff.mp field
  cases made : ofForm form host port with
  | error e => simp [made, Except.toOption] at named
  | ok b =>
    obtain rfl : a = b := by simpa [made, Except.toOption] using named
    exact canonical_ofForm made

theorem canonical_states {r : ControlRecord} (states : r.States a) : a.canonical = a := by
  cases states with
  | v4 => rfl
  | v6 => exact canonical_ofIp _ _

/-- **Addresses from outside** are in their canonical form. -/
theorem FromOutside.canonical_eq (comes : FromOutside a) : a.canonical = a := by
  cases comes with
  | host made => exact canonical_ofHost? made
  | octets made => exact canonical_ofOctets made
  | ip => exact canonical_ofIp _ _
  | endpoint => exact canonical_ofEndpoint _
  | field read =>
    obtain ⟨field, _, isField, _, _⟩ := decode_eq_ok_iff.mp read
    exact canonical_of_isField isField
  | stream taken =>
    obtain ⟨field, accepted⟩ := Proxy.Dialogue.accepts_of_perform taken
    exact canonical_of_isField (Proxy.Dialogue.accepts_takeAddress.mp accepted)
  | control stated =>
    obtain ⟨_, _, r, _, _, _, _, _, states⟩ := ControlRecord.exists_first_match stated
    exact canonical_states states
  | envelope unwrapped =>
    obtain ⟨_, _, ip, port, payload, _, rfl⟩ := Proxy.Packet.unwrap_eq_ok_iff.mp unwrapped
    rfl
  | bound ok =>
    obtain ⟨field, isField⟩ := Proxy.Negotiator.exists_isField_of_run ok
    exact canonical_of_isField isField

/-- A canonical IPv6 address stands for no IPv4 address. -/
theorem mapped_ne_of_canonical {ip : Ip.V6} {port : UInt16} (plain : Ip.V4)
    (canonical : (Address.v6 ip port).canonical = .v6 ip port) : ip ≠ .mapped plain := by
  intro stands
  have mapped := Ip.V6.mapped?_eq_some_iff.mpr stands
  rw [Address.canonical, ofIp, Ip.collapse_v6_of_mapped? mapped] at canonical
  cases canonical

/-- **Written forms.** Addresses from outside that can be written are written alike only if they are
the same. -/
theorem FromOutside.encode_eq_iff (comes : FromOutside a) (other : FromOutside b)
    {field : Bytes} (written : a.encode = .ok field) : a.encode = b.encode ↔ a = b := by
  rw [Address.encode_eq_iff written, comes.canonical_eq, other.canonical_eq]

end Address

namespace FlowTable

variable {t : FlowTable} {allowed : Session.Flow → Prop}

/-! ### Flows that are registered -/

/-- How the registered flows may change. -/
inductive Reregisters (t : FlowTable) : Event → List (Session.Flow × Nat) → Prop where
  | same (e : Event) : Reregisters t e t.registered
  | forgets (e : Event) (flow : Session.Flow) : Reregisters t e (t.forget flow).registered
  | enrolls (flow : Session.Flow) (payload : Bytes) (hasSlot : Bool) (number : Nat) :
      Reregisters t (.datagram flow payload hasSlot) (t.enroll flow number).registered

theorem registered_enroll_forget (t : FlowTable) (flow : Session.Flow) (number : Nat) :
    ((t.forget flow).enroll flow number).registered = (t.enroll flow number).registered := by
  simp [enroll, forget]

theorem reregisters_openSession (t : FlowTable) (flow : Session.Flow) (payload : Bytes)
    (hasSlot : Bool) : Reregisters t (.datagram flow payload hasSlot)
      (t.openSession flow payload hasSlot).2.registered := by
  cases hasSlot with
  | true => exact .enrolls flow payload true t.members.length
  | false => exact .same _

theorem reregisters_openSession_forget (t : FlowTable) (flow : Session.Flow) (payload : Bytes)
    (hasSlot : Bool) : Reregisters t (.datagram flow payload hasSlot)
      ((t.forget flow).openSession flow payload hasSlot).2.registered := by
  cases hasSlot with
  | true =>
    have enrolls := Reregisters.enrolls (t := t) flow payload true t.members.length
    rw [← registered_enroll_forget] at enrolls
    exact enrolls
  | false => exact .forgets _ flow

/-- **One event** leaves the registered flows as they are, forgets one, or registers the flow of a
datagram, which is then registered only once. -/
theorem registered_step (t : FlowTable) (e : Event) : Reregisters t e (t.step e).registered := by
  cases e with
  | datagram flow payload hasSlot =>
    simp only [step, dispatch]
    split
    · exact reregisters_openSession t flow payload hasSlot
    · split
      · exact reregisters_openSession t flow payload hasSlot
      · split
        · exact reregisters_openSession_forget t flow payload hasSlot
        · split <;> exact .same _
  | take | close => exact .same _
  | finish n =>
    simp only [step, finish]
    split
    · split <;> exact .same _
    · exact .same _
  | reap =>
    cases next : t.notices with
    | nil =>
      simp only [step, reapNext, next]
      exact .same _
    | cons flow notices =>
      simp only [step, reapNext_eq next, reap]
      split
      · split
        · exact .same _
        · exact .forgets _ flow
      · exact .same _

/-- Whether no flow is registered twice, and all that are registered are among those allowed. -/
structure Keyed (allowed : Session.Flow → Prop) (registered : List (Session.Flow × Nat)) :
    Prop where
  once : (registered.map (·.1)).Nodup
  each : ∀ entry ∈ registered, allowed entry.1

theorem Keyed.forget (keyed : Keyed allowed t.registered) (flow : Session.Flow) :
    Keyed allowed (t.forget flow).registered where
  once := keyed.once.sublist (List.filter_sublist.map _)
  each entry found := keyed.each entry (List.mem_of_mem_filter found)

theorem Keyed.enroll (keyed : Keyed allowed t.registered) {flow : Session.Flow} (new : allowed flow)
    (number : Nat) : Keyed allowed (t.enroll flow number).registered := by
  have rest := keyed.forget flow
  have fresh : flow ∉ (t.forget flow).registered.map (·.1) := by
    intro found
    obtain ⟨entry, kept, same⟩ := List.mem_map.mp found
    simp only [FlowTable.forget, List.mem_filter, decide_eq_true_eq] at kept
    exact kept.2 same
  exact ⟨List.nodup_cons.mpr ⟨fresh, rest.once⟩, List.forall_mem_cons.mpr ⟨new, rest.each⟩⟩

theorem Keyed.step (keyed : Keyed allowed t.registered) {e : Event}
    (comes : ∀ flow payload hasSlot, e = .datagram flow payload hasSlot → allowed flow) :
    Keyed allowed (t.step e).registered := by
  have change := registered_step t e
  generalize (t.step e).registered = registered at change
  cases change with
  | same => exact keyed
  | forgets _ flow => exact keyed.forget flow
  | enrolls flow payload hasSlot number =>
    exact keyed.enroll (comes flow payload hasSlot rfl) number

/-- **At no moment** is a flow registered twice, nor one that no datagram came for. -/
theorem keyed_run (keyed : Keyed allowed t.registered) {history : List Event}
    (comes : ∀ flow payload hasSlot, .datagram flow payload hasSlot ∈ history → allowed flow) :
    Keyed allowed (t.run history).registered := by
  induction history generalizing t with
  | nil => exact keyed
  | cons e later ih =>
    refine ih (keyed.step ?_) fun flow payload hasSlot found => comes _ _ _ (.tail _ found)
    rintro flow payload hasSlot rfl
    exact comes _ _ _ (.head _)

/-- **One form.** Every address from outside is in its canonical form; none is an IPv6 address that
stands for an IPv4 one. Two of them that can be written are written alike exactly if they are the
same. So in a flow table, through whatever history of datagrams whose destinations come from
outside, no two flows of one client are registered whose destinations are written alike. -/
theorem addresses_have_one_form :
    (∀ a, Address.FromOutside a → a.canonical = a
      ∧ ∀ ip port plain, a = .v6 ip port → ip ≠ .mapped plain)
    ∧ (∀ a b, Address.FromOutside a → Address.FromOutside b → a.IsEncodable → b.IsEncodable →
      ∃ field other, a.encode = .ok field ∧ b.encode = .ok other ∧ (field = other ↔ a = b))
    ∧ ∀ capacity history, (∀ flow payload hasSlot, .datagram flow payload hasSlot ∈ history →
        Address.FromOutside flow.destination) →
      ((start capacity).run history).registered.Pairwise fun one other =>
        ¬ (one.1.client = other.1.client ∧ ∃ field, one.1.destination.encode = .ok field
          ∧ other.1.destination.encode = .ok field) := by
  refine ⟨fun a comes => ⟨comes.canonical_eq, ?_⟩, fun a b comes other fits otherFits => ?_,
    fun capacity history comes => ?_⟩
  · rintro ip port plain rfl
    exact Address.mapped_ne_of_canonical plain comes.canonical_eq
  · obtain ⟨field, written⟩ := (Address.exists_encode_eq a).mpr fits
    obtain ⟨otherField, otherWritten⟩ := (Address.exists_encode_eq b).mpr otherFits
    have same := comes.encode_eq_iff other written
    rw [written, otherWritten, Except.ok.injEq] at same
    exact ⟨field, otherField, written, otherWritten, same⟩
  · have empty : Keyed (fun flow => Address.FromOutside flow.destination)
        (start capacity).registered := ⟨.nil, nofun⟩
    obtain ⟨once, each⟩ := keyed_run empty comes
    refine (List.pairwise_map.mp once).imp_of_mem fun {one other} found otherFound differ => ?_
    rintro ⟨client, field, written, otherWritten⟩
    have destination := ((each one found).encode_eq_iff (each other otherFound) written).mp
      (written.trans otherWritten.symm)
    obtain ⟨⟨_, _⟩, _⟩ := one
    obtain ⟨⟨_, _⟩, _⟩ := other
    cases client
    cases destination
    exact differ rfl

/-- One destination as the system states it of an IPv6 socket and as the octets of an IPv4 address,
and another as text. The second datagram finds the session of the first, and the third is of a flow
of its own. -/
theorem addresses_have_one_form_dual_stack :
    let stated := Address.ofEndpoint (.v6 (.mapped ⟨10, 0, 0, 1⟩) 53 2)
    let plain := Address.v4 ⟨10, 0, 0, 1⟩ 53
    let spelled := Address.name "dns.test" 53
    let history : List Event := [.datagram ⟨.v4 ⟨10, 0, 0, 9⟩ 4000, stated⟩ [1] true,
      .datagram ⟨.v4 ⟨10, 0, 0, 9⟩ 4000, plain⟩ [2] true,
      .datagram ⟨.v4 ⟨10, 0, 0, 9⟩ 4000, spelled⟩ [3] true]
    Address.ofOctets [10, 0, 0, 1] 53 = .ok plain ∧ stated = plain
      ∧ ((start 4).run history).registered.length = 2
      ∧ ((start 4).run history).registered.Pairwise fun one other =>
        ¬ (one.1.client = other.1.client ∧ ∃ field, one.1.destination.encode = .ok field
          ∧ other.1.destination.encode = .ok field) := by
  intro stated plain spelled history
  have fromSystem : Address.FromOutside stated := .endpoint _
  have fromOctets : Address.FromOutside plain :=
    @Address.FromOutside.octets [10, 0, 0, 1] 53 plain rfl
  have fromText : Address.FromOutside spelled :=
    @Address.FromOutside.host "[dns.test]" 53 spelled (by decide +kernel)
  obtain ⟨_, alike, keyed⟩ := addresses_have_one_form
  obtain ⟨_, _, written, otherWritten, same⟩ :=
    alike stated plain fromSystem fromOctets trivial trivial
  refine ⟨rfl, same.mp ?_, by decide, keyed 4 history ?_⟩
  · exact Except.ok.inj (written.symm.trans (Eq.trans rfl otherWritten))
  · intro flow payload hasSlot found
    simp only [history, List.mem_cons, Event.datagram.injEq, List.not_mem_nil, or_false] at found
    rcases found with ⟨rfl, _⟩ | ⟨rfl, _⟩ | ⟨rfl, _⟩
    · exact fromSystem
    · exact fromOctets
    · exact fromText

end FlowTable

end Intercept
