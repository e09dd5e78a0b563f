import Intercept.Dial
import Intercept.Session
import Intercept.Settings.Rules

/-!
# The families of a session's dials

A dial counts an IPv6 address that stands for an IPv4 address as that address, at both of its ends.
The end that a session binds does not: without spoofing it is the unspecified address of the family
in which the target is written. The two judge alike unless the target is written as IPv6 and stands
for IPv4, and to such a target no socket can be dialed.

## Main statements

* `mismatches_iff`: which dials of a session fail for the families of their ends.
-/

namespace Intercept

namespace Endpoint

/-- Whether an endpoint is written as IPv6 and stands for an IPv4 endpoint. -/
def IsMapped (e : Endpoint) : Prop := ∃ ip port scope, e = .v6 (.mapped ip) port scope

theorem family_canonical_of_mapped {e : Endpoint} (mapped : e.IsMapped) :
    e.family = .ipv6 ∧ e.canonical.family = .ipv4 := by
  obtain ⟨ip, port, scope, rfl⟩ := mapped
  refine ⟨rfl, ?_⟩
  rw [canonical, Ip.V6.mapped?_eq_some_iff.mpr rfl]
  rfl

/-- **Which endpoints change family** when they are replaced by what they stand for. -/
theorem family_canonical_ne_iff (e : Endpoint) : e.canonical.family ≠ e.family ↔ e.IsMapped := by
  constructor
  · intro changed
    cases e with
    | v4 ip port => exact absurd rfl changed
    | v6 ip port scope =>
      cases stands : ip.mapped? with
      | none => simp [canonical, stands] at changed
      | some plain => exact ⟨plain, port, scope, by rw [Ip.V6.mapped?_eq_some_iff.mp stands]⟩
  · intro mapped
    obtain ⟨written, stands⟩ := family_canonical_of_mapped mapped
    rw [written, stands]
    decide

/-- An unspecified address stands for nothing but itself. -/
@[simp]
theorem canonical_of_unspecified (f : Ip.Family) (port : UInt16) :
    (of (Ip.unspecified f) port).canonical = of (Ip.unspecified f) port := by
  cases f with
  | ipv4 => rfl
  | ipv6 => rfl

/-- Neither the port nor the scope has a part in what an endpoint stands for. -/
theorem family_canonical_of (ip : Ip) (port : UInt16) :
    (of ip port).canonical.family = ip.collapse.family := by
  rw [family, ip_canonical, ip_of]

end Endpoint

/-! ### Dials -/

/-- Whether a dial fails for the families, or the transports, of its ends. -/
def Dial.Mismatches (n : Network) (near far : Dial.Site) : Prop :=
  ∃ nearText farText, Dial.dial n near far = .error (.familyMismatch nearText farText)

/-- The network has no part in whether two ends can be joined. -/
theorem Dial.mismatches_iff_not_joinable (n : Network) (near far : Dial.Site) :
    Dial.Mismatches n near far ↔ ¬ Dial.Joinable near far := by
  constructor
  · rintro ⟨nearText, farText, failed⟩
    unfold Dial.dial at failed
    split at failed
    · exact absurd failed (Dial.attempt_ne_familyMismatch n _ nearText farText)
    · rename_i f unjoined
      exact (Dial.of?_eq_error_iff.mp unjoined).1
  · intro apart
    refine ⟨near.text, far.text, ?_⟩
    rw [Dial.dial, Dial.of?_eq_error_iff.mpr ⟨apart, rfl⟩]

theorem Dial.joinable_of_transport (transport : Transport) (near far : Endpoint) :
    Dial.Joinable ⟨transport, near⟩ ⟨transport, far⟩ ↔
      near.canonical.family = far.canonical.family :=
  and_iff_right rfl

namespace Session

/-- The family of the end that a session binds: the client's in what it stands for, the target's as
it is written. -/
theorem Terms.family_canonical_localEnd (t : Terms) (client target : Endpoint) :
    (t.localEnd client target).canonical.family
      = if t.spoofSource then client.canonical.family else target.family := by
  unfold Terms.localEnd
  by_cases spoofed : t.spoofSource = true
  · rw [if_pos spoofed, if_pos spoofed, Endpoint.family_canonical_of, Endpoint.family,
      Endpoint.ip_canonical]
  · rw [if_neg spoofed, if_neg spoofed, Endpoint.canonical_of_unspecified, Endpoint.family,
      Endpoint.ip_of, Ip.family_unspecified]

/-- **Which dials fail for the families of their ends.** On any host and over either transport, a
session that spoofs its source cannot dial a target of another family than its client's, where each
counts as what it stands for; a session that does not spoof cannot dial a target that is written as
IPv6 and stands for IPv4, whoever its client is, and can dial every other. -/
theorem mismatches_iff (n : Network) (transport : Transport) (t : Terms)
    (client target : Endpoint) :
    Dial.Mismatches n ⟨transport, t.localEnd client target⟩ ⟨transport, target⟩ ↔
      if t.spoofSource then client.canonical.family ≠ target.canonical.family
      else target.IsMapped := by
  rw [Dial.mismatches_iff_not_joinable, Dial.joinable_of_transport,
    Terms.family_canonical_localEnd]
  by_cases spoofed : t.spoofSource = true
  · rw [if_pos spoofed, if_pos spoofed]
  · rw [if_neg spoofed, if_neg spoofed, ← Endpoint.family_canonical_ne_iff]
    exact ne_comm

/-- The settings say to go through the proxy at `[::ffff:10.0.0.1]:1080` without spoofing. They
satisfy every rule, and the dial of that proxy for a client at `10.0.0.9:5` fails for the families of
its ends, since the end that is bound is `[::]:0`. -/
theorem mismatches_mapped_proxy :
    let proxy : Endpoint := .v6 (.mapped ⟨10, 0, 0, 1⟩) 1080 0
    let settings : Settings := { Settings.default with proxy := some (.at proxy) }
    let near := (Terms.ofSettings settings).localEnd (.v4 ⟨10, 0, 0, 9⟩ 5) proxy
    settings.Valid ∧ settings.session.spoofSource = false ∧ near = .v6 .unspecified 0 0
      ∧ Dial.dial .down ⟨.tcp, near⟩ ⟨.tcp, proxy⟩
        = .error (.familyMismatch "tcp://[::]:0" "tcp://[::ffff:10.0.0.1]:1080") := by
  intro proxy settings near
  have apart : ¬ Dial.Joinable ⟨.tcp, near⟩ ⟨.tcp, proxy⟩ := by decide
  have nearText : Dial.Site.text ⟨.tcp, near⟩ = "tcp://[::]:0" := by decide +kernel
  have farText : Dial.Site.text ⟨.tcp, proxy⟩ = "tcp://[::ffff:10.0.0.1]:1080" := by
    decide +kernel
  refine ⟨by decide, rfl, rfl, ?_⟩
  rw [Dial.dial, Dial.of?_eq_error_iff.mpr ⟨apart, rfl⟩, nearText, farText]

end Session

end Intercept
