import Intercept.Ledger

/-!
# Driving a session

Every session is driven alike: it opens the way, relays if that succeeded, and releases what it
holds in any case. What a session does at each stage is its own affair, as long as it keeps its
phase in order.

## Main statements

* `phase_run`: a session that ends is established, or has failed with a failure.
-/

namespace Intercept.Session

/-- A session that can be driven: what it does at each stage. -/
structure Tunnel (σ : Type) where
  phase : σ → Proxy.Phase
  /-- Opens the way to the other side. -/
  negotiate : σ → Except Failure Unit × σ
  /-- Moves data until either side is done; no result if that never happens. -/
  relay : σ → Option Ledger.Result × σ
  /-- Releases both sides. -/
  close : σ → σ

namespace Tunnel

/-- Drives a session to its end; no result if it never ends. -/
def run {σ : Type} (t : Tunnel σ) (s : σ) : Option Ledger.Result × σ :=
  match t.negotiate s with
  | (.error f, s) => (some (.error f), t.close s)
  | (.ok (), s) => match t.relay s with
    | (none, s) => (none, s)
    | (some result, s) => (some result, t.close s)

/-- What is entered into the ledger at the end of a session. -/
def report {σ : Type} (t : Tunnel σ) (s : σ) : List Ledger.Entry :=
  match t.run s with
  | (some result, s) => Ledger.outcome (t.phase s) result
  | (none, _) => []

/-- A session that keeps its phase in order. -/
structure Orderly {σ : Type} (t : Tunnel σ) : Prop where
  established : ∀ s, (t.negotiate s).1 = .ok () → t.phase (t.negotiate s).2 = .established
  failed : ∀ s f, (t.negotiate s).1 = .error f → t.phase (t.negotiate s).2 = .failed
  relay : ∀ s, t.phase (t.relay s).2 = t.phase s
  close : ∀ s, t.phase (t.close s)
    = if t.phase s = .established then .established else .failed

/-- **Ends of a session.** A session that ends is established, or it has failed with a failure. -/
theorem phase_run {σ : Type} {t : Tunnel σ} (orderly : t.Orderly) {s : σ}
    {result : Ledger.Result} (h : (t.run s).1 = some result) :
    t.phase (t.run s).2 = .established
      ∨ (t.phase (t.run s).2 = .failed ∧ ∃ f, result = .error f) := by
  unfold run at h ⊢
  split
  · rename_i f s' hn
    simp only [hn, Option.some.injEq] at h
    have phase := orderly.failed s f (by rw [hn])
    rw [hn] at phase
    exact .inr ⟨by simp [orderly.close, phase], f, h.symm⟩
  · rename_i s' hn
    have phase := orderly.established s (by rw [hn])
    rw [hn] at phase
    have kept := orderly.relay s'
    simp only [hn] at h
    split
    · rename_i s'' hr
      simp [hr] at h
    · rename_i result' s'' hr
      rw [hr] at kept
      exact .inl (by simp [orderly.close, kept, phase])

end Tunnel

end Intercept.Session
