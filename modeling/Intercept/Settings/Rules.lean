import Intercept.Failure.Settings
import Intercept.Settings

/-!
# What settings must satisfy

Each part of the settings has rules; the first rule that is broken is reported. Main statement:
`check_eq_ok_iff`, settings are accepted exactly if they satisfy every rule.
-/

namespace Intercept.Settings

/-- A rule: whether it is satisfied, and what is said if it is not. -/
structure Rule where
  holds : Bool
  text : String
deriving DecidableEq

namespace Listen

def rules (l : Listen) : List Rule := [
  ⟨l.tcp || l.udp, "At least one of tcp_enabled or udp_enabled must be true"⟩,
  ⟨l.backlog ≠ 0, "tcp_backlog must be greater than 0"⟩,
  ⟨l.endpoint.port ≠ 0, "listen port must be non-zero"⟩]

end Listen

namespace ProxyServer

def rules (u : ProxyServer) : List Rule := [
  ⟨u.endpoint.port ≠ 0, "upstream port must be non-zero"⟩,
  ⟨Utf8.size u.username ≤ 255 && Utf8.size u.password ≤ 255,
    "upstream credentials are limited to 255 bytes each"⟩,
  ⟨u.scope ≠ "", "upstream scope cannot be empty"⟩]

end ProxyServer

namespace Session

def rules (s : Session) : List Rule := [
  ⟨1 ≤ s.negotiationMillis.toNat && s.negotiationMillis.toNat ≤ 600000,
    "negotiation_timeout_ms must be between 1 and 600000"⟩,
  ⟨1 ≤ s.idleSeconds.toNat && s.idleSeconds.toNat ≤ 86400,
    "udp_idle_timeout_secs must be between 1 and 86400"⟩,
  ⟨s.queueCapacity ≠ 0, "udp_channel_capacity must be greater than 0"⟩]

end Session

namespace Connection

def rules (c : Connection) : List Rule := [
  ⟨c.maximum ≠ 0, "max_connections must be greater than 0"⟩,
  ⟨1024 ≤ c.bufferSize.toNat, "buffer_size must be at least 1024 bytes"⟩,
  ⟨c.drainSeconds.toNat ≤ 86400, "drain_timeout_secs must be at most 86400"⟩]

end Connection

namespace Log

def rules (l : Log) : List Rule := [
  ⟨l.format = "json" || l.format = "text",
    "log format must be \"json\" or \"text\", got \"" ++ l.format ++ "\""⟩]

end Log

/-- All rules, in the order in which they are checked. -/
def rules (s : Settings) : List Rule :=
  s.listen.rules ++ (match s.proxy with
    | some u => u.rules
    | none => []) ++ s.session.rules ++ s.connection.rules ++ s.log.rules

/-- Settings that satisfy every rule. -/
def Valid (s : Settings) : Prop := ∀ r ∈ s.rules, r.holds = true

instance (s : Settings) : Decidable s.Valid := inferInstanceAs (Decidable (∀ r ∈ s.rules, _))

/-- The failure of the first broken rule. -/
def checkRules (rules : List Rule) : Except Failure.Settings Unit :=
  match rules.find? (!·.holds) with
  | some r => .error (.invalid r.text)
  | none => .ok ()

/-- Settings that satisfy every rule, or the failure of the first that is broken. -/
def check (s : Settings) : Except Failure.Settings Settings :=
  match checkRules s.rules with
  | .ok () => .ok s
  | .error e => .error e

theorem checkRules_eq_ok_iff {rules : List Rule} :
    checkRules rules = .ok () ↔ ∀ r ∈ rules, r.holds = true := by
  simp only [checkRules]
  split
  · rename_i r found
    constructor
    · intro h; cases h
    · intro h
      have broken := List.find?_some found
      have := h r (List.mem_of_find?_eq_some found)
      simp [this] at broken
  · rename_i none
    simpa using none

/-- **Acceptance.** Settings are accepted, unchanged, exactly if they satisfy every rule. -/
theorem check_eq_ok_iff {s t : Settings} : s.check = .ok t ↔ s.Valid ∧ t = s := by
  simp only [check, Valid, ← checkRules_eq_ok_iff]
  cases h : checkRules s.rules with
  | ok u => simp [eq_comm]
  | error e => simp

/-! ### What the rules say -/

theorem Valid.bufferSize {s : Settings} (valid : s.Valid) :
    1024 ≤ s.connection.bufferSize.toNat := by
  have rule : ⟨1024 ≤ s.connection.bufferSize.toNat, "buffer_size must be at least 1024 bytes"⟩
      ∈ s.connection.rules := List.mem_cons_of_mem _ List.mem_cons_self
  exact of_decide_eq_true (valid _ (List.mem_append_left _ (List.mem_append_right _ rule)))

theorem Valid.idleSeconds {s : Settings} (valid : s.Valid) :
    1 ≤ s.session.idleSeconds.toNat ∧ s.session.idleSeconds.toNat ≤ 86400 := by
  have rule : ⟨1 ≤ s.session.idleSeconds.toNat && s.session.idleSeconds.toNat ≤ 86400,
      "udp_idle_timeout_secs must be between 1 and 86400"⟩ ∈ s.session.rules :=
    List.mem_cons_of_mem _ List.mem_cons_self
  have holds := valid _ (List.mem_append_left _ (List.mem_append_left _
    (List.mem_append_right _ rule)))
  simpa only [Bool.and_eq_true, decide_eq_true_eq] using holds

theorem Valid.proxy {s : Settings} {u : ProxyServer} (valid : s.Valid) (through : s.proxy = some u) :
    u.endpoint.port ≠ 0 ∧ Utf8.size u.username ≤ 255 ∧ Utf8.size u.password ≤ 255 := by
  have all : ∀ r ∈ u.rules, r.holds = true := by
    intro r among
    apply valid
    refine List.mem_append_left _ (List.mem_append_left _ (List.mem_append_left _ ?_))
    rw [through]
    exact List.mem_append_right _ among
  have port := all _ List.mem_cons_self
  have sizes := all _ (List.mem_cons_of_mem _ List.mem_cons_self)
  simp only [Bool.and_eq_true, decide_eq_true_eq] at port sizes
  exact ⟨port, sizes⟩

end Intercept.Settings
