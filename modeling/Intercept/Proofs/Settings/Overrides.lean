import Mathlib.Data.List.Perm.Basic
import Intercept.Settings.Load

/-!
# What the environment changes

Each override has a field of its own, and whether its value can be read does not depend on the
settings. So overrides that can all be read may be applied in any order, and of those that cannot
the first one is reported.

## Main statements

* `applyAll_eq`: what the overrides make of settings, in any order.
* `overrideIn_eq`: in any order of all overrides, the settings with four fields replaced are
  checked, unless there is something to report.
* `loadWith_eq_ok_iff`: what is loaded.
* `environment_overrides`: the law of the environment.
-/

namespace Intercept.Settings

namespace Override

/-- Whether a value can be read for the field that it overrides. -/
def isReadable : Override → String → Bool
  | .listenEndpoint, value | .proxyEndpoint, value => (Endpoint.ofText? value).isSome
  | .logLevel, _ => true
  | .maximum, value => (number? value).isSome

/-- What is said about a value that cannot be read. -/
def complaint : Override → String → String
  | .maximum, value => notNumber value
  | _, value => notEndpoint value

/-- What is reported about an override, if its variable is set to a value that cannot be read. -/
def report? (env : Environment) (o : Override) : Option Failure.Settings :=
  match env o.variableName with
  | none => none
  | some value =>
    if o.isReadable value then none else some (.environment o.variableName (o.complaint value))

/-- Whether the variable of an override is set to a value that cannot be read. -/
def IsUnreadable (env : Environment) (o : Override) : Prop :=
  ∃ value, env o.variableName = some value ∧ o.isReadable value = false

/-- What the environment says for the field of an override, as far as it can be read. -/
def given {α : Type} (env : Environment) (o : Override) (read : String → Option α) : Option α :=
  (env o.variableName).bind read

end Override

/-- The settings with the listening endpoint, the log level, the maximum number of connections and the
proxy's endpoint replaced by what the environment says. A proxy that there is keeps all else, and
one that there is not has no credentials and the default scope. -/
def overridden (env : Environment) (s : Settings) : Settings where
  listen := { s.listen with
    endpoint := (Override.listenEndpoint.given env Endpoint.ofText?).getD s.listen.endpoint }
  proxy := match Override.proxyEndpoint.given env Endpoint.ofText?, s.proxy with
    | none, proxy => proxy
    | some e, some u => some { u with endpoint := e }
    | some e, none => some ⟨e, "", "", "default"⟩
  session := s.session
  connection := { s.connection with
    maximum := (Override.maximum.given env Override.number?).getD s.connection.maximum }
  log := { s.log with level := (Override.logLevel.given env some).getD s.log.level }

/-- The settings as the environment changes them when the overrides are applied in a given order, if
they still satisfy the rules. -/
def overrideIn (order : List Override) (env : Environment) (s : Settings) :
    Except Failure.Settings Settings :=
  match applyAll env order s with
  | .ok t => t.check
  | .error e => .error e

variable {env : Environment} {s c : Settings} {o : Override} {value : String}
  {order : List Override}

/-! ### One override -/

/-- The settings with the field of one override replaced. -/
def Override.effect (env : Environment) (s : Settings) : Override → Settings
  | .listenEndpoint => { s with listen := (overridden env s).listen }
  | .logLevel => { s with log := (overridden env s).log }
  | .maximum => { s with connection := (overridden env s).connection }
  | .proxyEndpoint => { s with proxy := (overridden env s).proxy }

theorem effect_of_unset (unset : env o.variableName = none) : o.effect env s = s := by
  cases o <;> simp [Override.effect, overridden, Override.given, unset]

/-- **One override.** A value that can be read replaces the field, and any other is complained of. -/
theorem apply_eq (set : env o.variableName = some value) :
    o.apply value s =
      if o.isReadable value then .ok (o.effect env s) else .error (o.complaint value) := by
  cases o with
  | listenEndpoint =>
    cases read : Endpoint.ofText? value <;>
      simp [Override.apply, Override.isReadable, Override.complaint, Override.effect, overridden,
        Override.given, set, read]
  | logLevel =>
    simp [Override.apply, Override.isReadable, Override.effect, overridden, Override.given, set]
  | maximum =>
    cases read : Override.number? value <;>
      simp [Override.apply, Override.isReadable, Override.complaint, Override.effect, overridden,
        Override.given, set, read]
  | proxyEndpoint =>
    cases read : Endpoint.ofText? value with
    | none => simp [Override.apply, Override.isReadable, Override.complaint, read]
    | some e =>
      cases through : s.proxy <;>
        simp [Override.apply, Override.isReadable, Override.effect, overridden, Override.given,
          set, read, through, ProxyServer.at, ProxyServer.defaultScope]

theorem report?_eq_none_iff : o.report? env = none ↔ ¬ o.IsUnreadable env := by
  cases set : env o.variableName with
  | none => simp [Override.report?, Override.IsUnreadable, set]
  | some value => simp [Override.report?, Override.IsUnreadable, set]

theorem not_isUnreadable_iff :
    ¬ o.IsUnreadable env ↔
      ∀ value, env o.variableName = some value → o.isReadable value = true := by
  simp only [Override.IsUnreadable, not_exists, not_and, Bool.not_eq_false]

/-! ### Overrides one after the other -/

/-- **Overrides in any order.** The first value that cannot be read is reported, and otherwise each
override replaces its field. -/
theorem applyAll_eq (env : Environment) (order : List Override) (s : Settings) :
    applyAll env order s = match order.findSome? (Override.report? env) with
      | some e => .error e
      | none => .ok (order.foldl (Override.effect env) s) := by
  induction order generalizing s with
  | nil => rfl
  | cons o order ih =>
    rw [applyAll, List.findSome?_cons, List.foldl_cons]
    cases set : env o.variableName with
    | none =>
      have quiet : o.report? env = none := by rw [Override.report?, set]
      rw [quiet, effect_of_unset set]
      exact ih s
    | some value =>
      dsimp only
      rw [apply_eq set]
      by_cases readable : o.isReadable value = true
      · have quiet : o.report? env = none := by simp only [Override.report?, set, if_pos readable]
        rw [quiet, if_pos readable]
        exact ih (o.effect env s)
      · have reported : o.report? env
            = some (.environment o.variableName (o.complaint value)) := by
          simp only [Override.report?, set, if_neg readable]
        rw [reported, if_neg readable]

/-- Two overrides replace different fields. -/
theorem effect_comm (env : Environment) (s : Settings) (o other : Override) :
    other.effect env (o.effect env s) = o.effect env (other.effect env s) := by
  cases o <;> cases other <;> rfl

/-- All overrides together replace the four fields, in whichever order. -/
theorem foldl_effect (all : order.Perm Override.all) :
    order.foldl (Override.effect env) s = overridden env s := by
  have swaps : ∀ o ∈ order, ∀ other ∈ order, ∀ t,
      other.effect env (o.effect env t) = o.effect env (other.effect env t) := by
    intro o _ other _ t
    exact effect_comm env t o other
  exact all.foldl_eq' swaps s

/-- **The order of all overrides** decides only what is reported. -/
theorem overrideIn_eq (all : order.Perm Override.all) (env : Environment) (s : Settings) :
    overrideIn order env s = match order.findSome? (Override.report? env) with
      | some e => .error e
      | none => (overridden env s).check := by
  rw [overrideIn, applyAll_eq]
  cases order.findSome? (Override.report? env) with
  | some e => rfl
  | none => rw [foldl_effect all]

/-- An override that cannot be read is reported if none before it is. -/
theorem overrideIn_of_first (all : order.Perm Override.all) {before after : List Override}
    (place : order = before ++ o :: after) (quiet : ∀ b ∈ before, ¬ b.IsUnreadable env)
    (set : env o.variableName = some value) (unreadable : o.isReadable value = false) :
    overrideIn order env s = .error (.environment o.variableName (o.complaint value)) := by
  have nothing : before.findSome? (Override.report? env) = none := by
    apply List.findSome?_eq_none_iff.mpr
    intro b among
    exact report?_eq_none_iff.mpr (quiet b among)
  have reported : o.report? env = some (.environment o.variableName (o.complaint value)) := by
    simp [Override.report?, set, unreadable]
  rw [overrideIn_eq all, place, List.findSome?_append, nothing, List.findSome?_cons, reported]
  rfl

/-- **Any order.** Where at most one value cannot be read, the order of the overrides makes no
difference. -/
theorem overrideIn_eq_override (all : order.Perm Override.all)
    (single : ∀ o other : Override, o.IsUnreadable env → other.IsUnreadable env → o = other) :
    overrideIn order env s = s.override env := by
  show _ = overrideIn Override.all env s
  by_cases any : ∃ o : Override, o.IsUnreadable env
  · obtain ⟨o, unreadable⟩ := any
    obtain ⟨value, set, bad⟩ := unreadable
    -- it stands somewhere in either order, and nothing else is unreadable before it
    have reported : ∀ order : List Override, order.Perm Override.all →
        overrideIn order env s = .error (.environment o.variableName (o.complaint value)) := by
      intro order all
      have among : o ∈ order := all.mem_iff.mpr (by cases o <;> decide)
      obtain ⟨before, after, place, absent⟩ := List.eq_append_cons_of_mem among
      refine overrideIn_of_first all place ?_ set bad
      intro b earlier unreadable
      exact absent (single b o unreadable ⟨value, set, bad⟩ ▸ earlier)
    rw [reported order all, reported Override.all (List.Perm.refl _)]
  · have nothing : ∀ order : List Override, order.findSome? (Override.report? env) = none := by
      intro order
      apply List.findSome?_eq_none_iff.mpr
      intro o _
      exact report?_eq_none_iff.mpr fun unreadable => any ⟨o, unreadable⟩
    rw [overrideIn_eq all, overrideIn_eq (List.Perm.refl _), nothing, nothing]

/-! ### Loading -/

variable {files : Files} {path origin text : String}

theorem override_eq_ok_iff :
    s.override env = .ok c ↔ (∀ o : Override, ¬ o.IsUnreadable env)
      ∧ (overridden env s).Valid ∧ c = overridden env s := by
  show overrideIn Override.all env s = .ok c ↔ _
  rw [overrideIn_eq (List.Perm.refl _)]
  have everywhere : Override.all.findSome? (Override.report? env) = none
      ↔ ∀ o : Override, ¬ o.IsUnreadable env := by
    rw [List.findSome?_eq_none_iff]
    constructor
    · intro quiet o
      exact report?_eq_none_iff.mp (quiet o (by cases o <;> decide))
    · intro quiet o _
      exact report?_eq_none_iff.mpr (quiet o)
  rw [← everywhere]
  cases reported : Override.all.findSome? (Override.report? env) with
  | some e => simp
  | none => simp [check_eq_ok_iff]

theorem ofText_eq_ok_iff :
    ofText origin text = .ok s ↔ (Json.ofText? text).bind ofJson? = some s ∧ s.Valid := by
  rw [ofText]
  cases parsed : (Json.ofText? text).bind ofJson? with
  | none => simp
  | some t =>
    rw [check_eq_ok_iff]
    constructor
    · rintro ⟨valid, rfl⟩
      exact ⟨rfl, valid⟩
    · rintro ⟨same, valid⟩
      cases same
      exact ⟨valid, rfl⟩

theorem load_eq_ok_iff :
    load files path = .ok s ↔ ∃ text, files.readText path = .ok text ∧ ofText path text = .ok s := by
  rw [load]
  cases contents : files.readText path with
  | ok text => simp [ofFile]
  | error f =>
    rw [ofFile]
    split <;> simp

theorem loadWith_of_load (loaded : load files path = .ok s) :
    loadWith env files path = s.override env := by
  rw [load] at loaded
  rw [loadWith, ofFileWith, loaded]

/-- **What is loaded.** Settings are loaded exactly if the file alone holds settings that satisfy the
rules, the value of every variable that is set can be read, and what the environment makes of the
settings satisfies the rules again. -/
theorem loadWith_eq_ok_iff :
    loadWith env files path = .ok c ↔ ∃ s, load files path = .ok s
      ∧ (∀ o : Override, ¬ o.IsUnreadable env) ∧ (overridden env s).Valid
      ∧ c = overridden env s := by
  cases loaded : load files path with
  | ok s =>
    rw [loadWith_of_load loaded, override_eq_ok_iff]
    simp
  | error e =>
    rw [load] at loaded
    rw [loadWith, ofFileWith, loaded]
    simp

/-- Whatever the way in which settings were loaded, they satisfy the rules. -/
theorem valid_of_loaded
    (loaded : load files path = .ok c ∨ loadWith env files path = .ok c ∨ ofText origin text = .ok c) :
    c.Valid := by
  rcases loaded with file | changed | given
  · obtain ⟨text, _, read⟩ := load_eq_ok_iff.mp file
    exact (ofText_eq_ok_iff.mp read).2
  · obtain ⟨s, _, _, valid, rfl⟩ := loadWith_eq_ok_iff.mp changed
    exact valid
  · exact (ofText_eq_ok_iff.mp given).2

/-! ### The law -/

/-- **The environment.** Settings are loaded exactly if the text of the file spells settings that
satisfy the rules, every variable that is set has a value that can be read, and the settings with the
four fields replaced satisfy the rules; what is loaded is those. In whichever order all overrides are
applied, the result is the same as long as no two values cannot be read; and in any order, that in
which they are applied when settings are loaded included, the first value that cannot be read is the
one that is complained of. However settings were loaded, a proxy that they name has a port, and the
message that proves the client's identity to it can be written. -/
theorem environment_overrides :
    (∀ (env : Environment) (files : Files) (path : String) (c : Settings),
      loadWith env files path = .ok c ↔ ∃ text s, files.readText path = .ok text
        ∧ (Json.ofText? text).bind ofJson? = some s ∧ s.Valid
        ∧ (∀ (o : Override) (value : String), env o.variableName = some value →
          o.isReadable value = true)
        ∧ (overridden env s).Valid ∧ c = overridden env s)
    ∧ (∀ (order : List Override) (env : Environment) (s : Settings), order.Perm Override.all →
      ((∀ o other : Override, o.IsUnreadable env → other.IsUnreadable env → o = other) →
        overrideIn order env s = s.override env)
      ∧ (∀ before o after value, order = before ++ o :: after →
        (∀ b ∈ before, ¬ b.IsUnreadable env) → env o.variableName = some value →
        o.isReadable value = false →
          overrideIn order env s = .error (.environment o.variableName (o.complaint value))))
    ∧ (∀ (env : Environment) (files : Files) (path : String) (s : Settings),
      load files path = .ok s → ∀ before o after value,
        [Override.listenEndpoint, .logLevel, .maximum, .proxyEndpoint] = before ++ o :: after →
        (∀ b ∈ before, ¬ b.IsUnreadable env) → env o.variableName = some value →
        o.isReadable value = false →
          loadWith env files path = .error (.environment o.variableName (o.complaint value)))
    ∧ (∀ (env : Environment) (files : Files) (path origin text : String) (c : Settings),
      load files path = .ok c ∨ loadWith env files path = .ok c ∨ ofText origin text = .ok c →
        ∀ u, c.proxy = some u → u.endpoint.port ≠ 0 ∧ ∃ message, u.credential.proof = .ok message) := by
  refine ⟨?_, ?_, ?_, ?_⟩
  · intro env files path c
    simp only [loadWith_eq_ok_iff, load_eq_ok_iff, ofText_eq_ok_iff, not_isUnreadable_iff]
    constructor
    · rintro ⟨s, ⟨text, contents, parsed, valid⟩, readable, again, same⟩
      exact ⟨text, s, contents, parsed, valid, readable, again, same⟩
    · rintro ⟨text, s, contents, parsed, valid, readable, again, same⟩
      exact ⟨s, ⟨text, contents, parsed, valid⟩, readable, again, same⟩
  · intro order env s all
    exact ⟨overrideIn_eq_override all, fun _ _ _ _ => overrideIn_of_first all⟩
  · intro env files path s loaded before o after value place quiet set unreadable
    rw [loadWith_of_load loaded]
    exact overrideIn_of_first (List.Perm.refl Override.all) place quiet set unreadable
  · intro env files path origin text c loaded u through
    have valid : c.Valid := valid_of_loaded loaded
    obtain ⟨port, username, password⟩ := valid.proxy through
    exact ⟨port, _, Proxy.Credential.proof_eq_ok_iff.mpr ⟨username, password, rfl⟩⟩

/-- A file with a proxy and a username. One environment moves the proxy and limits the connections, and
another sets two variables to values that cannot be read. -/
theorem moved_proxy_and_two_unreadable :
    let text := "\x7b\"listen\":[\"127.0.0.1:7893\"],\"upstream\":"
      ++ "\x7b\"address\":\"10.0.0.1:1080\",\"username\":\"u\"\x7d\x7d"
    let files : Files := fun path =>
      if path = "c" then .ok (Utf8.encode text) else .error (.system 2)
    let moves : Environment := fun name =>
      if name = "TPROXY_TUNNEL_UPSTREAM_ADDR" then some "[::1]:01080"
      else if name = "TPROXY_TUNNEL_MAX_CONNECTIONS" then some "+12" else none
    let spoils : Environment := fun name =>
      if name = "TPROXY_TUNNEL_LISTEN_ADDR" then some "here"
      else if name = "TPROXY_TUNNEL_MAX_CONNECTIONS" then some "-1" else none
    let filed : Settings := { default with
      proxy := some { ProxyServer.at (.v4 ⟨10, 0, 0, 1⟩ 1080) with username := "u" } }
    let loaded : Settings := { filed with
      proxy := some { ProxyServer.at (.v6 ⟨0, 0, 0, 0, 0, 0, 0, 1⟩ 1080 0) with username := "u" }
      connection := { Connection.default with maximum := 12 } }
    loadWith moves files "c" = .ok loaded
      ∧ overrideIn [.proxyEndpoint, .maximum, .logLevel, .listenEndpoint] moves filed = .ok loaded
      ∧ loadWith spoils files "c"
        = .error (.environment "TPROXY_TUNNEL_LISTEN_ADDR" "Invalid socket address: here")
      ∧ overrideIn [.proxyEndpoint, .maximum, .logLevel, .listenEndpoint] spoils filed
        = .error (.environment "TPROXY_TUNNEL_MAX_CONNECTIONS" "Invalid number: -1")
      ∧ ∀ u, loaded.proxy = some u → u.endpoint.port ≠ 0
        ∧ ∃ message, u.credential.proof = .ok message := by
  intro text files moves spoils filed loaded
  have contents : files.readText "c" = .ok text := by decide +kernel
  have parsed : (Json.ofText? text).bind ofJson? = some filed := by decide +kernel
  have valid : filed.Valid := by decide +kernel
  have file : load files "c" = .ok filed := by decide +kernel
  have reversed : List.Perm [.proxyEndpoint, .maximum, .logLevel, .listenEndpoint] Override.all :=
    by decide
  obtain ⟨loads, orders, first, proxies⟩ := environment_overrides
  obtain ⟨same, _⟩ := orders _ moves filed reversed
  obtain ⟨_, reported⟩ := orders _ spoils filed reversed
  have readable : ∀ (o : Override) (value : String), moves o.variableName = some value →
      o.isReadable value = true := by
    intro o value set
    have known : (moves o.variableName).all o.isReadable = true := by
      cases o <;> decide +kernel
    rw [set] at known
    exact known
  have moved := (loads moves files "c" loaded).mpr
    ⟨text, filed, contents, parsed, valid, readable, by decide +kernel, by decide +kernel⟩
  have quiet : ∀ o : Override, ¬ o.IsUnreadable moves :=
    fun o => not_isUnreadable_iff.mpr (readable o)
  have listen := first spoils files "c" filed file [] .listenEndpoint _ "here" rfl nofun
    (by decide +kernel) (by decide +kernel)
  have unset : ∀ b ∈ [Override.proxyEndpoint], ¬ b.IsUnreadable spoils := by
    intro b among
    obtain rfl := List.mem_singleton.mp among
    apply not_isUnreadable_iff.mpr
    intro value set
    have none : spoils Override.proxyEndpoint.variableName = none := by decide +kernel
    rw [none] at set
    cases set
  have maximum := reported [.proxyEndpoint] .maximum _ "-1" rfl unset (by decide +kernel)
    (by decide +kernel)
  refine ⟨moved, ?_, listen, maximum, proxies moves files "c" "" "" loaded (.inr (.inl moved))⟩
  rw [same fun o other unreadable _ => absurd unreadable (quiet o)]
  exact (loadWith_of_load file).symm.trans moved

end Intercept.Settings
