import Intercept.Proofs.Endpoint.RoundTrip
import Intercept.Proofs.Json.ReadBack
import Intercept.Settings.Text

/-!
# Reading settings back

Settings are written with every field of every part, so reading them back meets no default and
leaves nothing out. What a text says may be given in many ways, but what is written for it is read
as the same settings again.

## Main statements

* `ofJson?_json`: settings are read back from their value.
* `ofText_text`: reading settings back is checking them.
* `loaded_read_back`: what was loaded is loaded again from what is written for it.
-/

namespace Intercept

namespace Settings

open Json.Record

/-! ### Parts -/

@[simp]
theorem endpoint?_endpointJson (e : Endpoint) : endpoint? (endpointJson e) = some e :=
  Endpoint.ofText?_text e

theorem Listen.ofJson?_json (l : Listen) : ofJson? l.json = some l := by
  simp [ofJson?, json, fields, ofJson?_ofMembers, required, defaulted, get?]

theorem ProxyServer.ofJson?_json (u : ProxyServer) : ofJson? u.json = some u := by
  simp [ofJson?, json, fields, ofJson?_ofMembers, required, defaulted, get?]

theorem ProxyServer.ofNullable?_null : ofNullable? .null = some none := rfl

theorem ProxyServer.ofNullable?_json (u : ProxyServer) : ofNullable? u.json = some (some u) := by
  rw [ofNullable?, ofJson?_json]
  · rfl
  · nofun

theorem Session.ofJson?_json (s : Session) : ofJson? s.json = some s := by
  simp [ofJson?, json, fields, ofJson?_ofMembers, defaulted, get?]

theorem Connection.ofJson?_json (c : Connection) : ofJson? c.json = some c := by
  simp [ofJson?, json, fields, ofJson?_ofMembers, defaulted, get?]

theorem Log.ofJson?_json (l : Log) : ofJson? l.json = some l := by
  simp [ofJson?, json, fields, ofJson?_ofMembers, defaulted, get?]

/-! ### Settings -/

theorem ofJson?_json (s : Settings) : ofJson? s.json = some s := by
  obtain ⟨listen, proxy, session, connection, log⟩ := s
  cases proxy <;>
    simp [ofJson?, json, parts, ofJson?_ofMembers, required, defaulted, get?, Listen.ofJson?_json,
      ProxyServer.ofNullable?_null, ProxyServer.ofNullable?_json, Session.ofJson?_json,
      Connection.ofJson?_json, Log.ofJson?_json]

theorem exact_endpointJson (e : Endpoint) : (endpointJson e).Exact := .string e.text

/-- Nothing is lost when settings are written. -/
theorem exact_json (s : Settings) : s.json.Exact := by
  have listen : s.listen.json.Exact := .members (by simp [exact_endpointJson])
  have proxy (u : ProxyServer) : u.json.Exact := .members (by simp [exact_endpointJson])
  have session : s.session.json.Exact := .members (by simp)
  have connection : s.connection.json.Exact := .members (by simp)
  have log : s.log.json.Exact := .members (by simp)
  refine .members ?_
  cases s.proxy <;> simp [listen, proxy, session, connection, log]

/-- **Reading back.** To read settings from what is written for them is to check them. -/
theorem ofText_text (origin : String) (s : Settings) : ofText origin s.text = s.check := by
  rw [ofText, text, Json.ofText?_text s.exact_json, Option.bind_some, ofJson?_json]

/-- **Round trip.** Settings that were loaded from some text, which may leave fields out, have
unknown members and spell characters as it likes, are loaded again from what is written for them;
and what is then written is the same text. -/
theorem loaded_read_back {origin given : String} {s : Settings}
    (loaded : ofText origin given = .ok s) (again : String) :
    ofText again s.text = .ok s ∧ (ofText again s.text).map text = .ok s.text := by
  have valid : s.Valid := by
    rw [ofText] at loaded
    split at loaded
    · cases loaded
    · obtain ⟨valid, rfl⟩ := check_eq_ok_iff.mp loaded
      exact valid
  have read : ofText again s.text = .ok s :=
    (ofText_text again s).trans (check_eq_ok_iff.mpr ⟨valid, rfl⟩)
  refine ⟨read, ?_⟩
  rw [read]
  rfl

/-- A text that gives one part as an array, leaves most fields out, has a member that nobody reads
and spells a character as a surrogate pair. Both endpoints are IPv6, one with a scope and a run of
zeros, the other standing for an IPv4 one. -/
theorem sparse_text_read_back :
    let given := "\x7b\"listen\":[\"[fe80:0::1%3]:7893\"], \"other\":1e5, \"upstream\":"
      ++ "\x7b\"address\":\"[::FFFF:a00:1]:1080\",\"username\":\"\\ud83d\\ude00\"\x7d\x7d"
    let meant : Settings := { default with
      listen := .at (.v6 ⟨0xfe80, 0, 0, 0, 0, 0, 0, 1⟩ 7893 3)
      proxy := some { ProxyServer.at (.v6 (.mapped ⟨10, 0, 0, 1⟩) 1080 0) with username := "😀" } }
    ofText inline given = .ok meant ∧ ofText inline meant.text = .ok meant
      ∧ (ofText inline meant.text).map text = .ok meant.text := by
  intro given meant
  have read : (ofText inline given).toOption = some meant := by decide +kernel
  have loaded : ofText inline given = .ok meant := by
    cases result : ofText inline given with
    | error e =>
      rw [result] at read
      cases read
    | ok s =>
      rw [result] at read
      exact congrArg Except.ok (Option.some.inj read)
  exact ⟨loaded, loaded_read_back loaded inline⟩

end Settings

end Intercept
