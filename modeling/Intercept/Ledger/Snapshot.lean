import Intercept.Json.Reader
import Intercept.Json.Record
import Intercept.Ledger

/-!
# Snapshots of the ledger

A snapshot holds the counters at a time. Of the kinds of failure it holds those that arose, by name,
in the order of the names. It is written as a JSON object of all fields in a fixed order; in a text
that is read all fields must be given, and the last of several counts under one name counts.
-/

namespace Intercept

structure Snapshot where
  tcpAccepted : UInt64
  udpFlows : UInt64
  active : UInt64
  established : UInt64
  completed : UInt64
  failed : UInt64
  rejected : UInt64
  dropped : UInt64
  bytesUp : UInt64
  bytesDown : UInt64
  /-- How often each kind of failure arose, by name, in the order of the names. -/
  failures : List (String × UInt64)
  /-- When the snapshot was taken, in milliseconds. -/
  time : UInt64
deriving DecidableEq

namespace Snapshot

/-! ### Counts by name -/

/-- Counts with one name added at its place, or with its count replaced. -/
def insert (name : String) (count : UInt64) : List (String × UInt64) → List (String × UInt64)
  | [] => [(name, count)]
  | (n, c) :: rest =>
    if name < n then (name, count) :: (n, c) :: rest
    else if name = n then (name, count) :: rest
    else (n, c) :: insert name count rest

/-- Counts added one after the other. -/
def ofCounts (counts : List (String × UInt64)) : List (String × UInt64) :=
  counts.foldl (fun sofar (name, count) => insert name count sofar) []

def count? (name : String) (counts : List (String × UInt64)) : Option UInt64 :=
  (counts.find? (·.1 == name)).map (·.2)

/-! ### Taking a snapshot -/

/-- The kinds of failure that arose, with their counts, in the order of the kinds. -/
def arisen (l : Ledger) : List (String × UInt64) :=
  (Failure.Kind.all.filter (l.failures · ≠ 0)).map fun k => (k.name, l.failures k)

/-- The ledger at a time. -/
def ofLedger (l : Ledger) (time : UInt64) : Snapshot where
  tcpAccepted := l.tcpAccepted
  udpFlows := l.udpFlows
  active := l.active
  established := l.established
  completed := l.completed
  failed := l.failed
  rejected := l.rejected
  dropped := l.dropped
  bytesUp := l.bytesUp
  bytesDown := l.bytesDown
  failures := ofCounts (arisen l)
  time := time

def totalBytes (s : Snapshot) : UInt64 := s.bytesUp + s.bytesDown

/-- The share of completed sessions among those that ended, in percent; all of none. -/
def successRate (s : Snapshot) : Float :=
  let ended := s.completed + s.failed
  if ended = 0 then 100.0 else s.completed.toFloat / ended.toFloat * 100.0

/-! ### Text -/

/-- A counter as a value. -/
def counterJson (n : UInt64) : Json := .natural n.toNat

/-- Counts by name as a value. -/
def countsJson (counts : List (String × UInt64)) : Json :=
  .ofMembers (counts.map fun (name, count) => (name, counterJson count))

def json (s : Snapshot) : Json := .ofMembers [
  ("tcp_accepted", counterJson s.tcpAccepted),
  ("udp_flows", counterJson s.udpFlows),
  ("active", counterJson s.active),
  ("established", counterJson s.established),
  ("completed", counterJson s.completed),
  ("failed", counterJson s.failed),
  ("rejected", counterJson s.rejected),
  ("dropped_datagrams", counterJson s.dropped),
  ("bytes_up", counterJson s.bytesUp),
  ("bytes_down", counterJson s.bytesDown),
  ("failures", countsJson s.failures),
  ("timestamp_ms", counterJson s.time)]

def text (s : Snapshot) : String := s.json.text

/-- Counts by name as the members of an object say. -/
def counts? : List (Option String × Json) → Option (List (String × UInt64))
  | [] => some []
  | (key, value) :: rest => do
    let name ← key
    let count ← value.word64?
    let more ← counts? rest
    return (name, count) :: more

/-- Counts by name as a value says. -/
def countsOfJson? : Json → Option (List (String × UInt64))
  | .object members => (counts? members).map ofCounts
  | _ => none

def fields : List String := [
  "tcp_accepted", "udp_flows", "active", "established", "completed", "failed", "rejected",
  "dropped_datagrams", "bytes_up", "bytes_down", "failures", "timestamp_ms"]

def ofJson? (v : Json) : Option Snapshot := do
  let r ← Json.Record.ofJson? fields v
  return {
    tcpAccepted := ← r.required "tcp_accepted" Json.word64?
    udpFlows := ← r.required "udp_flows" Json.word64?
    active := ← r.required "active" Json.word64?
    established := ← r.required "established" Json.word64?
    completed := ← r.required "completed" Json.word64?
    failed := ← r.required "failed" Json.word64?
    rejected := ← r.required "rejected" Json.word64?
    dropped := ← r.required "dropped_datagrams" Json.word64?
    bytesUp := ← r.required "bytes_up" Json.word64?
    bytesDown := ← r.required "bytes_down" Json.word64?
    failures := ← r.required "failures" countsOfJson?
    time := ← r.required "timestamp_ms" Json.word64? }

def ofText? (text : String) : Option Snapshot := (Json.ofText? text).bind ofJson?

end Snapshot

end Intercept
