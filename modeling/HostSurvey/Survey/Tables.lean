import HostSurvey.Survey.Store
/-!
# Tables

How a store is kept in memory: the hosts in the order in which they came beside an index of their addresses,
the tried ports of each host, the transfer of each zone, and one counter for the numbers of all records.

A call works on the tables and on what its caller has in hand, one step after the other. If it fails, what it
did by then stays done.
-/
namespace HostSurvey

open Net

/-- A table with one value for each key. -/
abbrev Keyed (κ ν : Type) := List (κ × ν)

/-- Puts a value in the place of the one that a key has. -/
def Keyed.insert {κ ν : Type} [DecidableEq κ] (table : Keyed κ ν) (key : κ) (value : ν) : Keyed κ ν :=
  (key, value) :: table.filter (·.1 ≠ key)

/-- Without the value of one key, the others are still there. -/
theorem Keyed.lookup_others {κ ν : Type} [DecidableEq κ] (table : Keyed κ ν) {key other : κ}
    (different : other ≠ key) : (table.filter (·.1 ≠ key)).lookup other = table.lookup other := by
  induction table with
  | nil => rfl
  | cons first rest ih =>
    by_cases replaced : first.1 = key
    · have unlike : (other == first.1) = false := beq_false_of_ne (replaced ▸ different)
      rw [List.filter_cons_of_neg (by simpa using replaced), ih, List.lookup_cons, unlike]
    · rw [List.filter_cons_of_pos (by simpa using replaced), List.lookup_cons, List.lookup_cons, ih]

structure Tables where
  /-- The hosts, in the order in which they came. -/
  hosts : List Host
  /-- The numbers of the hosts, by their addresses. -/
  byAddress : Keyed Address RecordId
  /-- The tried ports of each host, in the order in which they came. -/
  ports : Keyed RecordId (List Port)
  zones : Keyed String ZoneTransfer
  /-- The greatest number given out. -/
  lastId : RecordId
  deriving Repr, DecidableEq

namespace Tables

def empty : Tables := ⟨[], [], [], [], 0⟩

/-! ## Looking up -/

def hostExists (t : Tables) (address : Address) : Bool :=
  (t.byAddress.lookup address).isSome

/-- Up to `count` hosts; `shuffle` tells in which order chance put them (`host_get_random`). -/
def hostGetRandom (t : Tables) (shuffle : List Host → List Host) (count : Nat) : List Host :=
  (shuffle t.hosts).take count

def portGetByHost (t : Tables) (host : RecordId) : List Port :=
  (t.ports.lookup host).getD []

def zoneGetByName (t : Tables) (zone : String) : Option ZoneTransfer :=
  t.zones.lookup zone

/-! ## Calls -/

/-- A call that may change the tables and what its caller has in hand, and that may fail. -/
abbrev Call (σ α : Type) := ExceptT Error (StateM (σ × Tables)) α

variable {σ : Type}

/-- Changes the tables. -/
def onTables (f : Tables → Tables) : Call σ Unit :=
  modify fun (object, t) => (object, f t)

/-- Changes what the caller has in hand. -/
def onObject (f : σ → σ) : Call σ Unit :=
  modify fun (object, t) => (f object, t)

/-- Gives out the next number (`Tables::next_id`). -/
def nextId : Call σ RecordId := do
  onTables fun t => { t with lastId := t.lastId + 1 }
  return (← get).2.lastId

/-- Keeps the host that the caller has in hand, which gets a number (`host_add`). -/
def hostAdd : Call Host RecordId := do
  let (host, t) ← get
  if t.hostExists host.address then
    throw (.storage ("host " ++ host.address.text ++ " is already known"))
  let id ← nextId
  onObject fun host => { host with id := some id }
  onTables fun t => { t with byAddress := t.byAddress.insert host.address id }
  modify fun (host, t) => (host, { t with hosts := t.hosts ++ [host] })
  return id

/-- Keeps the outcome of a try that the caller has in hand (`port_add`). -/
def portAdd : Call ScanOutcome Unit := do
  let (outcome, _) ← get
  match outcome.host.id with
  | none =>
    throw (.storage ("cannot record port " ++ toString outcome.port.toNat ++ " of unsaved host " ++
      outcome.host.address.text))
  | some host =>
    let id ← nextId
    let port : Port := ⟨some id, host, outcome.port, outcome.tried, outcome.banner, outcome.error⟩
    onTables fun t => { t with ports := t.ports.insert host (t.portGetByHost host ++ [port]) }

/-- Keeps the transfer that the caller has in hand, which gets a number (`zone_add`). -/
def zoneAdd : Call ZoneTransfer RecordId := do
  let (transfer, t) ← get
  if (t.zoneGetByName transfer.zone).isSome then
    throw (.storage ("zone " ++ transfer.zone ++ " was already attempted"))
  let id ← nextId
  onObject fun transfer => { transfer with id := some id }
  modify fun (transfer, t) => (transfer, { t with zones := t.zones.insert transfer.zone transfer })
  return id

/-- Notes that a transfer is over: first the one that the caller has in hand, then the one of its zone
(`zone_finish`). -/
def zoneFinish (status : ZoneStatus) (now : Moment) : Call ZoneTransfer Unit := do
  onObject fun transfer => transfer.finish status now
  let (transfer, t) ← get
  if (t.zoneGetByName transfer.zone).isSome then
    onTables fun t => { t with zones := t.zones.insert transfer.zone transfer }
  else throw (.storage ("unknown zone " ++ transfer.zone))

end Tables

/-! ## Calls in a row -/

/-- What a caller has in hand. -/
inductive Object where
  | host (host : Host)
  | outcome (outcome : ScanOutcome)
  | transfer (transfer : ZoneTransfer)
  deriving Repr, DecidableEq

/-- A call that may change what is kept, with what the caller has in hand. -/
inductive Change where
  | hostAdd (host : Host)
  | portAdd (outcome : ScanOutcome)
  | zoneAdd (transfer : ZoneTransfer)
  | zoneFinish (transfer : ZoneTransfer) (status : ZoneStatus) (now : Moment)
  deriving Repr, DecidableEq

/-- What comes of a call. -/
structure Reply where
  /-- The number given out, if the call gives out one, or why it failed. -/
  result : Except Error (Option RecordId)
  /-- What the caller has in hand now. -/
  object : Object

namespace Tables

/-- Answers one call. -/
def serve (t : Tables) : Change → Reply × Tables
  | .hostAdd host =>
    let (result, host, t) := hostAdd.run (host, t)
    (⟨result.map some, .host host⟩, t)
  | .portAdd outcome =>
    let (result, outcome, t) := portAdd.run (outcome, t)
    (⟨result.map fun _ => some t.lastId, .outcome outcome⟩, t)
  | .zoneAdd transfer =>
    let (result, transfer, t) := zoneAdd.run (transfer, t)
    (⟨result.map some, .transfer transfer⟩, t)
  | .zoneFinish transfer status now =>
    let (result, transfer, t) := (zoneFinish status now).run (transfer, t)
    (⟨result.map fun _ => none, .transfer transfer⟩, t)

/-- Answers calls one after the other, and tells what came of each. -/
def serveAll (t : Tables) : List Change → List (Change × Reply) × Tables
  | [] => ([], t)
  | call :: rest =>
    let (reply, t) := t.serve call
    let (history, t) := t.serveAll rest
    ((call, reply) :: history, t)

end Tables
end HostSurvey
