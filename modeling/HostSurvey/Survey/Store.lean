import HostSurvey.Error
import HostSurvey.Survey.Host
/-!
# Storage

Where hosts, tried ports and transfers of zones are kept. A store may refuse calls; the engine has to
live with that.

1. A host is known by its address, a transfer by its zone; what is known is not stored again.
2. The numbers of records rise, over all three kinds.
3. A call that fails changes nothing.
-/
namespace HostSurvey

open Net

/-- What a store can be asked. -/
inductive StoreCall where
  | hostExists
  | hostAdd
  | hostGetRandom
  /-- For the tried ports of a host. -/
  | portGetByHost
  | portAdd
  /-- For the transfer of a zone. -/
  | zoneGetByName
  | zoneAdd
  /-- To note that a transfer is over. -/
  | zoneFinish
  deriving Repr, DecidableEq

/-- The name of a call. -/
def StoreCall.name : StoreCall → String
  | .hostExists => "host_exists"
  | .hostAdd => "host_add"
  | .hostGetRandom => "host_get_random"
  | .portGetByHost => "port_get_by_host"
  | .portAdd => "port_add"
  | .zoneGetByName => "zone_get_by_name"
  | .zoneAdd => "zone_add"
  | .zoneFinish => "zone_finish"

def StoreCall.all : List StoreCall :=
  [.hostExists, .hostAdd, .hostGetRandom, .portGetByHost, .portAdd, .zoneGetByName, .zoneAdd,
    .zoneFinish]

/-- What is wrong with a store. -/
inductive StoreFault where
  /-- It refuses a call. -/
  | refuses (call : StoreCall)
  /-- It overlooks the hosts that it knows. -/
  | overlooksHosts
  /-- It gives no numbers to hosts. -/
  | keepsHostIds
  /-- It gives no numbers to transfers. -/
  | keepsZoneIds
  deriving Repr, DecidableEq

/-- All records that are kept (`Storage`). -/
structure Store where
  /-- The hosts, in the order in which they came. -/
  hosts : List Host
  /-- The tried ports, in the order in which they came. -/
  ports : List Port
  /-- The transfers, in the order in which they came. -/
  zones : List ZoneTransfer
  /-- The greatest number given out. -/
  lastId : RecordId
  faults : List StoreFault
  deriving Repr, DecidableEq

namespace Store

/-- A store without records or faults. -/
def empty : Store := ⟨[], [], [], 0, []⟩

/-- A call fails if the store refuses it. -/
def guard (s : Store) (call : StoreCall) : Except Error Unit :=
  if s.faults.contains (.refuses call) then .error (.storage (call.name ++ " failed")) else .ok ()

/-! ## Hosts -/

/-- The host at an address. -/
def hostAt? (s : Store) (address : Address) : Option Host :=
  s.hosts.find? (·.address = address)

/-- Whether an address is known (`host_exists`). -/
def hasHost (s : Store) (address : Address) : Except Error Bool := do
  s.guard .hostExists
  return (s.hostAt? address).isSome && !s.faults.contains .overlooksHosts

/-- Keeps a host, which gets a number (`host_add`). -/
def addHost (s : Store) (host : Host) : Except Error (Host × Store) := do
  s.guard .hostAdd
  if (s.hostAt? host.address).isSome then
    throw (.storage ("host " ++ host.address.text ++ " is already known"))
  let id := s.lastId + 1
  let stored := { host with id := some id }
  let given := if s.faults.contains .keepsHostIds then { host with id := none } else stored
  return (given, { s with hosts := s.hosts ++ [stored], lastId := id })

/-- Up to `count` hosts; `shuffle` tells in which order chance put them (`host_get_random`). -/
def someHosts (s : Store) (shuffle : List Host → List Host) (count : Nat) :
    Except Error (List Host) := do
  s.guard .hostGetRandom
  return (shuffle s.hosts).take count

/-! ## Ports -/

/-- The tried ports of a host (`port_get_by_host`). -/
def portsOf (s : Store) (host : RecordId) : Except Error (List Port) := do
  s.guard .portGetByHost
  return s.ports.filter (·.hostId = host)

/-- Keeps what came of a try (`port_add`). -/
def addPort (s : Store) (outcome : ScanOutcome) : Except Error Store := do
  s.guard .portAdd
  match outcome.host.id with
  | none =>
    throw (.storage ("cannot record port " ++ toString outcome.port.toNat ++ " of unsaved host " ++
      outcome.host.address.text))
  | some host =>
    let id := s.lastId + 1
    let port : Port := ⟨some id, host, outcome.port, outcome.tried, outcome.banner, outcome.error⟩
    return { s with ports := s.ports ++ [port], lastId := id }

/-! ## Transfers -/

/-- The transfer of a zone. -/
def zoneNamed? (s : Store) (zone : String) : Option ZoneTransfer :=
  s.zones.find? (·.zone = zone)

/-- The transfer of a zone, if the store tells (`zone_get_by_name`). -/
def findZone (s : Store) (zone : String) : Except Error (Option ZoneTransfer) := do
  s.guard .zoneGetByName
  return s.zoneNamed? zone

/-- Keeps a transfer, which gets a number (`zone_add`). -/
def addZone (s : Store) (transfer : ZoneTransfer) : Except Error (ZoneTransfer × Store) := do
  s.guard .zoneAdd
  if (s.zoneNamed? transfer.zone).isSome then
    throw (.storage ("zone " ++ transfer.zone ++ " was already attempted"))
  let id := s.lastId + 1
  let stored := { transfer with id := some id }
  let given := if s.faults.contains .keepsZoneIds then { transfer with id := none } else stored
  return (given, { s with zones := s.zones ++ [stored], lastId := id })

/-- Puts a transfer in the place of the one that the store has of the same zone. -/
def replaceZone (s : Store) (transfer : ZoneTransfer) : Except Error Store := do
  s.guard .zoneFinish
  if (s.zoneNamed? transfer.zone).isSome then
    return { s with
      zones := s.zones.map fun z => if z.zone = transfer.zone then transfer else z }
  else throw (.storage ("unknown zone " ++ transfer.zone))

end Store

/-- A transfer that is over. -/
def ZoneTransfer.finish (transfer : ZoneTransfer) (status : ZoneStatus) (now : Moment) :
    ZoneTransfer :=
  { transfer with status := status, ended := some now }

/-- Notes that a transfer is over: the one at hand, and the stored one if there is one (`zone_finish`). -/
def Store.finishZone (s : Store) (transfer : ZoneTransfer) (status : ZoneStatus) (now : Moment) :
    ZoneTransfer × Except Error Store :=
  let finished := transfer.finish status now
  (finished, s.replaceZone finished)

/-! ## The cache -/

/-- The addresses that were tried, as texts (`HostCache`). -/
structure Cache where
  /-- The keys, each once. -/
  keys : List String
  /-- Whether it can be asked. -/
  readable : Bool
  /-- Whether it can be added to. -/
  writable : Bool
  deriving Repr, DecidableEq

namespace Cache

/-- A cache without keys that works. -/
def empty : Cache := ⟨[], true, true⟩

/-- Whether a key is there (`has_key`). -/
def has (c : Cache) (key : String) : Except Error Bool :=
  if c.readable then .ok (c.keys.contains key) else .error (.cache "unreachable")

def add (c : Cache) (key : String) : Except Error Cache :=
  if !c.writable then .error (.cache "unreachable")
  else .ok (if c.keys.contains key then c else { c with keys := c.keys ++ [key] })

end Cache
end HostSurvey
