import HostSurvey.Settings.Options
import HostSurvey.Transfer.Ingest
import HostSurvey.Transfer.Session
import HostSurvey.Transfer.Zone
/-!
# Transfers

Each host name that comes in names a zone. A zone is asked for once, at its name servers in turn, until
one of them sends it.

1. `nameserverAddresses` yields each address once, in the order in which the look-ups ended.
2. `attempt` asks one server. What it sent before it failed stays.
3. `perform` tells how many records the first server sent that sent any.
4. `process` keeps the zone in storage before it asks, and notes afterwards how it went.
-/
namespace HostSurvey.Transfer

open Net Settings

/-- Looks up names one after the other. A name that cannot be looked up has no addresses. -/
def lookUpEach : List String → Activity (List (List Address))
  | [] => pure []
  | name :: rest => do
    let found ← Activity.request (.addresses name)
    return (found.toOption.getD []) :: (← lookUpEach rest)

/-- The addresses of the name servers of a zone (`nameserver_addresses`). Look-ups run side by side: `arrange` tells
in which order they ended. -/
def nameserverAddresses (arrange : List (List Address) → List (List Address)) (zone : String) :
    Activity (Except Error (List Address)) := do
  match ← Activity.request (.nameservers zone) with
  | .error e => return .error e
  | .ok names => return .ok (arrange (← lookUpEach names)).flatten.eraseDups

/-- Takes in the records of an envelope, and traces them. -/
def takeRecords (dns : Dns.Library) (traced : Bool) (zone : String) : List Dns.Record → Activity Unit
  | [] => pure ()
  | r :: rest => do
    if traced then Activity.request (.traceLine zone (dns.recordText r))
    ingest dns r
    takeRecords dns traced zone rest

/-- Takes in envelopes: how many records came, and the error that ended them, if one did. -/
def takeEnvelopes (dns : Dns.Library) (traced : Bool) (zone : String) (received : Nat) :
    List Envelope → Activity (Nat × Option Error)
  | [] => pure (received, none)
  | .error e :: _ => pure (received, some e)
  | .ok records :: rest => do
    takeRecords dns traced zone records
    takeEnvelopes dns traced zone (received + records.length) rest

/-- Asks one server for a zone, with a request that bears a number (`attempt`). -/
def attempt (dns : Dns.Library) (settings : TransferSettings) (id : UInt16) (zone : String) (address : Address) :
    Activity (Except Error Nat) := do
  let server : Endpoint := ⟨address, settings.port⟩
  match dns.parse? zone with
  | none => return .error .malformed
  | some name =>
    match ← Activity.request (.zoneFrom server settings.timeout name) with
    | .error e => return .error e
    | .ok stream =>
      let session : Session := ⟨zone, server, settings.timeout, id, stream, 0, false⟩
      let traced ← Activity.request (.traceBegin zone)
      let (received, failure) ← takeEnvelopes dns traced zone 0 (session.envelopes dns)
      if traced && received == 0 then Activity.request (.traceRemove zone)
      match failure with
      | some e => return .error e
      | none =>
        if received = 0 then return .error (.transfer zone (server.text ++ " sent no records"))
        else return .ok received

/-- Asks servers in turn until one sends the zone. `failure` is the last error so far, of `count`
servers in all. -/
def tryServers (dns : Dns.Library) (settings : TransferSettings) (id : UInt16) (zone : String) (count : Nat)
    (failure : String) : List Address → Activity (Except Error Nat)
  | [] => pure (.error (.transfer zone
      ("none of " ++ toString count ++ " servers agreed, last error: " ++ failure)))
  | server :: rest => do
    match ← attempt dns settings id zone server with
    | .ok received => return .ok received
    | .error e => tryServers dns settings id zone count e.message rest

/-- Asks the name servers of a zone for it (`perform`). -/
def perform (dns : Dns.Library) (settings : TransferSettings)
    (arrange : List (List Address) → List (List Address)) (id : UInt16) (zone : String) :
    Activity (Except Error Nat) := do
  match ← nameserverAddresses arrange zone with
  | .error e => return .error e
  | .ok [] => return .error (.transfer zone "no nameserver could be resolved")
  | .ok servers => tryServers dns settings id zone servers.length "" servers

/-- Asks for a zone and notes how it went. -/
def carryOut (dns : Dns.Library) (settings : TransferSettings)
    (arrange : List (List Address) → List (List Address)) (id : UInt16) (transfer : ZoneTransfer) : Activity Unit := do
  let status := match ← perform dns settings arrange id transfer.zone with
    | .ok _ => ZoneStatus.success
    | .error _ => ZoneStatus.refused
  let _ ← Activity.request (.zoneFinish transfer status)

/-- Asks for the zone of a host, if it has one and nobody asked before (`XfrWorker::process`). -/
def process (dns : Dns.Library) (settings : TransferSettings)
    (arrange : List (List Address) → List (List Address)) (id : UInt16) (name : String) : Activity Unit := do
  match zoneOf name with
  | none => return
  | some zone =>
    match ← Activity.request (.zoneGet zone) with
    | .error _ => return
    | .ok (some _) => return
    | .ok none =>
      let transfer := ZoneTransfer.begin zone (← Activity.request .now)
      match ← Activity.request (.zoneAdd transfer) with
      | .error _ => return
      | .ok stored => if stored.id.isNone then return else carryOut dns settings arrange id stored

end HostSurvey.Transfer
