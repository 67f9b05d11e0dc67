import HostSurvey.Lookup.Directory
import HostSurvey.Probe.Peer
import HostSurvey.Screen.Names
import HostSurvey.Screen.Networks
import HostSurvey.Survey.Activity
import HostSurvey.Transfer.Zone
/-!
# The world

What all workers share: the screens, the store, the cache, the resolver, the servers out there, the queues
of drawn hosts and of names whose zones are to be asked for, and the traces of transfers. `World.answer`
answers a request.
-/
namespace HostSurvey

open Net Screen Transfer

/-- Where traces of zone transfers go. -/
inductive TraceFolder where
  /-- None are written. -/
  | off
  /-- The folder cannot be made. -/
  | blocked
  /-- A folder of files, each with its lines. -/
  | files (entries : List (String × List String))
  deriving Repr, DecidableEq

namespace TraceFolder

/-- The lines of a file. -/
def lines? (folder : TraceFolder) (name : String) : Option (List String) :=
  match folder with
  | .files entries => entries.lookup name
  | _ => none

/-- The folder with a file changed. -/
def update (folder : TraceFolder) (name : String) (change : Option (List String) → Option (List String)) :
    TraceFolder :=
  match folder with
  | .files entries =>
    let others := entries.filter (·.1 ≠ name)
    .files (others ++ ((change (entries.lookup name)).map fun lines => (name, lines)).toList)
  | folder => folder

/-- How many bytes the name of a file may have. -/
def longestName : Nat := 255

/-- Makes a file without lines, whether there was one or not, and tells whether that was possible. -/
def create (folder : TraceFolder) (name : String) : Bool × TraceFolder :=
  match folder with
  | .files _ =>
    if name.utf8ByteSize ≤ longestName then (true, folder.update name fun _ => some [])
    else (false, folder)
  | folder => (false, folder)

/-- Adds a line to a file. -/
def append (folder : TraceFolder) (name line : String) : TraceFolder :=
  folder.update name (Option.map (· ++ [line]))

def remove (folder : TraceFolder) (name : String) : TraceFolder :=
  folder.update name fun _ => none

end TraceFolder

/-- What all workers share. -/
structure World where
  names : NameScreen
  addresses : AddressScreen
  /-- How the two screens try what comes. -/
  tests : Tests := .standard
  store : Store
  cache : Cache
  /-- The name system. -/
  directory : Directory
  /-- The servers that are asked for zones. -/
  servers : Endpoint → Probe.Peer
  /-- The drawn hosts that were passed on, the first one first. -/
  sentHosts : List Host := []
  /-- The names whose zones are to be asked for, the next one first. -/
  zoneRequests : List String := []
  /-- Whether anybody takes them. -/
  takesZoneRequests : Bool := true
  traces : TraceFolder
  now : Moment

namespace World

/-- Changes the store where a call went well. -/
def storing (w : World) (result : Except Error (α × Store)) : Except Error α × World :=
  match result with
  | .ok (a, store) => (.ok a, { w with store := store })
  | .error e => (.error e, w)

def answer (r : Request) (w : World) : r.Answer × World :=
  match r with
  | .screenName name =>
    let (found, names) := w.names.check w.tests name
    (found, { w with names := names })
  | .screenAddress address =>
    let (found, addresses) := w.addresses.check w.tests address
    (found, { w with addresses := addresses })
  | .cacheHas key => (w.cache.has key, w)
  | .cacheAdd key =>
    match w.cache.add key with
    | .ok cache => (.ok (), { w with cache := cache })
    | .error e => (.error e, w)
  | .reverse address => (w.directory.reverse address, w)
  | .nameservers zone => (w.directory.nameservers zone, w)
  | .addresses name => (w.directory.addresses name, w)
  | .hostExists address => (w.store.hasHost address, w)
  | .hostAdd host => w.storing (w.store.addHost host)
  | .zoneGet zone => (w.store.findZone zone, w)
  | .zoneAdd transfer => w.storing (w.store.addZone transfer)
  | .zoneFinish transfer status =>
    w.storing ((w.store.finishZone transfer status w.now).2.map fun store => ((), store))
  | .zoneFrom server limit _ => ((w.servers server).connect server limit, w)
  | .sendHost host => ((), { w with sentHosts := w.sentHosts ++ [host] })
  | .requestZone name =>
    if w.takesZoneRequests then (true, { w with zoneRequests := w.zoneRequests ++ [name] })
    else (false, w)
  | .traceBegin zone =>
    let (made, traces) := w.traces.create (traceName zone)
    (made, { w with traces := traces })
  | .traceLine zone line => ((), { w with traces := w.traces.append (traceName zone) line })
  | .traceRemove zone => ((), { w with traces := w.traces.remove (traceName zone) })
  | .now => (w.now, w)

/-- Runs an activity to its end. -/
def perform (activity : Activity α) (w : World) : List Activity.Exchange × α × World :=
  activity.run answer w

end World
end HostSurvey
