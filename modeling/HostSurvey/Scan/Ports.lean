import HostSurvey.Survey.Host
/-!
# Ports

Which port of a host to try next, and how.

1. A host is tried on a fixed list of candidates, each with its kind of probe.
2. Where a host came from, or how its name begins, hints at a port; this one comes first. Else any
   candidate not yet tried may come: `select` takes the first one in an order that chance gave.
-/
namespace HostSurvey.Scan

/-- The ways to get a banner out of a service. -/
inductive ProbeKind where
  /-- The first line that the service sends. -/
  | plain
  /-- The user that a finger server tells of. -/
  | finger
  /-- The version of a name server. -/
  | dns
  /-- The software of a web server. -/
  | web
  /-- The description of a managed device. -/
  | snmp
  /-- The greeting behind the option negotiation. -/
  | telnet
  deriving Repr, DecidableEq

/-- The ports that a host is tried on (`CANDIDATE_PORTS`). -/
def candidates : List (UInt16 × ProbeKind) := [
  (21, .plain), (22, .plain), (23, .telnet), (25, .plain), (53, .dns), (79, .finger), (80, .web),
  (110, .plain), (143, .plain), (161, .snmp), (631, .web), (1024, .web), (4444, .web),
  (2525, .plain), (5353, .dns), (8000, .web), (8080, .web), (8081, .web)]

/-- The candidates without their probes. -/
def candidatePorts : List UInt16 :=
  candidates.map Prod.fst

/-- The probe for a port (`probe_for`). A port that is no candidate gets the plain one. -/
def probeFor (port : UInt16) : ProbeKind :=
  (candidates.lookup port).getD .plain

/-- The ports of mail servers, in the order of preference (`MAIL_PORTS`). -/
def mailPorts : List UInt16 := [25, 110, 143]

/-- How the names of mail servers begin (`MAIL_PREFIXES`). -/
def mailOpenings : List String := ["mx", "mail", "smtp", "pop", "imap"]

/-- Whether a name begins with small letters, in either case (`has_prefix`). -/
def opensWith (name opening : String) : Bool :=
  opening.toList.isPrefixOf ((name.toList.take opening.length).map Char.toLower)

/-- The first of some ports that was not tried (`first_unscanned`). -/
def firstUntried (ports tried : List UInt16) : Option UInt16 :=
  ports.find? fun port => !tried.contains port

/-- The port that a host's source or name hints at, if it was not tried (`hinted_port`). -/
def hinted (host : Host) (tried : List UInt16) : Option UInt16 :=
  if host.source = .exchanger then firstUntried mailPorts tried
  else if host.source = .nameserver ∧ 53 ∉ tried then some 53
  else if opensWith host.name "www" ∧ 80 ∉ tried then some 80
  else if opensWith host.name "ftp" ∧ 21 ∉ tried then some 21
  else if mailOpenings.any (opensWith host.name) then firstUntried mailPorts tried
  else none

/-- The port to try next, if any is left (`select_port`). `order` is the list of candidates in any order. -/
def select (order : List UInt16) (host : Host) (tried : List UInt16) : Option UInt16 :=
  hinted host tried <|> firstUntried order tried

/-- Every port that may come next, whatever the order. -/
def selectable (host : Host) (tried : List UInt16) : List UInt16 :=
  match hinted host tried with
  | some port => [port]
  | none => candidatePorts.filter fun port => !tried.contains port

/-- The pairs of host and port that are queued or being tried. -/
abbrev InFlight := List (RecordId × UInt16)

namespace InFlight

/-- The ports of a host that are in flight (`ports_in_flight`). -/
def ports (flight : InFlight) (id : RecordId) : List UInt16 :=
  (flight.filter (·.1 = id)).map Prod.snd

def mark (flight : InFlight) (pair : RecordId × UInt16) : InFlight :=
  if flight.contains pair then flight else flight ++ [pair]

/-- Takes a pair back. -/
def clear (flight : InFlight) (pair : RecordId × UInt16) : InFlight :=
  flight.filter (· ≠ pair)

end InFlight

/-- Picks the next port of a host and marks it (`plan`). `stored` are the ports that storage knows of, and `busy`
those that were in flight before storage was asked. A host without a number gets no port. -/
def plan (order : List UInt16) (host : Host) (stored busy : List UInt16) (flight : InFlight) :
    Option UInt16 × InFlight :=
  match host.id with
  | none => (none, flight)
  | some id =>
    match select order host (stored ++ busy ++ flight.ports id) with
    | none => (none, flight)
    | some port => (some port, flight.mark (id, port))

end HostSurvey.Scan
