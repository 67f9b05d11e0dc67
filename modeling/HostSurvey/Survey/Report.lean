import HostSurvey.Survey.Store
/-!
# The report

What a run tells: how many workers it has, and when it is over, how many hosts and transfers there are, how
each transfer went, and every banner.
-/
namespace HostSurvey.Report

/-- What a run tells when its workers have set out. -/
def greeting (generators transferrers scanners : Nat) : String :=
  "Running " ++ toString generators ++ " generator, " ++ toString transferrers ++
    " zone transfer and " ++ toString scanners ++ " scanner workers. Ctrl-C to stop."

/-- What it tells when it is asked to stop. -/
def farewell : String := "Shutting down"

/-- How many hosts and transfers there are. -/
def totals (s : Store) : String :=
  toString s.hosts.length ++ " hosts, " ++ toString s.zones.length ++ " zone transfers"

/-- How a transfer went. -/
def zoneLine (z : ZoneTransfer) : String :=
  "  " ++ z.zone ++ " " ++ z.status.text

/-- The banner of a port, if it has one. -/
def bannerLine? (h : Host) (p : Port) : Option String :=
  p.reply.map fun reply =>
    "Banner " ++ h.address.text ++ ":" ++ toString p.port.toNat ++ " (" ++ h.name ++ ") " ++ reply

/-- The banners of a host. -/
def bannerLines (s : Store) (h : Host) : List String :=
  (s.ports.filter fun p => h.id = some p.hostId).filterMap (bannerLine? h)

/-- What a run tells when it is over (`report`). -/
def lines (s : Store) : List String :=
  totals s :: s.zones.map zoneLine ++ s.hosts.flatMap (bannerLines s)

end HostSurvey.Report
