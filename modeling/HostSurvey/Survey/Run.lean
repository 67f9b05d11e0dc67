import HostSurvey.Generate.Generator
import HostSurvey.Probe.Prober
import HostSurvey.Scan.Rounds
import HostSurvey.Survey.Crew
import HostSurvey.Survey.Report
import HostSurvey.Survey.Seeds
import HostSurvey.Transfer.Worker
/-!
# Runs

A run from its seeds to its report, with what the world lets it find: seeds and drawn hosts are kept, their
zones are asked for, and the ports of all hosts are tried.

Each facility works only if it has workers. Nothing here depends on how many there are beyond that: the
order in which they take turns is for `Crew.follow` and `Scanner.run?` to vary.
-/
namespace HostSurvey.Run

open Net Settings

/-- Lets an activity run to its end. -/
def play (activity : Activity α) (w : World) : World :=
  (w.perform activity).2.2

/-- Asks for the zones of all names that wait. -/
def transferAll (settings : TransferSettings) (w : World) : World :=
  w.zoneRequests.foldl (fun w name => play (Transfer.process .standard settings id 0 name) w)
    { w with zoneRequests := [] }

/-- Tries the ports of all hosts. `peers` is what is found at an address and port. -/
def scanAll (settings : ScannerSettings) (workers : Nat) (peers : Endpoint → Probe.Peer) (w : World) :
    World :=
  let outcome (r : ScanRequest) : ScanOutcome :=
    Probe.scan .standard settings.probes r.host r.port (peers ⟨r.host.address, r.port⟩) w.now
  let scanner := ((Scan.Scanner.fresh settings.batchSize settings.queueSize w.store).start workers).2
  { w with store := (scanner.exhaust outcome).store }

/-- A run, for which chance draws some addresses. -/
def survey (home : String) (options : Options) (draws : List Address) (peers : Endpoint → Probe.Peer)
    (w : World) : World :=
  let w := play (sow options.seeds) w
  let w := if options.generatorWorkers = 0 then w else
    let w := play (Generate.workThrough draws) w
    play (forward w.sentHosts) { w with sentHosts := [] }
  let w := if options.transferWorkers = 0 then w else transferAll (options.transfer home) w
  if options.scannerWorkers = 0 then w else scanAll options.scanner options.scannerWorkers peers w

/-- What a run tells at first. -/
def greeting (options : Options) : String :=
  Report.greeting options.generatorWorkers options.transferWorkers options.scannerWorkers

end HostSurvey.Run
