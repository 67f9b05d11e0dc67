import HostSurvey.Probe.Finger
import HostSurvey.Probe.Plain
import HostSurvey.Probe.Snmp
import HostSurvey.Probe.Telnet
import HostSurvey.Probe.Version
import HostSurvey.Probe.Web
import HostSurvey.Scan.Ports
import HostSurvey.Settings.Options
/-!
# Probing

The probe for a port, run against whatever is found there. A probe that fails still yields an outcome:
the error takes the place of the banner, so that the port counts as tried.
-/
namespace HostSurvey.Probe

open HostSurvey.Net HostSurvey.Scan HostSurvey.Settings

/-- Runs a probe. `id` is the number that its request bears, where it has one. -/
def grab (dns : Dns.Library) (settings : ProbeSettings) (kind : ProbeKind) (target : Endpoint) (id : UInt32)
    (peer : Peer) : Grab :=
  match kind with
  | .plain => Plain.grab target settings.timeout peer
  | .finger => Finger.grab target settings.timeout settings.fingerTimeout peer
  | .dns => Version.grab dns target settings.timeout (UInt16.ofNat id.toNat) peer
  | .web => Web.grab target settings.webTimeout peer
  | .snmp => Snmp.grab settings.snmpCommunity id peer
  | .telnet => Telnet.grab target settings.timeout peer

/-- Probes a port of a host (`Prober::probe`). -/
def probe (dns : Dns.Library) (settings : ProbeSettings) (host : Host) (port : UInt16) (peer : Peer)
    (now : Moment) : Except Error ScanOutcome :=
  (grab dns settings (probeFor port) ⟨host.address, port⟩ 0 peer).banner.map fun banner =>
    .answered host port banner now

/-- Probes a port of a host; a failure is an outcome too (`Prober::scan`). -/
def scan (dns : Dns.Library) (settings : ProbeSettings) (host : Host) (port : UInt16) (peer : Peer)
    (now : Moment) : ScanOutcome :=
  match probe dns settings host port peer now with
  | .ok outcome => outcome
  | .error e => .failed host port e.message now

end HostSurvey.Probe
