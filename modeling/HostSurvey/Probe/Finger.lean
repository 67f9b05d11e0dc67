import HostSurvey.Probe.Peer
/-!
# Finger servers

A finger server is asked about the superuser. What the first read brings is the banner.
-/
namespace HostSurvey.Probe.Finger

open HostSurvey.Net HostSurvey.Text

def question : Bytes := Utf8.encode "root\r\n"

/-- The most that is read. -/
def room : Nat := 4096

/-- Asks a finger server (`finger::grab`). There is one limit for connecting and one for the answer. -/
def grab (target : Endpoint) (connectTime time : Elapsed) (peer : Peer) : Grab :=
  .overStream target connectTime peer fun stream =>
    ⟨[question], (readSome target time room stream).map fun (bytes, _) =>
      some (Utf8.decodeLossy bytes)⟩

end HostSurvey.Probe.Finger
