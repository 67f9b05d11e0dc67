import HostSurvey.Error
import HostSurvey.Net.Stream
/-!
# Peers

What a probe meets at an address and port, and what it brings home: the banner or an error, and what it
sent on the way.
-/
namespace HostSurvey.Probe

open HostSurvey.Net

/-- What is found at an address and port. -/
inductive Peer where
  /-- No way leads there. -/
  | unreachable
  /-- Nobody listens. -/
  | refusing
  /-- Nothing comes back at all. -/
  | absent
  /-- A service that sends a stream. -/
  | listening (stream : Stream)
  deriving Repr, DecidableEq, Inhabited

/-- Tries to connect within a time limit (`connect`). -/
def Peer.connect (target : Endpoint) (limit : Elapsed) : Peer → Except Error Stream
  | .unreachable => .error (.stream .unreachable)
  | .refusing => .error (.stream .refused)
  | .absent => .error (.timeout target limit)
  | .listening stream => .ok stream

/-- What a probe brings home. -/
structure Grab where
  /-- What was sent, one entry for each time. -/
  sent : List Bytes
  /-- The banner, if there was anything worth keeping. -/
  banner : Except Error (Option String)

namespace Grab

/-- A probe that failed before it sent anything. -/
def failed (error : Error) : Grab :=
  ⟨[], .error error⟩

/-- Connects and goes on with the stream. -/
def overStream (target : Endpoint) (limit : Elapsed) (peer : Peer) (next : Stream → Grab) : Grab :=
  match peer.connect target limit with
  | .error e => .failed e
  | .ok stream => next stream

end Grab

/-- One read within a time limit. A peer that has closed its side is an error. -/
def readSome (target : Endpoint) (limit : Elapsed) (room : Nat) (s : Stream) :
    Except Error (Bytes × Stream) :=
  match s.read room with
  | .bytes bytes rest => .ok (bytes, rest)
  | .closed => .error (.closed target)
  | .silence => .error (.timeout target limit)

end HostSurvey.Probe
