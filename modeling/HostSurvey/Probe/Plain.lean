import HostSurvey.Probe.Peer
import HostSurvey.Text.Line
/-!
# Services that greet

A service that greets sends a line as soon as it is connected to. The banner is this line without its
end; a line of more than 4096 bytes is cut.
-/
namespace HostSurvey.Probe.Plain

open HostSurvey.Net HostSurvey.Text

/-- The byte that ends a line. -/
def lineFeed : UInt8 := 10

/-- The longest line (`LINE_LIMIT`). -/
def limit : Nat := 4096

/-- Reads up to the first line feed, or `room` bytes, or the end; nothing if the peer falls silent
before. -/
def readLine (room : Nat) (ending : Ending) : List Bytes → Option Bytes
  | [] => if room = 0 ∨ ending = .closes then some [] else none
  | piece :: rest =>
    let line := (piece.take room).takeWhile (· ≠ lineFeed)
    if line.length < (piece.take room).length then some (line ++ [lineFeed])
    else if room ≤ piece.length then some line
    else (readLine (room - piece.length) ending rest).map (line ++ ·)

def grab (target : Endpoint) (time : Elapsed) (peer : Peer) : Grab :=
  .overStream target time peer fun stream =>
    ⟨[], match readLine limit stream.ending stream.pieces with
      | none => .error (.timeout target time)
      | some [] => .error (.closed target)
      | some line => .ok (some (chomp (Utf8.decodeLossy line)))⟩

end HostSurvey.Probe.Plain
