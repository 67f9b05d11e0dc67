import HostSurvey.Probe.Ber
import HostSurvey.Probe.Peer
/-!
# Managed devices

A device is asked for its description with one datagram, and may answer with one.

1. Silence is no error: most hosts are no managed devices.
2. The answer has to bear the number of the request. Its first text is the banner.
-/
namespace HostSurvey.Probe.Snmp

open HostSurvey.Net HostSurvey.Text Ber

/-- The tag of an integer. -/
def integerTag : UInt8 := 0x02
/-- The tag of a text. -/
def textTag : UInt8 := 0x04
/-- The tag of nothing. -/
def nullTag : UInt8 := 0x05
/-- The tag of the name of an object. -/
def objectTag : UInt8 := 0x06
/-- The tag of a sequence. -/
def sequenceTag : UInt8 := 0x30
/-- The tag of a request for values. -/
def requestTag : UInt8 := 0xa0
/-- The tag of an answer. -/
def answerTag : UInt8 := 0xa2

/-- The object that describes a device (`SYS_DESCR`). -/
def description : Bytes := [0x2b, 0x06, 0x01, 0x02, 0x01, 0x01, 0x01, 0x00]

/-- The request for the description, with a number of 32 bits (`get_request`). -/
def request (community : String) (id : UInt32) : Bytes :=
  let binding := element objectTag description ++ element nullTag []
  let number := (List.range 4).map fun i => UInt8.ofNat (id.toNat / Nat.pow 256 (3 - i) % 256)
  let body := element integerTag number ++ element integerTag [0] ++ element integerTag [0] ++
    element sequenceTag (element sequenceTag binding)
  element sequenceTag (element integerTag [1] ++ element textTag (Utf8.encode community) ++
    element requestTag body)

/-- The first text among bindings of objects to values. -/
def firstText? (bindings : Bytes) : Option String :=
  match _h : take? sequenceTag bindings with
  | none => none
  | some (binding, next) =>
    match take? objectTag binding with
    | none => none
    | some (_, bound) =>
      match take? textTag bound with
      | some (text, _) => some (Utf8.decodeLossy text)
      | none => firstText? next
termination_by bindings.length
decreasing_by exact take?_length _h

/-- The banner in an answer to the request with a number (`parse_response`). -/
def banner? (bytes : Bytes) (id : Int) : Option String := do
  let (message, _) ← take? sequenceTag bytes
  let (_, rest) ← take? integerTag message
  let (_, rest) ← take? textTag rest
  let (body, _) ← take? answerTag rest
  let (number, rest) ← take? integerTag body
  if (← integer? number) ≠ id then none
  let (_, rest) ← take? integerTag rest
  let (_, rest) ← take? integerTag rest
  let (bindings, _) ← take? sequenceTag rest
  firstText? bindings

/-- The greatest answer that is read. -/
def room : Nat := 4096

/-- The number of a request: what chance drew, without the sign bit. -/
def requestId (drawn : UInt32) : UInt32 :=
  drawn &&& 0x7fffffff

/-- Asks a device, with a request that bears the number that chance drew (`snmp::grab`). Each piece of its stream is a
datagram. -/
def grab (community : String) (drawn : UInt32) (peer : Peer) : Grab :=
  let id := requestId drawn
  let sent := [request community id]
  match peer with
  | .unreachable => .failed (.stream .unreachable)
  | .refusing => .failed (.stream .refused)
  | .absent => ⟨sent, .ok none⟩
  | .listening stream =>
    match stream.pieces with
    | [] => ⟨sent, .ok none⟩
    | datagram :: _ => ⟨sent, .ok (banner? (datagram.take room) id.toNat)⟩

end HostSurvey.Probe.Snmp
