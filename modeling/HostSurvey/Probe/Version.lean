import HostSurvey.Dns.Frame
import HostSurvey.Probe.Peer
import HostSurvey.Text.Line
/-!
# Name servers

A name server is asked for its version, a text that it keeps in the class for such things. The banner is
the text of the first answer, without the quotes around it.
-/
namespace HostSurvey.Probe.Version

open HostSurvey.Net HostSurvey.Dns HostSurvey.Text

/-- The name that the version is kept under. -/
def versionName : Dns.Name :=
  ⟨[Utf8.encode "version", Utf8.encode "bind"], by decide +kernel⟩

/-- The question for the version. -/
def question : Question := ⟨versionName, .txt, .chaos⟩

/-- A text without the quotes at its ends. -/
def unquoted (text : String) : String :=
  String.ofList (trimRight (· = '"') (text.toList.dropWhile (· = '"')))

/-- The banner in an answer. -/
def bannerOf (dns : Library) (target : Endpoint) (m : Message) : Except Error (Option String) :=
  match m.answers with
  | [] => .error (.protocol target "no answer to version.bind")
  | answer :: _ =>
    match answer.data with
    | some (.text pieces) => .ok (some (unquoted (piecesText pieces)))
    | _ => .error (.protocol target ("version.bind answered with " ++ dns.typeText answer.type))

/-- Asks a name server (`dns::grab`). -/
def grab (dns : Library) (target : Endpoint) (time : Elapsed) (id : UInt16) (peer : Peer) : Grab :=
  .overStream target time peer fun stream =>
    ⟨[framed (dns.query question id)], match receive dns.decode? stream with
      | .message m _ => bannerOf dns target m
      | .ended => .error (.closed target)
      | .failed e _ => .error e
      | .silence => .error (.timeout target time)⟩

end HostSurvey.Probe.Version
