import HostSurvey.Net.Address
import HostSurvey.Text.Moment
/-!
# Hosts

What the survey knows: hosts, the ports tried on them, and the zones of the name system that it asked
for. A record gets its number when it is stored, so a number may be missing.
-/
namespace HostSurvey

open Net

/-- The moving parts of the engine. -/
inductive Facility where
  /-- Draws addresses. -/
  | generator
  /-- Tries ports. -/
  | scanner
  /-- Asks for zones. -/
  | transfer
  deriving Repr, DecidableEq

/-- The name of a facility. -/
def Facility.text : Facility → String
  | .generator => "Generator"
  | .scanner => "Scanner"
  | .transfer => "XFR"

def Facility.all : List Facility := [.generator, .scanner, .transfer]

/-- How a host became known. -/
inductive HostSource where
  /-- The user named it. -/
  | user
  /-- Its address was drawn. -/
  | generated
  /-- An address record of a zone. -/
  | address
  /-- A mail exchanger of a zone. -/
  | exchanger
  /-- A name server of a zone. -/
  | nameserver
  deriving Repr, DecidableEq, Inhabited

namespace HostSource

def all : List HostSource := [.user, .generated, .address, .exchanger, .nameserver]

/-- The text of a source. -/
def text : HostSource → String
  | .user => "User"
  | .generated => "Generated"
  | .address => "A-record"
  | .exchanger => "MX-record"
  | .nameserver => "NS-record"

/-- The name of a source in a document. -/
def name : HostSource → String
  | .user => "User"
  | .generated => "Generated"
  | .address => "ARecord"
  | .exchanger => "MxRecord"
  | .nameserver => "NsRecord"

/-- The source with a name. -/
def ofName? (name : String) : Option HostSource :=
  all.find? (·.name = name)

end HostSource

/-- The number of a stored record. -/
abbrev RecordId := Int

/-- A host, and how it became known. -/
structure Host where
  /-- Its number, once it is stored. -/
  id : Option RecordId
  address : Address
  name : String
  source : HostSource
  added : Moment
  deriving Repr, DecidableEq, Inhabited

/-- A port that was tried on a host. -/
structure Port where
  id : Option RecordId
  hostId : RecordId
  port : UInt16
  tried : Moment
  reply : Option String
  /-- Why nothing was learned, if the try failed. -/
  error : Option String
  deriving Repr, DecidableEq, Inhabited

/-- What the service said, or nothing (`reply_string`). -/
def Port.replyText (p : Port) : String :=
  p.reply.getD ""

/-- A port to be tried on a host. -/
structure ScanRequest where
  host : Host
  port : UInt16
  deriving Repr, DecidableEq, Inhabited

/-- What came of a try: a banner, nothing, or an error (`ScanResult`). -/
structure ScanOutcome where
  host : Host
  port : UInt16
  banner : Option String
  tried : Moment
  /-- Why nothing was learned, if the try failed. -/
  error : Option String
  deriving Repr, DecidableEq, Inhabited

namespace ScanOutcome

/-- A try that went well, with or without a banner (`ScanResult::new`). -/
def answered (host : Host) (port : UInt16) (banner : Option String) (now : Moment) : ScanOutcome :=
  ⟨host, port, banner, now, none⟩

/-- A try that failed (`ScanResult::failed`). It is kept, so that the port is not tried again. -/
def failed (host : Host) (port : UInt16) (error : String) (now : Moment) : ScanOutcome :=
  ⟨host, port, none, now, some error⟩

/-- The request that it came of. -/
def request (o : ScanOutcome) : ScanRequest := ⟨o.host, o.port⟩

/-- What the service said, or nothing. -/
def replyText (o : ScanOutcome) : String :=
  o.banner.getD ""

end ScanOutcome

/-- How far the transfer of a zone got (`XfrStatus`). -/
inductive ZoneStatus where
  /-- It is under way, or it was given up without a word. -/
  | unfinished
  /-- A server sent the zone. -/
  | success
  /-- No server did. -/
  | refused
  /-- It was broken off. -/
  | aborted
  deriving Repr, DecidableEq, Inhabited

namespace ZoneStatus

def all : List ZoneStatus := [.unfinished, .success, .refused, .aborted]

/-- The text of a status. -/
def text : ZoneStatus → String
  | .unfinished => "Unfinished"
  | .success => "Finished/Success"
  | .refused => "Finished/Refused"
  | .aborted => "Finished/Aborted"

/-- The name of a status in a document. -/
def name : ZoneStatus → String
  | .unfinished => "Unfinished"
  | .success => "Success"
  | .refused => "Refused"
  | .aborted => "Abort"

/-- The status with a name. -/
def ofName? (name : String) : Option ZoneStatus :=
  all.find? (·.name = name)

end ZoneStatus

/-- The transfer of a zone. -/
structure ZoneTransfer where
  /-- Its number, once it is stored. -/
  id : Option RecordId
  zone : String
  start : Moment
  ended : Option Moment
  status : ZoneStatus
  deriving Repr, DecidableEq, Inhabited

/-- A transfer that begins (`ZoneTransfer::new`). -/
def ZoneTransfer.begin (zone : String) (now : Moment) : ZoneTransfer :=
  ⟨none, zone, now, none, .unfinished⟩

/-- Whether a transfer is over (`is_finished`). -/
def ZoneTransfer.isFinished (z : ZoneTransfer) : Bool :=
  z.status ≠ .unfinished

end HostSurvey
