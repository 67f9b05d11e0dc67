import HostSurvey.Survey.Host
/-!
# Documents

Hosts, ports and transfers as JSON documents. A record is an object with a member for each field, or a
list of its fields in order.

1. Members that no field asks for are ignored; a field that may be empty may be missing in an object,
   though not in a list.
2. A choice is the name of the case, or an object whose only member has this name and no value.
-/
namespace HostSurvey

open Net

/-- A document, as far as the survey reads and writes it. -/
inductive Json where
  | null
  | bool (b : Bool)
  /-- A whole number, written as one. -/
  | integer (n : Int)
  /-- Any other number. -/
  | fraction
  | text (s : String)
  | list (items : List Json)
  | object (members : List (String × Json))
  deriving Repr, Inhabited

namespace Json

/-! ## Reading -/

def text? : Json → Option String
  | .text s => some s
  | _ => none

/-- A whole number between two others. -/
def integer? (least greatest : Int) : Json → Option Int
  | .integer n => if least ≤ n ∧ n ≤ greatest then some n else none
  | _ => none

/-- The number of a record. -/
def recordId? : Json → Option RecordId :=
  integer? (-0x8000000000000000) 0x7fffffffffffffff

/-- The number of a port. -/
def port? (j : Json) : Option UInt16 :=
  (integer? 0 65535 j).map fun n => UInt16.ofNat n.toNat

/-- A value that may be nothing. -/
def optional? (read : Json → Option α) : Json → Option (Option α)
  | .null => some none
  | j => (read j).map some

/-- The name of a chosen case. -/
def choice? : Json → Option String
  | .text name => some name
  | .object [(name, .null)] => some name
  | _ => none

def moment? (j : Json) : Option Moment :=
  j.text?.bind Moment.parse?

/-- A field of a record. -/
structure Field where
  name : String
  /-- Whether it may be missing. -/
  mayMiss : Bool

/-- The values of the fields of a record, in order. -/
def fields? (fields : List Field) : Json → Option (List Json)
  | .list items => if items.length = fields.length then some items else none
  | .object members => fields.mapM fun f =>
      match members.lookup f.name with
      | some value => some value
      | none => if f.mayMiss then some .null else none
  | _ => none

/-! ## Writing -/

/-- A value that may be nothing. -/
def ofOption (write : α → Json) : Option α → Json
  | none => .null
  | some a => write a

def ofMoment (m : Moment) : Json :=
  .text m.text

end Json

/-- The fields of a host. -/
def Host.fields : List Json.Field :=
  [⟨"id", true⟩, ⟨"address", false⟩, ⟨"name", false⟩, ⟨"source", false⟩, ⟨"added", false⟩]

/-- A host from a document. -/
def Host.ofJson? (j : Json) : Option Host := do
  match ← j.fields? Host.fields with
  | [id, address, name, source, added] => do
    return {
      id := ← id.optional? Json.recordId?, address := ← Address.parse? (← address.text?),
      name := ← name.text?, source := ← HostSource.ofName? (← source.choice?),
      added := ← added.moment? }
  | _ => none

/-- A host as a document. -/
def Host.toJson (h : Host) : Json :=
  .object [("id", .ofOption .integer h.id), ("address", .text h.address.text), ("name", .text h.name),
    ("source", .text h.source.name), ("added", .ofMoment h.added)]

/-- The fields of a port. -/
def Port.fields : List Json.Field :=
  [⟨"id", true⟩, ⟨"host_id", false⟩, ⟨"port", false⟩, ⟨"timestamp", false⟩, ⟨"reply", true⟩,
    ⟨"error", true⟩]

/-- A port from a document. -/
def Port.ofJson? (j : Json) : Option Port := do
  match ← j.fields? Port.fields with
  | [id, hostId, port, tried, reply, error] => do
    return {
      id := ← id.optional? Json.recordId?, hostId := ← hostId.recordId?, port := ← port.port?,
      tried := ← tried.moment?, reply := ← reply.optional? Json.text?,
      error := ← error.optional? Json.text? }
  | _ => none

/-- A port as a document. -/
def Port.toJson (p : Port) : Json :=
  .object [("id", .ofOption .integer p.id), ("host_id", .integer p.hostId),
    ("port", .integer p.port.toNat), ("timestamp", .ofMoment p.tried),
    ("reply", .ofOption .text p.reply), ("error", .ofOption .text p.error)]

/-- The fields of a transfer. -/
def ZoneTransfer.fields : List Json.Field :=
  [⟨"id", true⟩, ⟨"zone", false⟩, ⟨"start", false⟩, ⟨"end", true⟩, ⟨"status", false⟩]

/-- A transfer from a document. -/
def ZoneTransfer.ofJson? (j : Json) : Option ZoneTransfer := do
  match ← j.fields? ZoneTransfer.fields with
  | [id, zone, start, ended, status] => do
    return {
      id := ← id.optional? Json.recordId?, zone := ← zone.text?, start := ← start.moment?,
      ended := ← ended.optional? Json.moment?, status := ← ZoneStatus.ofName? (← status.choice?) }
  | _ => none

/-- A transfer as a document. -/
def ZoneTransfer.toJson (z : ZoneTransfer) : Json :=
  .object [("id", .ofOption .integer z.id), ("zone", .text z.zone), ("start", .ofMoment z.start),
    ("end", .ofOption .ofMoment z.ended), ("status", .text z.status.name)]

end HostSurvey
