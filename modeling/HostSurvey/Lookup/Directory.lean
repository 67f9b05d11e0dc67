import HostSurvey.Dns.Message
import HostSurvey.Error
/-!
# The directory

What the engine asks the name system: the names of the host at an address, the name servers of a zone and
the addresses of a name. `Directory.ofServer` answers from what a server says.

1. Nothing found is an empty list and no error.
2. An alias among the records of an answer leads on to the records of what it stands for.
3. Addresses of version 6 are asked for only where there are none of version 4. A text that is an address
   stands for itself. No address comes twice.
-/
namespace HostSurvey

open Net Dns

/-- What the name system says (`Resolve`). -/
structure Directory where
  /-- The names of the host at an address. -/
  reverse : Address → Except Error (List String)
  /-- The name servers of a zone. -/
  nameservers : String → Except Error (List String)
  addresses : String → Except Error (List Address)

/-- A server: the records with which it answers questions. -/
abbrev Server := Question → Except Error (List Record)

namespace Directory

/-- A directory that knows nothing. -/
def empty : Directory :=
  ⟨fun _ => .ok [], fun _ => .ok [], fun _ => .ok []⟩

/-- The place of an address in the tree of names, as labels. -/
def reverseLabels : Address → List String
  | .v4 bits =>
    (List.range 4).map (fun i => toString ((bits >>> (8 * i)).toNat % 256)) ++ ["in-addr", "arpa"]
  | .v6 bits =>
    (List.range 32).map (fun i => (Nat.digitChar ((bits >>> (4 * i)).toNat % 16)).toString) ++
      ["ip6", "arpa"]

/-- The name of an address in the tree of names. -/
def reverseName (address : Address) : String :=
  ".".intercalate (reverseLabels address) ++ "."

/-- Whether two names are the same but for the case of letters. -/
def sameName (a b : Name) : Bool :=
  let small (name : Name) := name.labels.map (·.map fun b => (Char.ofNat b.toNat).toLower)
  small a == small b

/-- The name that an alias stands for, if a record is an alias of a name. -/
def target? (name : Name) (r : Record) : Option Name :=
  if r.type = .cname && sameName r.owner name then
    match r.data with
    | some (.name target) => some target
    | _ => none
  else none

/-- The name that aliases among records lead to. Each record leads on at most once. -/
def followed (records : List Record) : Nat → Name → Name
  | 0, name => name
  | n + 1, name =>
    match records.findSome? (target? name) with
    | some target => followed records n target
    | none => name

/-- The records of a type that a server has for a name. -/
def ask (server : Server) (name : String) (type : RecordType) : Except Error (List Record) :=
  match Name.parse? name with
  | none => .error .malformed
  | some name => do
    let records ← server ⟨name, type, .internet⟩
    let owner := followed records records.length name
    return records.filter fun r => r.type = type && sameName r.owner owner

/-- The names in the data of records. -/
def namesIn (records : List Record) : List String :=
  records.filterMap fun r =>
    match r.data with
    | some (.name name) => some name.text
    | _ => none

/-- The addresses in the data of records, each once. -/
def addressesIn (records : List Record) : List Address :=
  (records.filterMap fun r =>
    match r.data with
    | some (.address address) => some address
    | _ => none).eraseDups

/-- The addresses of a name that is none itself. -/
def askAddresses (server : Server) (name : String) : Except Error (List Address) :=
  match (ask server name .a).map addressesIn with
  | .ok (address :: more) => .ok (address :: more)
  | _ => (ask server name .aaaa).map addressesIn

/-- What a server says (`DnsResolver`). -/
def ofServer (server : Server) : Directory where
  reverse address := (ask server (reverseName address) .ptr).map namesIn
  nameservers zone := (ask server zone .ns).map namesIn
  addresses name :=
    match Address.parse? name with
    | some address => .ok [address]
    | none => askAddresses server name

end Directory
end HostSurvey
