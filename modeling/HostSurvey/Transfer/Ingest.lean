import HostSurvey.Dns.Library
import HostSurvey.Survey.Activity
/-!
# Hosts from records

Records of a zone become hosts.

1. An address record names a host at an address.
2. A record of a name server or a mail exchanger names a host whose addresses have to be looked up.
3. A host whose name or address is screened out is passed over, and so is one whose address storage
   knows.
-/
namespace HostSurvey.Transfer

open Net Dns

/-- Keeps a host, if its address is not known (`add_if_new`). -/
def addIfNew (address : Address) (name : String) (source : HostSource) : Activity Unit := do
  match ← Activity.request (.hostExists address) with
  | .ok false =>
    let host : Host := ⟨none, address, name, source, ← Activity.request .now⟩
    let _ ← Activity.request (.hostAdd host)
  | _ => return

/-- Keeps the host of an address record (`add_address`). -/
def addAddress (name : String) (address : Address) : Activity Unit := do
  if ← Activity.request (.screenName name) then return
  if ← Activity.request (.screenAddress address) then return
  addIfNew address name .address

/-- Keeps the hosts at the addresses of a name. -/
def addEach (name : String) (source : HostSource) : List Address → Activity Unit
  | [] => pure ()
  | address :: rest => do
    if !(← Activity.request (.screenAddress address)) then addIfNew address name source
    addEach name source rest

/-- Looks a name up and keeps its hosts (`add_named`). -/
def addNamed (name : String) (source : HostSource) : Activity Unit := do
  if ← Activity.request (.screenName name) then return
  match ← Activity.request (.addresses name) with
  | .error _ => return
  | .ok addresses => addEach name source addresses

/-- Makes hosts from a record (`ingest`). -/
def ingest (dns : Library) (r : Record) : Activity Unit :=
  match r.data with
  | some (.address address) => addAddress (dns.nameText r.owner) address
  | some (.name name) => if r.type = .ns then addNamed (dns.nameText name) .nameserver else pure ()
  | some (.exchanger _ name) => addNamed (dns.nameText name) .exchanger
  | _ => pure ()

end HostSurvey.Transfer
