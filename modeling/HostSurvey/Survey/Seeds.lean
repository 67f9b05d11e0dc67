import HostSurvey.Survey.Activity
/-!
# Where hosts come from

Hosts come from names that a user gives, and from addresses that were drawn. Each brings a request for the
transfer of its zone.

1. A seed is kept at each of its addresses. The first thing that storage refuses ends its list, and its
   zone is asked for all the same.
2. Of a drawn host that storage refuses, nothing more is heard.
-/
namespace HostSurvey

open Net

/-- Keeps a host at each address that storage does not know. -/
def keepSeed (name : String) : List Address → Activity (Except Error Unit)
  | [] => pure (.ok ())
  | address :: rest => do
    match ← Activity.request (.hostExists address) with
    | .error e => return .error e
    | .ok true => keepSeed name rest
    | .ok false =>
      let host : Host := ⟨none, address, name, .user, ← Activity.request .now⟩
      match ← Activity.request (.hostAdd host) with
      | .error e => return .error e
      | .ok _ => keepSeed name rest

/-- Looks a seed up and keeps it (`add_seed`). -/
def addSeed (name : String) : Activity (Except Error Unit) := do
  match ← Activity.request (.addresses name) with
  | .error e => return .error e
  | .ok addresses => keepSeed name addresses

/-- Adds seeds one after the other and asks for their zones, as long as anybody takes such requests. -/
def sow : List String → Activity Unit
  | [] => pure ()
  | name :: rest => do
    let _ ← addSeed name
    if ← Activity.request (.requestZone name) then sow rest

/-- Keeps drawn hosts as they arrive and asks for their zones, as long as anybody takes such requests
(`forward_hosts`). -/
def forward : List Host → Activity Unit
  | [] => pure ()
  | host :: rest => do
    match ← Activity.request (.hostAdd host) with
    | .error _ => forward rest
    | .ok stored => if ← Activity.request (.requestZone stored.name) then forward rest

end HostSurvey
