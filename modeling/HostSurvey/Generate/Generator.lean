import HostSurvey.Survey.Activity
import HostSurvey.Screen.Networks
/-!
# Drawn hosts

Addresses are drawn at random and resolved back to names.

1. Draws within a screened network are passed over: `draw` yields the first one outside all of them.
2. An address that the cache knows is not resolved again. A cache that fails is taken to know nothing.
3. The first name decides: if it passes the screen, there is a host.
-/
namespace HostSurvey.Generate

open Net Screen

/-- Passes over draws until one is outside every screened network: this address, how many draws it took, and the
screen after them (`draw_address`). -/
def draw (tests : Tests) (screen : AddressScreen) : List Address → Option (Address × Nat × AddressScreen)
  | [] => none
  | address :: rest =>
    let (found, screen) := screen.check tests address
    if found then (draw tests screen rest).map fun (address, used, screen) => (address, used + 1, screen)
    else some (address, 1, screen)

/-- Whether a key was tried before; if not, it is noted now (`seen_before`). -/
def seenBefore (key : String) : Activity Bool := do
  match ← Activity.request (.cacheHas key) with
  | .ok true => return true
  | .ok false =>
    let _ ← Activity.request (.cacheAdd key)
    return false
  | .error _ => return false

/-- The host at an address, if it is new, has a name, and the name passes the screen (`GeneratorWorker::process`). -/
def process (address : Address) : Activity (Option Host) := do
  if ← seenBefore address.text then return none
  match ← Activity.request (.reverse address) with
  | .error _ => return none
  | .ok [] => return none
  | .ok (name :: _) =>
    if ← Activity.request (.screenName name) then return none
    return some ⟨none, address, name, .generated, ← Activity.request .now⟩

/-- Looks into an address, and passes the host there on. -/
def work (address : Address) : Activity Unit := do
  match ← process address with
  | none => return
  | some host => Activity.request (.sendHost host)

/-- What a worker does with draws: it passes over screened ones, and looks into the others. -/
def workThrough : List Address → Activity Unit
  | [] => pure ()
  | address :: rest => do
    if !(← Activity.request (.screenAddress address)) then work address
    workThrough rest

/-- Tries draws until a number of hosts is found. -/
def gather : Nat → List Address → Activity (List Host)
  | 0, _ => pure []
  | _, [] => pure []
  | wanted + 1, address :: rest => do
    if ← Activity.request (.screenAddress address) then gather (wanted + 1) rest
    else match ← process address with
      | none => gather (wanted + 1) rest
      | some host => return host :: (← gather wanted rest)

/-! ## The queue of hosts -/

/-- A queue of bounded length; a queue nobody listens to takes nothing. -/
structure HostQueue where
  hosts : List Host
  /-- How many may wait, at least one. -/
  capacity : Nat
  /-- Whether anybody listens. -/
  isOpen : Bool
  deriving Repr

namespace HostQueue

def ofSize (size : Nat) : HostQueue := ⟨[], max size 1, true⟩

/-- Sends a host: whether the sender has to wait, and the queue. A queue that nobody listens to lets the
sender go on. -/
def send (q : HostQueue) (host : Host) : Bool × HostQueue :=
  if !q.isOpen then (false, q)
  else if q.hosts.length < q.capacity then (false, { q with hosts := q.hosts ++ [host] })
  else (true, q)

/-- Takes all hosts out. -/
def drain (q : HostQueue) : List Host × HostQueue :=
  (q.hosts, { q with hosts := [] })

/-- The queue when nobody listens any more. -/
def close (q : HostQueue) : HostQueue :=
  { q with hosts := [], isOpen := false }

end HostQueue
end HostSurvey.Generate
