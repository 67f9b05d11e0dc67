import HostSurvey.Control.Pool
/-!
# Timetables

A pool in time. Of all orders of events that the pool allows, a timetable follows one: whoever can go on
does so at once, each worker as far as it can before the next one's turn, and time passes only when
nobody can.

1. A heart beats when a worker sets out, and then once every interval. A worker that was late by more
   than the tolerance counts the next interval from then on.
2. `elapse` goes through the moments from now on up to, but not including, the last one: what is due then
   comes after whatever is done to the pool at that moment.
-/
namespace HostSurvey.Control

variable {ι : Type}

/-- What items mean to the workers. -/
structure Workload (ι : Type) where
  cost : ι → Nat
  /-- Whether a worker breaks down over it. -/
  isFatal : ι → Bool

/-- A pool in time. -/
structure Timetable (ι : Type) where
  pool : Pool ι
  workload : Workload ι
  /-- The interval between heartbeats. No heart can beat without one. -/
  heartbeat : Nat
  now : Nat
  /-- When the workers' hearts beat next, by number. -/
  beats : List (Nat × Nat)
  /-- When the workers are through with their items, by number. -/
  ends : List (Nat × Nat)
  /-- The items that were finished, the first one first. -/
  finished : List ι

namespace Timetable

/-- How late a heartbeat may be and still be on time. -/
def tolerance : Nat := 5

/-- When a worker's heart beats next. -/
def nextBeat (t : Timetable ι) (id : Nat) : Nat :=
  (t.beats.lookup id).getD t.now

/-- What a worker does now, if it can do anything. -/
def choice? (t : Timetable ι) (worker : Worker ι) : Option Move :=
  match worker.phase with
  | .looking => some (if t.heartbeat = 0 then .collapse else .look)
  | .waiting =>
    if !t.pool.messages.isEmpty then some .receive
    else if !worker.isIdle && !t.pool.source.items.isEmpty then some .take
    else if !worker.isIdle && t.pool.source.isDry then some .miss
    else if t.nextBeat worker.id ≤ t.now then some .beat
    else none
  | .working item =>
    if t.workload.isFatal item then some .collapse
    else if (t.ends.lookup worker.id).getD 0 ≤ t.now then some .finish
    else none
  | .told _ => some .follow
  | .spawning _ => some .launch
  | .leaving _ => some .leave

/-- Notes in a table when something happens to a worker next. -/
def noted (table : List (Nat × Nat)) (id time : Nat) : List (Nat × Nat) :=
  (id, time) :: table.filter (·.1 ≠ id)

/-- Notes the times that a move sets. -/
def note (t : Timetable ι) (worker : Worker ι) : Move → Timetable ι
  | .take =>
    match t.pool.source.items with
    | item :: _ => { t with ends := noted t.ends worker.id (t.now + t.workload.cost item) }
    | [] => t
  | .beat =>
    let due := t.nextBeat worker.id
    let next := if due + tolerance < t.now then t.now + t.heartbeat else due + t.heartbeat
    { t with beats := noted t.beats worker.id next }
  | .finish =>
    match worker.phase with
    | .working item => { t with finished := t.finished ++ [item] }
    | _ => t
  | _ => t

/-- The first worker that can do something does it. -/
def advance? (t : Timetable ι) : Option (Timetable ι) :=
  t.pool.workers.findSome? fun worker => do
    let move ← t.choice? worker
    let pool ← t.pool.moved? worker move
    some { t.note worker move with pool := pool }

/-- Goes on, at most a number of times, until nobody can do anything. -/
def goOn : Nat → Timetable ι → Timetable ι
  | 0, t => t
  | fuel + 1, t =>
    match t.advance? with
    | none => t
    | some t => goOn fuel t

/-- Goes on until nobody can do anything. What one worker, message or item gives rise to is far less than
the bound allows for. -/
def settle (t : Timetable ι) : Timetable ι :=
  goOn (64 * (t.pool.workers.length + t.pool.messages.length + t.pool.source.items.length + 1)) t

def elapse : Nat → Timetable ι → Timetable ι
  | 0, t => t
  | n + 1, t =>
    let t := t.settle
    elapse n { t with now := t.now + 1 }

end Timetable
end HostSurvey.Control
