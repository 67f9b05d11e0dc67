import HostSurvey.Control.Pool
import HostSurvey.Scan.Ports
import HostSurvey.Survey.Store
/-!
# The scanner

A feeder draws hosts from storage. A dispatcher plans a port for each of them and queues a request. The
workers of a pool try the ports and keep what came of it. Feeder and dispatcher are the scanner's pipeline:
a start makes a new one, and a stop gives it up wherever it is.

Everything that can happen is an `Event`, and `step?` says what it changes, or that it cannot happen now.

1. A pair of host and port is marked before its request is queued, and the mark is cleared after the
   worker has kept the outcome. The dispatcher takes note of the marks before it asks storage, so that
   an outcome kept in between is seen in one place or the other.
2. Whatever comes of a try is kept, so that the port is not tried again.
3. A dispatcher that cannot get rid of a request gives the pair back, but only when the flag is cleared;
   a pipeline that is given up does not.
-/
namespace HostSurvey.Scan

open Control

/-- How far a worker is with a request. -/
inductive Task where
  /-- The port has to be tried. -/
  | request (request : ScanRequest)
  /-- The outcome has to be kept. -/
  | outcome (request : ScanRequest) (outcome : ScanOutcome)
  /-- The mark has to be cleared. -/
  | kept (request : ScanRequest)
  deriving Repr, DecidableEq, Inhabited

/-- The request of a task. -/
def Task.scanRequest : Task → ScanRequest
  | .request r => r
  | .outcome r _ => r
  | .kept r => r

/-- The pair of host and port that a request is about. -/
def pairOf (r : ScanRequest) : Option (RecordId × UInt16) :=
  r.host.id.map fun id => (id, r.port)

/-- What the feeder is at (`feed`). -/
inductive Feeder where
  | off
  /-- It is about to look at the flag and to draw hosts. -/
  | looking
  /-- It has hosts to pass on. -/
  | feeding (hosts : List Host)
  deriving Repr, DecidableEq

/-- What the dispatcher is at (`dispatch`). -/
inductive Dispatcher where
  | off
  /-- It is about to look at the flag. -/
  | looking
  | waiting
  /-- It has noted the marks of a host and asks storage for its ports. -/
  | reading (host : Host) (id : RecordId) (busy : List UInt16)
  | planning (host : Host) (busy stored : List UInt16)
  /-- It has marked a pair and waits for room in the queue. -/
  | sending (request : ScanRequest)
  deriving Repr, DecidableEq

/-- A scanner and the storage that it works on. -/
structure Scanner where
  /-- The workers, and the queue of requests. -/
  pool : Pool Task
  /-- How many hosts are drawn at a time. -/
  batch : Nat
  /-- How many hosts, and how many requests, may wait; at least one. -/
  room : Nat
  store : Store
  inFlight : InFlight
  feeder : Feeder
  /-- The hosts between feeder and dispatcher. -/
  hosts : List Host
  dispatcher : Dispatcher

/-- What can happen to a scanner. Where chance has a say, the event tells what it says. -/
inductive Event where
  /-- The scanner is to start with a number of workers. -/
  | start (count : Nat)
  | stop
  /-- The flag is cleared, and nothing else. -/
  | clearFlag
  /-- The pool is sent a message. -/
  | send (message : Message)
  /-- A worker looks at the flag, takes a message or a request, or its heart beats. -/
  | move (id : Nat) (move : Move)
  /-- A worker has tried the port of its request. -/
  | tried (id : Nat) (outcome : ScanOutcome)
  | keep (id : Nat)
  /-- A worker clears the mark and is done. -/
  | clear (id : Nat)
  /-- The feeder draws hosts; `shuffle` is the order that chance puts them in. -/
  | draw (shuffle : List Host → List Host)
  /-- The feeder passes a host on. -/
  | feed
  | feedNoMore
  /-- The dispatcher looks at the flag. -/
  | look
  | takeHost
  /-- The dispatcher has waited long enough. -/
  | lapse
  /-- Storage tells the dispatcher the ports of its host. -/
  | read
  /-- The dispatcher plans a port; `order` is the order that chance puts the candidates in. -/
  | plan (order : List UInt16)
  | queue
  /-- The dispatcher gives its pair back. -/
  | giveBack

namespace Scanner

/-- A scanner that has not been started (`Scanner::new`). -/
def fresh (batch room : Nat) (store : Store) : Scanner :=
  ⟨.fresh false, batch, max room 1, store, [], .off, [], .off⟩

/-! ## Start and stop -/

/-- Starts a number of workers and a new pipeline, and tells whether it did (`Scanner::start`). A scanner that runs is
left alone. -/
def start (s : Scanner) (count : Nat) : Bool × Scanner :=
  let (started, pool) := s.pool.start count
  if started then
    (true, { s with pool := pool, feeder := .looking, hosts := [], dispatcher := .looking })
  else (false, s)

/-- Clears the flag and gives the pipeline up (`Scanner::stop`). -/
def stop (s : Scanner) : Scanner :=
  { s with pool := s.pool.stop, feeder := .off, hosts := [], dispatcher := .off }

/-! ## Workers -/

/-- The number and the task of the worker with a number, if it has a task. -/
def task? (s : Scanner) (id : Nat) : Option (Worker Task × Task) :=
  (s.pool.worker? id).bind fun worker =>
    match worker.phase with
    | .working task => some (worker, task)
    | _ => none

/-- The scanner with the task of a worker replaced. -/
def withTask (s : Scanner) (worker : Worker Task) (task : Task) : Scanner :=
  { s with pool := s.pool.put { worker with phase := .working task } }

/-- A worker does what every worker does. What it does with a task has its own events. -/
def moved? (s : Scanner) (id : Nat) (move : Move) : Option Scanner :=
  if move = .finish ∨ move = .collapse then none
  else (s.pool.step? (.move id move)).map fun pool => { s with pool := pool }

/-- A worker has tried a port (`ScanWorker::process`). What came of it tells of the host and port of its request. -/
def tried? (s : Scanner) (id : Nat) (outcome : ScanOutcome) : Option Scanner :=
  match s.task? id with
  | some (worker, .request r) =>
    if outcome.request = r then some (s.withTask worker (.outcome r outcome)) else none
  | _ => none

/-- A worker keeps an outcome. If storage does not take it, it is lost. -/
def keep? (s : Scanner) (id : Nat) : Option Scanner :=
  match s.task? id with
  | some (worker, .outcome r outcome) =>
    let store := match s.store.addPort outcome with
      | .ok store => store
      | .error _ => s.store
    some { s.withTask worker (.kept r) with store := store }
  | _ => none

/-- The marks without the one of a request. -/
def unmark (s : Scanner) (r : ScanRequest) : Scanner :=
  match pairOf r with
  | some pair => { s with inFlight := s.inFlight.clear pair }
  | none => s

/-- A worker clears a mark and is done. -/
def clear? (s : Scanner) (id : Nat) : Option Scanner :=
  match s.task? id with
  | some (worker, .kept r) =>
    (s.pool.moved? worker .finish).map fun pool => { s.unmark r with pool := pool }
  | _ => none

/-! ## The feeder -/

/-- The feeder draws hosts. If there are none, or storage fails, it tries again later. -/
def draw? (s : Scanner) (shuffle : List Host → List Host) : Option Scanner :=
  match s.feeder with
  | .looking =>
    if s.pool.isRunning then
      match s.store.someHosts shuffle s.batch with
      | .ok (host :: more) => some { s with feeder := .feeding (host :: more) }
      | _ => some s
    else some { s with feeder := .off }
  | _ => none

/-- The feeder passes a host on, if there is room. Without a dispatcher it ends. -/
def feed? (s : Scanner) : Option Scanner :=
  match s.feeder with
  | .feeding [] => some { s with feeder := .looking }
  | .feeding (host :: more) =>
    if s.dispatcher = .off then some { s with feeder := .off }
    else if s.hosts.length < s.room then
      some { s with
        hosts := s.hosts ++ [host]
        feeder := if more.isEmpty then .looking else .feeding more }
    else none
  | _ => none

/-- The feeder gives up, if the flag is cleared. It looks only after it has found no room, but there may be
some by then. -/
def feedNoMore? (s : Scanner) : Option Scanner :=
  match s.feeder with
  | .feeding _ => if s.pool.isRunning then none else some { s with feeder := .off }
  | _ => none

/-! ## The dispatcher -/

/-- The dispatcher looks at the flag. -/
def look? (s : Scanner) : Option Scanner :=
  match s.dispatcher with
  | .looking => some { s with dispatcher := if s.pool.isRunning then .waiting else .off }
  | _ => none

/-- The dispatcher takes a host and notes its marks. A host without a number is passed over. Without a
feeder the dispatcher ends. -/
def takeHost? (s : Scanner) : Option Scanner :=
  match s.dispatcher, s.hosts with
  | .waiting, host :: more =>
    match host.id with
    | none => some { s with hosts := more, dispatcher := .looking }
    | some id =>
      some { s with hosts := more, dispatcher := .reading host id (s.inFlight.ports id) }
  | .waiting, [] => if s.feeder = .off then some { s with dispatcher := .off } else none
  | _, _ => none

/-- The dispatcher has waited long enough for a host. -/
def lapse? (s : Scanner) : Option Scanner :=
  match s.dispatcher with
  | .waiting => some { s with dispatcher := .looking }
  | _ => none

/-- Storage tells the ports of a host, or fails. -/
def read? (s : Scanner) : Option Scanner :=
  match s.dispatcher with
  | .reading host id busy =>
    match s.store.portsOf id with
    | .ok stored => some { s with dispatcher := .planning host busy (stored.map (·.port)) }
    | .error _ => some { s with dispatcher := .looking }
  | _ => none

/-- The dispatcher plans a port and marks it, unless none is left. -/
def plan? (s : Scanner) (order : List UInt16) : Option Scanner :=
  match s.dispatcher with
  | .planning host busy stored =>
    match plan order host stored busy s.inFlight with
    | (none, inFlight) => some { s with inFlight := inFlight, dispatcher := .looking }
    | (some port, inFlight) =>
      some { s with inFlight := inFlight, dispatcher := .sending ⟨host, port⟩ }
  | _ => none

/-- Whether another request may wait. -/
def hasRoom (s : Scanner) : Bool :=
  s.pool.source.items.length < s.room

/-- The dispatcher queues its request, if there is room (`send_while_running`). -/
def queue? (s : Scanner) : Option Scanner :=
  match s.dispatcher with
  | .sending r =>
    if s.hasRoom then some { s with pool := s.pool.offer (.request r), dispatcher := .looking }
    else none
  | _ => none

/-- The dispatcher gives its pair back and ends, if the flag is cleared (`send_while_running`). It looks only after it
has found no room, but there may be some by then. -/
def giveBack? (s : Scanner) : Option Scanner :=
  match s.dispatcher with
  | .sending r => if s.pool.isRunning then none else some { s.unmark r with dispatcher := .off }
  | _ => none

/-! ## Events -/

/-- What an event changes, if it can happen. -/
def step? (s : Scanner) : Event → Option Scanner
  | .start count => some (s.start count).2
  | .stop => some s.stop
  | .clearFlag => some { s with pool := s.pool.stop }
  | .send message => (s.pool.send? message).map fun pool => { s with pool := pool }
  | .move id move => s.moved? id move
  | .tried id outcome => s.tried? id outcome
  | .keep id => s.keep? id
  | .clear id => s.clear? id
  | .draw shuffle => s.draw? shuffle
  | .feed => s.feed?
  | .feedNoMore => s.feedNoMore?
  | .look => s.look?
  | .takeHost => s.takeHost?
  | .lapse => s.lapse?
  | .read => s.read?
  | .plan order => s.plan? order
  | .queue => s.queue?
  | .giveBack => s.giveBack?

/-- What a list of events changes, if they can happen in this order. -/
def run? (s : Scanner) : List Event → Option Scanner
  | [] => some s
  | event :: rest => (s.step? event).bind fun s => s.run? rest

end Scanner
end HostSurvey.Scan
