import HostSurvey.Scan.Scanner
/-!
# Rounds

A scanner in full swing. Of all orders of events that the scanner allows, this one lets everybody go on as
far as possible before the feeder draws hosts again: workers first, then the dispatcher, then the
feeder. In this order nothing is in flight when a round ends, unless there is nobody to do the work.
-/
namespace HostSurvey.Scan.Scanner

open Control

/-- What a worker does next, if it can do anything. `probe` is what comes of a request. -/
def workerChoice? (s : Scanner) (probe : ScanRequest → ScanOutcome) (worker : Worker Task) :
    Option Event :=
  match worker.phase with
  | .looking => some (.move worker.id .look)
  | .waiting =>
    if !s.pool.messages.isEmpty then some (.move worker.id .receive)
    else if worker.isIdle || !s.pool.isRunning then some (.move worker.id .beat)
    else if !s.pool.source.items.isEmpty then some (.move worker.id .take)
    else none
  | .working (.request r) => some (.tried worker.id (probe r))
  | .working (.outcome _ _) => some (.keep worker.id)
  | .working (.kept _) => some (.clear worker.id)
  | .told _ => some (.move worker.id .follow)
  | .spawning _ => some (.move worker.id .launch)
  | .leaving _ => some (.move worker.id .leave)

/-- What the dispatcher does next, if it can do anything. -/
def dispatcherChoice? (s : Scanner) : Option Event :=
  match s.dispatcher with
  | .off => none
  | .looking => some .look
  | .waiting =>
    if !s.hosts.isEmpty || s.feeder = .off then some .takeHost
    else if !s.pool.isRunning then some .lapse
    else none
  | .reading _ _ _ => some .read
  | .planning _ _ _ => some (.plan candidatePorts)
  | .sending _ =>
    if s.hasRoom then some .queue else if !s.pool.isRunning then some .giveBack else none

/-- What the feeder does next with the hosts that it has. -/
def feederChoice? (s : Scanner) : Option Event :=
  match s.feeder with
  | .off => none
  | .looking => if s.pool.isRunning then none else some (.draw id)
  | .feeding _ =>
    if s.hosts.length < s.room || s.dispatcher = .off then some .feed
    else if s.pool.isRunning then none else some .feedNoMore

def choice? (s : Scanner) (probe : ScanRequest → ScanOutcome) : Option Event :=
  s.pool.workers.findSome? (s.workerChoice? probe) <|> s.dispatcherChoice? <|> s.feederChoice?

/-- Goes on, at most a number of times, until nobody can do anything. -/
def goOn (probe : ScanRequest → ScanOutcome) : Nat → Scanner → Scanner
  | 0, s => s
  | fuel + 1, s =>
    match (s.choice? probe).bind s.step? with
    | none => s
    | some s => goOn probe fuel s

/-- Goes on until nobody can do anything. What one worker, message, request or host gives rise to is far
less than the bound allows for. -/
def settle (probe : ScanRequest → ScanOutcome) (s : Scanner) : Scanner :=
  let fed := match s.feeder with
    | .feeding hosts => hosts.length
    | _ => 0
  goOn probe (64 * (s.pool.workers.length + s.pool.messages.length + s.pool.source.items.length +
    s.hosts.length + fed + 1)) s

/-- Some hosts, beginning with another one in each round. -/
def rotated (round : Nat) (hosts : List Host) : List Host :=
  hosts.rotateLeft round

/-- A number of rounds, each with a draw. -/
def rounds (probe : ScanRequest → ScanOutcome) : Nat → Scanner → Scanner
  | 0, s => s.settle probe
  | n + 1, s =>
    let s := s.settle probe
    rounds probe n ((s.draw? (rotated n)).getD s)

/-- As many rounds as it takes to try every port of every host. -/
def exhaust (probe : ScanRequest → ScanOutcome) (s : Scanner) : Scanner :=
  s.rounds probe ((candidatePorts.length + 1) * (s.store.hosts.length + 1))

end HostSurvey.Scan.Scanner
