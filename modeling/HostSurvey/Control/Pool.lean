/-!
# Pools of workers

The workers of a pool share a flag, a queue of messages and a source of items. A worker goes round: it
looks at the flag, waits for whatever comes first, deals with it, and looks at the flag again.

Everything that can happen is an `Event`, and `step?` says what it changes, or that it cannot happen now. Any
order of events that `step?` allows may come about. An event is what nobody can come in between of: one look at
the flag or one change of it, one message taken, one number given out, one change of the counter.

1. A worker ends when it finds the flag cleared, when it takes a message that ends it, or when it
   collapses. It is counted until it has left.
2. A message is taken first and followed later. In between anything can happen, also a stop and a new start.
3. Whoever lets a worker set out, a start or a worker, gives out its number first and counts it later. So workers
   may set out in another order than that of their numbers.
4. The flag and the messages are the pool's: they know nothing of who was there when they were set or
   sent.
-/
namespace HostSurvey.Control

/-- What the workers can be told (`ControlMessage`). Whoever takes a message follows it. -/
inductive Message where
  /-- The one who takes it ends. -/
  | stop
  /-- The flag is cleared, and the one who takes it ends. -/
  | shutdown
  | spawn
  /-- The one who takes it reports on itself. -/
  | status
  deriving Repr, DecidableEq, Inhabited

/-- How many messages may wait (`CONTROL_QUEUE_SIZE`). -/
def messageRoom : Nat := 5

/-! ## Workers -/

/-- Why a worker ends. -/
inductive Cause where
  /-- It was told to stop. -/
  | stopped
  /-- It has shut the pool down. -/
  | shut
  /-- It found the flag cleared. -/
  | lapsed
  /-- It broke down. -/
  | collapsed
  deriving Repr, DecidableEq, Inhabited

/-- Where a worker is on its round (`Inner::run`). -/
inductive Phase (ι : Type) where
  /-- It is about to look at the flag. -/
  | looking
  /-- It waits for a message, an item or its heartbeat. -/
  | waiting
  /-- It has taken a message and is about to follow it. -/
  | told (message : Message)
  /-- It has given out a number, and is about to let the worker with it set out. -/
  | spawning (id : Nat)
  | working (item : ι)
  /-- It is through with its last round, and still counted. -/
  | leaving (cause : Cause)
  deriving Repr, DecidableEq, Inhabited

/-- Whether a worker may break down in a phase. While it deals with a message it does not. -/
def Phase.isFrail {ι : Type} : Phase ι → Bool
  | .looking => true
  | .waiting => true
  | .working _ => true
  | _ => false

/-- A worker that has not left. -/
structure Worker (ι : Type) where
  id : Nat
  /-- Where it is on its round. -/
  phase : Phase ι
  /-- Whether it was told that there are no items, and asks for none before its next heartbeat. -/
  isIdle : Bool
  deriving Repr, DecidableEq

/-- A start that is under way (`Pool::start`). One after the other, it gives out a number and lets the worker with
it set out. -/
structure Start where
  /-- How many numbers it has still to give out. -/
  owed : Nat
  /-- The number that it gave out last, if the worker with it has not set out. -/
  given? : Option Nat
  deriving Repr, DecidableEq

/-- A start that is through. -/
def Start.finished : Start := ⟨0, none⟩

/-- Where the items come from. -/
structure Source (ι : Type) where
  /-- The items that are there, the next one first. -/
  items : List ι
  /-- Whether it says so when it has none; otherwise workers have to wait. -/
  tells : Bool
  isOpen : Bool
  deriving Repr, DecidableEq

namespace Source

variable {ι : Type}

/-- A source without items. -/
def empty (tells : Bool) : Source ι := ⟨[], tells, true⟩

/-- Adds an item. After the end it is lost. -/
def offer (s : Source ι) (item : ι) : Source ι :=
  if s.isOpen then { s with items := s.items ++ [item] } else s

/-- Ends the source. What is there can still be had, and after that it says that it has none. -/
def close (s : Source ι) : Source ι :=
  { s with isOpen := false }

/-- Whether it says now that it has no items. -/
def isDry (s : Source ι) : Bool :=
  s.items.isEmpty && (s.tells || !s.isOpen)

end Source

/-- The workers, and what they share (`Inner`). -/
structure Pool (ι : Type) where
  isRunning : Bool
  live : Nat
  /-- The number of the next worker. -/
  nextId : Nat
  /-- The starts that the pool has seen, the first one first. -/
  starts : List Start
  /-- The workers, in the order in which they set out. -/
  workers : List (Worker ι)
  /-- The messages that wait, the next one first. -/
  messages : List Message
  source : Source ι
  deriving Repr, DecidableEq

/-- What a worker can do. -/
inductive Move where
  /-- It looks at the flag. -/
  | look
  /-- It takes a message. -/
  | receive
  /-- It follows the message that it has taken. -/
  | follow
  /-- It lets the worker set out whose number it has given out. -/
  | launch
  | take
  /-- It learns that there are no items. -/
  | miss
  /-- Its heart beats. -/
  | beat
  /-- It is done with its item. -/
  | finish
  /-- It breaks down. -/
  | collapse
  /-- It leaves, and is not counted any more. -/
  | leave
  deriving Repr, DecidableEq

/-- What can happen to a pool. -/
inductive Event (ι : Type) where
  /-- A number of workers is to set out. -/
  | start (count : Nat)
  /-- The start at a place gives out a number. -/
  | number (place : Nat)
  /-- The start at a place lets the worker set out whose number it has given out. -/
  | launch (place : Nat)
  | stop
  | send (message : Message)
  | offer (item : ι)
  | close
  | move (id : Nat) (move : Move)
  deriving Repr, DecidableEq

namespace Pool

variable {ι : Type}

/-- A pool that has not been started (`Pool::new`). Its first worker is number one. -/
def fresh (tells : Bool) : Pool ι := ⟨false, 0, 1, [], [], [], .empty tells⟩

/-- The worker with a number. -/
def worker? (p : Pool ι) (id : Nat) : Option (Worker ι) :=
  p.workers.find? (·.id = id)

/-- Puts a worker in the place of the one with its number. -/
def put (p : Pool ι) (worker : Worker ι) : Pool ι :=
  { p with workers := p.workers.map fun w => if w.id = worker.id then worker else w }

/-- Counts a worker and lets it set out, with a number that was given out for it (`spawn_worker`). -/
def launch (p : Pool ι) (id : Nat) : Pool ι :=
  { p with live := p.live + 1, workers := p.workers ++ [⟨id, .looking, false⟩] }

/-- Lets a worker leave (`LiveGuard`). -/
def retire (p : Pool ι) (id : Nat) : Pool ι :=
  { p with live := p.live - 1, workers := p.workers.filter (·.id ≠ id) }

/-- Lets a number of workers set out, each as soon as it has its number. -/
def launchMany : Nat → Pool ι → Pool ι
  | 0, p => p
  | n + 1, p => launchMany n ({ p with nextId := p.nextId + 1 }.launch p.nextId)

/-- Starts a number of workers, and tells whether it did (`Pool::start`). A pool that runs is left alone. This is a
start that nobody disturbs. -/
def start (p : Pool ι) (count : Nat) : Bool × Pool ι :=
  if p.isRunning then (false, p)
  else (true, launchMany count { p with isRunning := true, starts := p.starts ++ [.finished] })

/-- Raises the flag for a number of workers that are to set out (`RunningFlag::raise`). A pool that runs is left
alone. -/
def raise (p : Pool ι) (count : Nat) : Pool ι :=
  if p.isRunning then p else { p with isRunning := true, starts := p.starts ++ [⟨count, none⟩] }

/-- The start at a place gives out the number of its next worker. -/
def number? (p : Pool ι) (place : Nat) : Option (Pool ι) :=
  match p.starts[place]? with
  | some ⟨owed + 1, none⟩ =>
    some { p with nextId := p.nextId + 1, starts := p.starts.set place ⟨owed, some p.nextId⟩ }
  | _ => none

/-- The start at a place lets the worker set out whose number it has given out. -/
def launch? (p : Pool ι) (place : Nat) : Option (Pool ι) :=
  match p.starts[place]? with
  | some ⟨owed, some id⟩ => some ({ p with starts := p.starts.set place ⟨owed, none⟩ }.launch id)
  | _ => none

/-- Clears the flag (`Pool::stop`). -/
def stop (p : Pool ι) : Pool ι :=
  { p with isRunning := false }

/-- Sends a message, if there is room for it (`Pool::send`). -/
def send? (p : Pool ι) (message : Message) : Option (Pool ι) :=
  if p.messages.length < messageRoom then some { p with messages := p.messages ++ [message] } else none

def offer (p : Pool ι) (item : ι) : Pool ι :=
  { p with source := p.source.offer item }

def close (p : Pool ι) : Pool ι :=
  { p with source := p.source.close }

/-- A worker follows the message that it has taken. To spawn is to give out a number first. -/
def follow (p : Pool ι) (worker : Worker ι) : Message → Pool ι
  | .stop => p.put { worker with phase := .leaving .stopped }
  | .shutdown => p.stop.put { worker with phase := .leaving .shut }
  | .spawn => put { p with nextId := p.nextId + 1 } { worker with phase := .spawning p.nextId }
  | .status => p.put { worker with phase := .looking }

/-- What a worker's move changes, if it can make it. -/
def moved? (p : Pool ι) (worker : Worker ι) (move : Move) : Option (Pool ι) :=
  match worker.phase, move with
  | .looking, .look =>
    some (p.put { worker with phase := if p.isRunning then .waiting else .leaving .lapsed })
  | .waiting, .receive =>
    match p.messages with
    | [] => none
    | message :: rest => some (put { p with messages := rest } { worker with phase := .told message })
  | .told message, .follow => some (p.follow worker message)
  | .spawning id, .launch => some ((p.put { worker with phase := .looking }).launch id)
  | .waiting, .take =>
    match worker.isIdle, p.source.items with
    | false, item :: rest =>
      some (put { p with source := { p.source with items := rest } }
        { worker with phase := .working item })
    | _, _ => none
  | .waiting, .miss =>
    if !worker.isIdle && p.source.isDry then
      some (p.put { worker with phase := .looking, isIdle := true })
    else none
  | .waiting, .beat => some (p.put { worker with phase := .looking, isIdle := false })
  | .working _, .finish => some (p.put { worker with phase := .looking })
  | .leaving _, .leave => some (p.retire worker.id)
  | phase, .collapse => if phase.isFrail then some (p.put { worker with phase := .leaving .collapsed }) else none
  | _, _ => none

/-- What an event changes, if it can happen. -/
def step? (p : Pool ι) : Event ι → Option (Pool ι)
  | .start count => some (p.raise count)
  | .number place => p.number? place
  | .launch place => p.launch? place
  | .stop => some p.stop
  | .send message => p.send? message
  | .offer item => some (p.offer item)
  | .close => some p.close
  | .move id move => (p.worker? id).bind fun worker => p.moved? worker move

/-- What a list of events changes, if they can happen in this order. -/
def run? (p : Pool ι) : List (Event ι) → Option (Pool ι)
  | [] => some p
  | event :: rest => (p.step? event).bind fun p => p.run? rest

end Pool
end HostSurvey.Control
