import HostSurvey.Proofs.Control.Holdings
import Mathlib.Data.List.Perm.Basic
/-!
# Deeds

A `Deed` is an event seen from the books of a pool: a number given out, an arrival, a departure, or something that
becomes of a message. Workers set out for a start or for a message, and leave over a message, over the cleared flag
or because they break down.

1. `deed_means` is the inversion: an event has a meaning only in these ways.
2. `step_books` says once what an event can do to the numbers of the workers, to the counter and to the
   messages that workers have taken: nothing, one number given out, one arrival, or one departure. Nothing else about
   an event matters to the books.
3. `step_receipt` is the same for the messages that wait.
-/
namespace HostSurvey.Control

/-- The message that a cause comes of. -/
def Cause.message? : Cause → Option Message
  | .stopped => some .stop
  | .shut => some .shutdown
  | _ => none

/-- The message that a worker in a phase has taken and not dealt with to the end. -/
def Phase.message? {ι : Type} : Phase ι → Option Message
  | .told message => some message
  | .spawning _ => some .spawn
  | .leaving cause => cause.message?
  | _ => none

/-- A worker with the message that it has taken and not dealt with to the end. -/
def Worker.order? {ι : Type} (worker : Worker ι) : Option (Nat × Message) :=
  worker.phase.message?.map fun message => (worker.id, message)

/-- What an event means for the books. -/
inductive Deed where
  /-- A number is given out for a worker that is to set out. -/
  | numbered (id : Nat)
  /-- A worker sets out for a start. -/
  | launched (id : Nat)
  /-- A worker lets another one set out. -/
  | spawned (id next : Nat)
  /-- A worker takes a message. -/
  | received (id : Nat) (message : Message)
  /-- A worker clears the flag. -/
  | shut (id : Nat)
  /-- A worker reports on itself. -/
  | reported (id : Nat)
  /-- A worker leaves, and is not counted any more. -/
  | left (id : Nat) (cause : Cause)
  deriving Repr, DecidableEq

namespace Deed

/-- The number that is given out. -/
def number? : Deed → Option Nat
  | .numbered id => some id
  | _ => none

/-- The worker that sets out. -/
def arrival? : Deed → Option Nat
  | .launched id => some id
  | .spawned _ next => some next
  | _ => none

/-- The worker that leaves, and why. -/
def exit? : Deed → Option (Nat × Cause)
  | .left id cause => some (id, cause)
  | _ => none

/-- The message that is taken, with the worker that takes it. -/
def receipt? : Deed → Option (Nat × Message)
  | .received id message => some (id, message)
  | _ => none

/-- The message that has been dealt with, with the worker that dealt with it. -/
def handled? : Deed → Option (Nat × Message)
  | .spawned id _ => some (id, .spawn)
  | .reported id => some (id, .status)
  | .left id cause => cause.message?.map fun message => (id, message)
  | _ => none

/-- Whether a worker sets out for a start. -/
def isLaunch : Deed → Bool
  | .launched _ => true
  | _ => false

end Deed

/-- The numbers that were given out, the first one first. -/
def numbers (deeds : List Deed) : List Nat := deeds.filterMap Deed.number?

/-- The numbers of the workers that set out, the first one first. -/
def arrivals (deeds : List Deed) : List Nat := deeds.filterMap Deed.arrival?

/-- The workers that left, each with the cause. -/
def exits (deeds : List Deed) : List (Nat × Cause) := deeds.filterMap Deed.exit?

/-- The numbers of the workers that left. -/
def departures (deeds : List Deed) : List Nat := (exits deeds).map Prod.fst

/-- The messages that were taken, each with the worker that took it. -/
def receipts (deeds : List Deed) : List (Nat × Message) := deeds.filterMap Deed.receipt?

/-- The messages that have been dealt with, each with the worker that dealt with it. -/
def handled (deeds : List Deed) : List (Nat × Message) := deeds.filterMap Deed.handled?

/-- How often a message has been dealt with. -/
def timesHandled (deeds : List Deed) (message : Message) : Nat := (handled deeds).countP (·.2 = message)

/-- How many workers have left for a cause. -/
def timesLeft (deeds : List Deed) (cause : Cause) : Nat := (exits deeds).countP (·.2 = cause)

variable {ι : Type}

/-- Whether a move means nothing for the books. To break down means nothing before the worker has left. -/
def Move.isSilent : Move → Bool
  | .look => true
  | .take => true
  | .miss => true
  | .beat => true
  | .finish => true
  | .collapse => true
  | _ => false

/-- The message that is sent. -/
def Event.message? : Event ι → Option Message
  | .send message => some message
  | _ => none

namespace Pool

variable {p q : Pool ι} {event : Event ι}

/-- The messages that workers have taken and not dealt with to the end, each with its worker. -/
def atHand (p : Pool ι) : List (Nat × Message) := p.held Worker.order?

theorem pending_launch (p : Pool ι) (id : Nat) : (p.launch id).pending = p.pending := by
  have numbers : (p.launch id).held Worker.number? = p.held Worker.number? := held_launch _ p id rfl
  exact congrArg (p.starts.filterMap Start.given? ++ ·) numbers

theorem atHand_launch (p : Pool ι) (id : Nat) : (p.launch id).atHand = p.atHand :=
  held_launch Worker.order? p id rfl

/-- What an event means for the books of a pool. -/
def deed? (p : Pool ι) : Event ι → Option Deed
  | .number place => (p.starts[place]?).map fun _ => .numbered p.nextId
  | .launch place => ((p.starts[place]?).bind Start.given?).map .launched
  | .move id move => (p.worker? id).bind fun worker =>
    match worker.phase, move with
    | .waiting, .receive => p.messages.head?.map (.received id)
    | .told .shutdown, .follow => some (.shut id)
    | .told .spawn, .follow => some (.numbered p.nextId)
    | .told .status, .follow => some (.reported id)
    | .spawning next, .launch => some (.spawned id next)
    | .leaving cause, .leave => some (.left id cause)
    | _, _ => none
  | _ => none

/-- What a list of events means for the books. -/
def deeds (p : Pool ι) : List (Event ι) → List Deed
  | [] => []
  | event :: rest => (p.deed? event).toList ++ ((p.step? event).map fun q => q.deeds rest).getD []

theorem deeds_cons (happened : p.step? event = some q) (rest : List (Event ι)) :
    p.deeds (event :: rest) = (p.deed? event).toList ++ q.deeds rest := by
  simp [deeds, happened]

/-- A deed is what an event means in the pool that the events before it have led to. -/
theorem deeds_mem {deed : Deed} {events : List (Event ι)} (member : deed ∈ p.deeds events) :
    ∃ (first : List (Event ι)) (event : Event ι) (later : List (Event ι)) (r : Pool ι),
      events = first ++ event :: later ∧ p.run? first = some r ∧ r.deed? event = some deed := by
  induction events generalizing p with
  | nil => cases member
  | cons event rest ih =>
    rcases List.mem_append.mp member with now | afterwards
    · exact ⟨[], event, rest, p, rfl, rfl, Option.mem_toList.mp now⟩
    · cases happened : p.step? event with
      | none => simp [happened] at afterwards
      | some q =>
        have since : deed ∈ q.deeds rest := by simpa [happened] using afterwards
        obtain ⟨first, other, later, r, rfl, ran, means⟩ := ih since
        refine ⟨event :: first, other, later, r, rfl, ?_, means⟩
        simp only [run?, happened, Option.bind_some]
        exact ran

theorem deeds_append (p : Pool ι) (first later : List (Event ι)) (ran : p.run? first = some q) :
    p.deeds (first ++ later) = p.deeds first ++ q.deeds later := by
  induction first generalizing p with
  | nil =>
    cases ran
    rfl
  | cons event rest ih =>
    obtain ⟨r, happened, ran⟩ := Option.bind_eq_some_iff.mp ran
    rw [List.cons_append, deeds_cons happened, deeds_cons happened, ih r ran, List.append_assoc]

/-- How an event comes to have a meaning for the books. -/
inductive Means (p : Pool ι) : Event ι → Deed → Prop where
  | numbers (place : Nat) : Means p (.number place) (.numbered p.nextId)
  | launches (place id : Nat) : Means p (.launch place) (.launched id)
  | receives (worker : Worker ι) (id : Nat) (message : Message) (found : p.worker? id = some worker)
      (waiting : worker.phase = .waiting) : Means p (.move id .receive) (.received id message)
  | shuts (worker : Worker ι) (id : Nat) (found : p.worker? id = some worker)
      (told : worker.phase = .told .shutdown) : Means p (.move id .follow) (.shut id)
  | gives (worker : Worker ι) (id : Nat) (found : p.worker? id = some worker)
      (told : worker.phase = .told .spawn) : Means p (.move id .follow) (.numbered p.nextId)
  | reports (worker : Worker ι) (id : Nat) (found : p.worker? id = some worker)
      (told : worker.phase = .told .status) : Means p (.move id .follow) (.reported id)
  | spawns (worker : Worker ι) (id next : Nat) (found : p.worker? id = some worker)
      (spawning : worker.phase = .spawning next) : Means p (.move id .launch) (.spawned id next)
  | leaves (worker : Worker ι) (id : Nat) (cause : Cause) (found : p.worker? id = some worker)
      (leaving : worker.phase = .leaving cause) : Means p (.move id .leave) (.left id cause)

theorem deed_means {deed : Deed} (means : p.deed? event = some deed) : Means p event deed := by
  cases event with
  | number place =>
    obtain ⟨_, _, rfl⟩ := Option.map_eq_some_iff.mp means
    exact .numbers place
  | launch place =>
    obtain ⟨id, _, rfl⟩ := Option.map_eq_some_iff.mp means
    exact .launches place id
  | move id move =>
    obtain ⟨worker, found, does⟩ := Option.bind_eq_some_iff.mp means
    split at does
    · rename_i waiting
      obtain ⟨message, _, rfl⟩ := Option.map_eq_some_iff.mp does
      exact .receives worker id message found waiting
    · rename_i told
      cases does
      exact .shuts worker id found told
    · rename_i told
      cases does
      exact .gives worker id found told
    · rename_i told
      cases does
      exact .reports worker id found told
    · rename_i next spawning
      cases does
      exact .spawns worker id next found spawning
    · rename_i cause leaving
      cases does
      exact .leaves worker id cause found leaving
    · cases does
  | _ => cases means

theorem move_silent (p : Pool ι) {move : Move} (silent : move.isSilent = true) (id : Nat) :
    p.deed? (.move id move) = none := by
  cases found : p.worker? id with
  | none => simp [deed?, found]
  | some worker =>
    cases move with
    | receive | follow | launch | leave => cases silent
    | _ => simp [deed?, found]

/-! ## What an event does to the numbers of workers -/

/-- What an event does to those who are there. -/
inductive Shifted (p q : Pool ι) (deed : Option Deed) : Prop where
  /-- Nobody comes and nobody goes. -/
  | stays (gives : deed.bind Deed.number? = none) (comes : deed.bind Deed.arrival? = none)
      (goes : deed.bind Deed.exit? = none) (ids : q.ids = p.ids) (pending : q.pending.Perm p.pending)
      (live : q.live = p.live) (next : q.nextId = p.nextId)
  /-- The next number is given out. -/
  | gives (gives : deed.bind Deed.number? = some p.nextId) (comes : deed.bind Deed.arrival? = none)
      (goes : deed.bind Deed.exit? = none) (ids : q.ids = p.ids)
      (pending : q.pending.Perm (p.nextId :: p.pending)) (live : q.live = p.live) (next : q.nextId = p.nextId + 1)
  /-- A worker sets out whose number was given out before. -/
  | comes (id : Nat) (gives : deed.bind Deed.number? = none) (comes : deed.bind Deed.arrival? = some id)
      (goes : deed.bind Deed.exit? = none) (ids : q.ids = p.ids ++ [id])
      (pending : p.pending.Perm (id :: q.pending)) (live : q.live = p.live + 1) (next : q.nextId = p.nextId)
  /-- A worker that is there leaves. -/
  | goes (id : Nat) (cause : Cause) (there : id ∈ p.ids) (gives : deed.bind Deed.number? = none)
      (comes : deed.bind Deed.arrival? = none) (goes : deed.bind Deed.exit? = some (id, cause))
      (ids : q.ids = p.ids.filter (· ≠ id)) (pending : q.pending.Perm p.pending) (live : q.live = p.live - 1)
      (next : q.nextId = p.nextId)

/-- What an event with its deed does to the books. -/
structure Booked (p q : Pool ι) (deed : Option Deed) : Prop where
  /-- Who comes and who goes. -/
  shifted : Shifted p q deed
  /-- A message is at hand from when it is taken until it has been dealt with. -/
  dealt : ((deed.bind Deed.receipt?).toList ++ p.atHand).Perm ((deed.bind Deed.handled?).toList ++ q.atHand)

/-- A worker that may break down has neither a number nor a message at hand. -/
private theorem frail_free {worker : Worker ι} (frail : worker.phase.isFrail = true) :
    worker.number? = none ∧ worker.order? = none := by
  cases phase : worker.phase <;>
    simp [phase, Phase.isFrail, Worker.number?, Worker.order?, Phase.message?] at frail ⊢

section Moves
variable {worker : Worker ι} {move : Move} (distinct : p.ids.Nodup)
  (found : p.worker? worker.id = some worker)
include distinct found

/-- The numbers that are given out when a worker is put in the place of another one. -/
private theorem pending_put {v : Worker ι} (same : v.id = worker.id) (come go : List Nat)
    (balance : come ++ worker.number?.toList = go ++ v.number?.toList) :
    (come ++ p.pending).Perm (go ++ (p.put v).pending) := by
  have numbers := (held_balance Worker.number? distinct found same come go balance).append_left
    (p.starts.filterMap Start.given?)
  have whole : ∀ (first : List Nat) (r : Pool ι), r.starts = p.starts →
      (first ++ r.pending).Perm (p.starts.filterMap Start.given? ++ (first ++ r.held Worker.number?)) := by
    intro first r starts
    rw [pending, starts, ← List.append_assoc, ← List.append_assoc]
    exact List.perm_append_comm.append_right _
  exact ((whole come p rfl).trans numbers).trans (whole go (p.put v) rfl).symm

/-- A worker changes its phase, and nobody comes or goes. -/
private theorem put_stays {v : Worker ι} {r : Pool ι} {deed : Option Deed} (same : v.id = worker.id)
    (rest : r.workers = p.workers ∧ r.starts = p.starts ∧ r.live = p.live ∧ r.nextId = p.nextId)
    (number : v.number? = worker.number?)
    (quiet : deed.bind Deed.number? = none ∧ deed.bind Deed.arrival? = none ∧ deed.bind Deed.exit? = none)
    (balance : (deed.bind Deed.receipt?).toList ++ worker.order?.toList =
      (deed.bind Deed.handled?).toList ++ v.order?.toList) : Booked p (r.put v) deed := by
  obtain ⟨workers, starts, live, next⟩ := rest
  have ids : (r.put v).ids = p.ids := by rw [ids_put, Pool.ids, Pool.ids, workers]
  have pending : (r.put v).pending = (p.put v).pending := by
    simp only [Pool.pending, put, workers, starts]
  have atHand : (r.put v).atHand = (p.put v).atHand := by simp only [Pool.atHand, held, put, workers]
  refine ⟨.stays quiet.1 quiet.2.1 quiet.2.2 ids ?_ live next, ?_⟩
  · rw [pending]
    exact (pending_put distinct found same [] [] (by rw [number])).symm
  · rw [atHand]
    exact held_balance Worker.order? distinct found same _ _ balance

/-- A worker that has nothing of this kind at hand goes on to a phase in which it has at most a message. -/
private theorem free_stays {v : Worker ι} {r : Pool ι} {deed : Option Deed} (frail : worker.phase.isFrail = true)
    (same : v.id = worker.id)
    (rest : r.workers = p.workers ∧ r.starts = p.starts ∧ r.live = p.live ∧ r.nextId = p.nextId)
    (number : v.number? = none)
    (quiet : deed.bind Deed.number? = none ∧ deed.bind Deed.arrival? = none ∧ deed.bind Deed.exit? = none)
    (balance : (deed.bind Deed.receipt?).toList = (deed.bind Deed.handled?).toList ++ v.order?.toList) :
    Booked p (r.put v) deed := by
  obtain ⟨none, silent⟩ := frail_free frail
  refine put_stays distinct found same rest (number.trans none.symm) quiet ?_
  rw [silent, balance]
  exact List.append_nil _

private theorem silent_books {v : Worker ι} {r : Pool ι} (silent : move.isSilent = true)
    (frail : worker.phase.isFrail = true) (same : v.id = worker.id)
    (rest : r.workers = p.workers ∧ r.starts = p.starts ∧ r.live = p.live ∧ r.nextId = p.nextId)
    (number : v.number? = none) (order : v.order? = none) :
    Booked p (r.put v) (p.deed? (.move worker.id move)) := by
  rw [move_silent p silent]
  exact free_stays distinct found frail same rest number ⟨rfl, rfl, rfl⟩ (by rw [order]; rfl)

private theorem follow_books {message : Message} (told : worker.phase = .told message) :
    Booked p (p.follow worker message) (p.deed? (.move worker.id .follow)) := by
  simp only [deed?, found, Option.bind_some, told]
  have none : worker.number? = none := by simp [Worker.number?, told]
  have taken : worker.order? = some (worker.id, message) := by simp [Worker.order?, Phase.message?, told]
  cases message with
  | stop => exact put_stays distinct found rfl ⟨rfl, rfl, rfl, rfl⟩ none.symm ⟨rfl, rfl, rfl⟩ (by rw [taken]; rfl)
  | shutdown =>
    exact put_stays distinct found rfl ⟨rfl, rfl, rfl, rfl⟩ none.symm ⟨rfl, rfl, rfl⟩ (by rw [taken]; rfl)
  | status => exact put_stays distinct found rfl ⟨rfl, rfl, rfl, rfl⟩ none.symm ⟨rfl, rfl, rfl⟩ (by rw [taken]; rfl)
  | spawn =>
    let spawner : Worker ι := { worker with phase := .spawning p.nextId }
    have numbers : (p.nextId :: p.pending).Perm (p.put spawner).pending :=
      pending_put distinct found (v := spawner) rfl [p.nextId] [] (by rw [none]; rfl)
    refine ⟨.gives rfl rfl rfl (ids_put p spawner) numbers.symm rfl rfl, ?_⟩
    have same : spawner.id = worker.id := rfl
    exact held_balance Worker.order? distinct found same [] [] (by rw [taken]; rfl)

private theorem launch_books {next : Nat} (spawning : worker.phase = .spawning next) :
    Booked p ((p.put { worker with phase := .looking }).launch next) (some (.spawned worker.id next)) := by
  let back : Worker ι := { worker with phase := .looking }
  have given : worker.number? = some next := by simp [Worker.number?, spawning]
  have taken : worker.order? = some (worker.id, .spawn) := by simp [Worker.order?, Phase.message?, spawning]
  have numbers : p.pending.Perm (next :: (p.put back).pending) :=
    pending_put distinct found (v := back) rfl [] [next] (by rw [given]; rfl)
  have same : back.id = worker.id := rfl
  have messages : p.atHand.Perm ((worker.id, .spawn) :: (p.put back).atHand) :=
    held_balance Worker.order? distinct found same [] [(worker.id, .spawn)] (by rw [taken]; rfl)
  refine ⟨.comes next rfl rfl rfl ?_ ?_ rfl rfl, ?_⟩
  · rw [ids_launch, ids_put]
  · rw [pending_launch]
    exact numbers
  · rw [atHand_launch]
    exact messages

private theorem leave_books {cause : Cause} (leaving : worker.phase = .leaving cause) :
    Booked p (p.retire worker.id) (some (.left worker.id cause)) := by
  have numbers := held_retire Worker.number? distinct found
  have messages := held_retire Worker.order? distinct found
  have none : worker.number? = none := by simp [Worker.number?, leaving]
  have taken : worker.order? = cause.message?.map fun message => (worker.id, message) := by
    simp [Worker.order?, Phase.message?, leaving]
  rw [none] at numbers
  rw [taken] at messages
  exact ⟨.goes worker.id cause (worker?_mem_ids found) rfl rfl rfl (ids_retire p _)
    (numbers.symm.append_left _) rfl rfl, messages⟩

private theorem move_books (moved : Moved p worker move q) : Booked p q (p.deed? (.move worker.id move)) := by
  cases moved with
  | goesOn looking running =>
    exact silent_books distinct found rfl (by rw [looking]; rfl) rfl ⟨rfl, rfl, rfl, rfl⟩ rfl rfl
  | lapses looking cleared =>
    exact silent_books distinct found rfl (by rw [looking]; rfl) rfl ⟨rfl, rfl, rfl, rfl⟩ rfl rfl
  | receives message rest waiting first =>
    simp only [deed?, found, Option.bind_some, waiting, first, List.head?_cons, Option.map_some]
    exact free_stays distinct found (by rw [waiting]; rfl) rfl ⟨rfl, rfl, rfl, rfl⟩ rfl ⟨rfl, rfl, rfl⟩ rfl
  | follows message told => exact follow_books distinct found told
  | launches next spawning =>
    simp only [deed?, found, Option.bind_some, spawning]
    exact launch_books distinct found spawning
  | takes item rest waiting first asks =>
    exact silent_books distinct found rfl (by rw [waiting]; rfl) rfl ⟨rfl, rfl, rfl, rfl⟩ rfl rfl
  | misses waiting asks dry =>
    exact silent_books distinct found rfl (by rw [waiting]; rfl) rfl ⟨rfl, rfl, rfl, rfl⟩ rfl rfl
  | beats waiting =>
    exact silent_books distinct found rfl (by rw [waiting]; rfl) rfl ⟨rfl, rfl, rfl, rfl⟩ rfl rfl
  | finishes item working =>
    exact silent_books distinct found rfl (by rw [working]; rfl) rfl ⟨rfl, rfl, rfl, rfl⟩ rfl rfl
  | collapses frail => exact silent_books distinct found rfl frail rfl ⟨rfl, rfl, rfl, rfl⟩ rfl rfl
  | leaves cause leaving =>
    simp only [deed?, found, Option.bind_some, leaving]
    exact leave_books distinct found leaving

end Moves

/-- The first of a list gives what it has, and the others what they have. -/
private theorem filterMap_first {α β : Type} (f : α → Option β) (first : α) (rest : List α) :
    (first :: rest).filterMap f = (f first).toList ++ rest.filterMap f := by
  cases thing : f first <;> simp [thing]

/-- When a start is put in the place of another one, what comes and what that one had given out is what goes and
what the new one has given out. -/
private theorem starts_given (p : Pool ι) {place : Nat} {was now : Start} (found : p.starts[place]? = some was)
    (come go : List Nat) (balance : come ++ was.given?.toList = go ++ now.given?.toList) :
    (come ++ p.pending).Perm (go ++ ({ p with starts := p.starts.set place now } : Pool ι).pending) := by
  obtain ⟨inside, here⟩ := List.getElem?_eq_some_iff.mp found
  let others := (p.starts.eraseIdx place).filterMap Start.given?
  have before : (p.starts.filterMap Start.given?).Perm (was.given?.toList ++ others) := by
    have list := (List.getElem_cons_eraseIdx_perm inside).symm.filterMap Start.given?
    rwa [here, filterMap_first] at list
  have after : ((p.starts.set place now).filterMap Start.given?).Perm (now.given?.toList ++ others) := by
    have list := (List.set_perm_cons_eraseIdx inside now).filterMap Start.given?
    rwa [filterMap_first] at list
  have swapped : (come ++ p.starts.filterMap Start.given?).Perm
      (go ++ (p.starts.set place now).filterMap Start.given?) := by
    have first := before.append_left come
    have second := after.append_left go
    rw [← List.append_assoc, balance, List.append_assoc] at first
    exact first.trans second.symm
  simp only [pending, ← List.append_assoc]
  exact swapped.append_right _

/-- An event is nothing to the books, or one number given out, or one arrival, or one departure. -/
theorem step_books (distinct : p.ids.Nodup) (happened : p.step? event = some q) :
    Booked p q (p.deed? event) := by
  cases step_cases happened with
  | starts count =>
    unfold raise
    split
    · exact ⟨.stays rfl rfl rfl rfl (.refl _) rfl rfl, .refl _⟩
    · refine ⟨.stays rfl rfl rfl rfl ?_ rfl rfl, .refl _⟩
      simp [pending]
  | numbers place owed found =>
    simp only [deed?, found, Option.map_some]
    refine ⟨.gives rfl rfl rfl rfl ?_ rfl rfl, .refl _⟩
    exact (starts_given p found [p.nextId] [] rfl).symm
  | launches place owed id found =>
    simp only [deed?, found, Option.bind_some, Option.map_some]
    refine ⟨.comes id rfl rfl rfl (ids_launch _ id) ?_ rfl rfl, ?_⟩
    · rw [pending_launch]
      exact starts_given p found [] [id] rfl
    · rw [atHand_launch]
      exact .refl _
  | stops => exact ⟨.stays rfl rfl rfl rfl (.refl _) rfl rfl, .refl _⟩
  | sends message room => exact ⟨.stays rfl rfl rfl rfl (.refl _) rfl rfl, .refl _⟩
  | offers item => exact ⟨.stays rfl rfl rfl rfl (.refl _) rfl rfl, .refl _⟩
  | closes => exact ⟨.stays rfl rfl rfl rfl (.refl _) rfl rfl, .refl _⟩
  | moves worker move q found moved => exact move_books distinct found moved

/-- The message that is taken, and those that wait, are those that waited and the one that is sent. -/
theorem step_receipt (happened : p.step? event = some q) :
    (((p.deed? event).bind Deed.receipt?).map Prod.snd).toList ++ q.messages = p.messages ++ event.message?.toList := by
  have still : p.messages = p.messages ++ [] := (List.append_nil _).symm
  cases step_cases happened with
  | starts count =>
    unfold raise
    split <;> exact still
  | numbers place owed found =>
    simp only [deed?, found, Option.map_some]
    exact still
  | launches place owed id found =>
    simp only [deed?, found, Option.bind_some, Option.map_some]
    exact still
  | stops => exact still
  | sends message room => rfl
  | offers item => exact still
  | closes => exact still
  | moves worker move q found moved =>
    cases moved with
    | receives message rest waiting first =>
      simp only [deed?, found, Option.bind_some, waiting, first, List.head?_cons, Option.map_some]
      exact (List.append_nil _).symm
    | follows message told =>
      simp only [deed?, found, Option.bind_some, told]
      cases message <;> exact still
    | launches id spawning =>
      simp only [deed?, found, Option.bind_some, spawning]
      exact still
    | leaves cause leaving =>
      simp only [deed?, found, Option.bind_some, leaving]
      exact still
    | goesOn | lapses | takes | misses | beats | finishes | collapses =>
      rw [move_silent p rfl]
      exact still

end Pool
end HostSurvey.Control
