import HostSurvey.Proofs.Control.Items
import Mathlib.Data.List.Perm.Subperm
/-!
# A pool that winds down

The flag of a pool is cleared, and nobody starts it again. Workers may be anywhere on their rounds then, and more
of them may set out, for a start that is still under way or for a message.

1. Every move brings a worker nearer to its end: it looks at the flag at most once more, and before that it gets
   at most one thing that it waits for. Both are paid from what its phase leaves to it (`leave_run`). A worker whose
   number is still to be given out, or is given out and not used, has all before it that one that looks has.
2. A `Handling` is what an event means for the items. What a worker began is what it ended and what it has in
   hand, and the items that were begun are the first ones that were offered (`hand_run`, `order_run`).
-/
namespace HostSurvey.Control

variable {ι : Type}

/-! ## What counts -/

/-- Whether a worker that moves gets what it waited for: a message, an item, word that there are none, or its
heartbeat. -/
def Move.takes : Move → Bool
  | .receive => true
  | .take => true
  | .miss => true
  | .beat => true
  | _ => false

/-- The worker that makes a move of a kind. -/
def Event.mover? (kind : Move → Bool) : Event ι → Option Nat
  | .move id made => if kind made then some id else none
  | _ => none

theorem mover?_eq_some {kind : Move → Bool} {event : Event ι} {id : Nat} (moves : event.mover? kind = some id) :
    ∃ move, kind move = true ∧ event = .move id move := by
  cases event with
  | move mover move =>
    obtain ⟨is, same⟩ := Option.ite_none_right_eq_some.mp moves
    cases same
    exact ⟨move, is, rfl⟩
  | _ => cases moves

/-- The workers that make the moves of a kind, the first one first. -/
def movers (kind : Move → Bool) (events : List (Event ι)) : List Nat := events.filterMap (Event.mover? kind)

def Event.item? : Event ι → Option ι
  | .offer item => some item
  | _ => none

def Event.closes : Event ι → Bool
  | .close => true
  | _ => false

/-- The items that are offered before the source is ended. -/
def admitted (events : List (Event ι)) : List ι :=
  (events.takeWhile fun event => !event.closes).filterMap Event.item?

/-- How many moves a worker has left if the flag is cleared. -/
def Phase.toGo : Phase ι → Nat
  | .leaving _ => 1
  | .looking => 2
  | .told .stop => 2
  | .told .shutdown => 2
  | .told .status => 3
  | .spawning _ => 3
  | .working _ => 3
  | .told .spawn => 4
  | .waiting => 5

/-- How often a worker waits no more if the flag is cleared. -/
def Phase.waits : Phase ι → Nat
  | .waiting => 1
  | _ => 0

/-- What an event means for the items. -/
inductive Handling (ι : Type) where
  | begun (id : Nat) (item : ι)
  | finished (id : Nat) (item : ι)
  /-- The worker breaks down over it. -/
  | spoiled (id : Nat) (item : ι)
  deriving Repr, DecidableEq

def Handling.begun? : Handling ι → Option (Nat × ι)
  | .begun id item => some (id, item)
  | _ => none

/-- An item is ended in one way or the other. -/
def Handling.ended? : Handling ι → Option (Nat × ι)
  | .finished id item => some (id, item)
  | .spoiled id item => some (id, item)
  | _ => none

/-- The items that are begun, the first one first, each with its worker. -/
def begun (handlings : List (Handling ι)) : List (Nat × ι) := handlings.filterMap Handling.begun?

def ended (handlings : List (Handling ι)) : List (Nat × ι) := handlings.filterMap Handling.ended?

/-- The items of one worker. -/
def itemsOf (id : Nat) (list : List (Nat × ι)) : List ι := (list.filter (·.1 = id)).map Prod.snd

namespace Pool

variable {p q : Pool ι} {event : Event ι} {events : List (Event ι)}

/-- What is left to the worker with a number: nothing if it is not there. -/
def left (measure : Phase ι → Nat) (p : Pool ι) (id : Nat) : Nat :=
  ((p.worker? id).map (measure ·.phase)).getD 0

/-- Whether a worker with a number may still set out. -/
def awaits (p : Pool ι) (id : Nat) : Bool := p.pending.contains id || decide (p.nextId ≤ id)

/-- The item in the hand of the worker with a number. -/
def hand? (p : Pool ι) (id : Nat) : Option ι := (p.worker? id).bind Worker.item?

/-- What an event means for the items of a pool, if it can happen. -/
def handling? (p : Pool ι) : Event ι → Option (Handling ι)
  | .move id .take => p.source.items.head?.map (Handling.begun id)
  | .move id .finish => (p.hand? id).map (Handling.finished id)
  | .move id .collapse => (p.hand? id).map (Handling.spoiled id)
  | _ => none

/-- What a list of events means for the items. -/
def handlings (p : Pool ι) : List (Event ι) → List (Handling ι)
  | [] => []
  | event :: rest => (p.handling? event).toList ++ ((p.step? event).map fun q => q.handlings rest).getD []

/-! ## The flag -/

private theorem follow_cleared (cleared : p.isRunning = false) (worker : Worker ι) (message : Message) :
    (p.follow worker message).isRunning = false := by
  cases message with
  | shutdown => rfl
  | _ => exact cleared

private theorem cleared_step (cleared : p.isRunning = false) (unstarted : ∀ count, event ≠ .start count)
    (happened : p.step? event = some q) : q.isRunning = false := by
  cases step_cases happened with
  | starts count => exact absurd rfl (unstarted count)
  | stops => rfl
  | moves worker move q found moved =>
    cases moved with
    | follows message told => exact follow_cleared cleared worker message
    | _ => exact cleared
  | _ => exact cleared

/-! ## Counting down -/

/-- A measure of phases that no move makes greater while the flag is cleared, and from which each move of a kind
takes one. -/
structure Spends (kind : Move → Bool) (measure : Phase ι → Nat) : Prop where
  turn : ∀ (p : Pool ι) (before after : Phase ι) (move : Move), p.isRunning = false → Turn p before move after →
    measure after + (kind move).toNat ≤ measure before
  leave : ∀ cause, (kind .leave).toNat ≤ measure (.leaving cause)

private theorem spends_moves : Spends (fun _ => true) (Phase.toGo : Phase ι → Nat) := by
  refine ⟨fun p before after move cleared turn => ?_, fun cause => Nat.le_refl 1⟩
  cases turn with
  | goesOn running =>
    rw [cleared] at running
    cases running
  | receives message rest first => cases message <;> simp [Phase.toGo]
  | collapses phase frail =>
    cases before with
    | looking => exact Nat.le_refl 2
    | waiting => simp [Phase.toGo]
    | working item => simp [Phase.toGo]
    | _ => cases frail
  | _ => simp [Phase.toGo]

private theorem spends_takes : Spends Move.takes (Phase.waits : Phase ι → Nat) := by
  refine ⟨fun p before after move cleared turn => ?_, fun cause => Nat.le_refl 0⟩
  cases turn with
  | goesOn running =>
    rw [cleared] at running
    cases running
  | collapses => simp [Phase.waits, Move.takes]
  | _ => simp [Phase.waits, Move.takes]

private theorem movers_cons (kind : Move → Bool) (event : Event ι) (rest : List (Event ι)) :
    movers kind (event :: rest) = movers kind [event] ++ movers kind rest :=
  List.filterMap_append (l := [event])

section Counting
variable {kind : Move → Bool} {measure : Phase ι → Nat}

/-- What is left to a worker, also to one that has not set out yet. -/
private def leave (measure : Phase ι → Nat) (id : Nat) (p : Pool ι) : Nat :=
  if p.awaits id then measure .looking else p.left measure id

private theorem left_of {id : Nat} {worker : Worker ι} (found : p.worker? id = some worker) :
    p.left measure id = measure worker.phase := by
  simp [left, found]

private theorem left_gone {id : Nat} (gone : p.worker? id = none) : p.left measure id = 0 := by
  simp [left, gone]

/-- Who is there is not awaited. -/
private theorem there_unawaited (numbered : p.Numbered) {id : Nat} (there : id ∈ p.ids) : p.awaits id = false := by
  have old := numbered.below id (List.mem_append_left _ there)
  have given : id ∉ p.pending := fun given => numbered.fresh id given there
  simp [awaits, given, old]

/-- Whoever is not awaited is not awaited later on. -/
theorem awaits_step (distinct : p.ids.Nodup) (happened : p.step? event = some q) {id : Nat}
    (awaited : q.awaits id = true) : p.awaits id = true := by
  simp only [awaits, Bool.or_eq_true, List.contains_iff_mem, decide_eq_true_eq] at awaited ⊢
  cases (step_books distinct happened).shifted with
  | stays _ _ _ _ pending _ next => rwa [next, pending.mem_iff] at awaited
  | gives _ _ _ _ pending _ next =>
    rw [next, pending.mem_iff, List.mem_cons] at awaited
    rcases awaited with (rfl | given) | later
    · exact .inr (Nat.le_refl _)
    · exact .inl given
    · exact .inr (by omega)
  | comes other _ _ _ _ pending _ next =>
    rw [next] at awaited
    exact awaited.imp_left fun given => pending.mem_iff.mpr (List.mem_cons_of_mem _ given)
  | goes _ _ _ _ _ _ _ pending _ next => rwa [next, pending.mem_iff] at awaited

private theorem leave_step (spends : Spends kind measure) (id : Nat) (numbered : p.Numbered)
    (cleared : p.isRunning = false) (happened : p.step? event = some q) :
    leave measure id q + (movers kind [event]).count id ≤ leave measure id p := by
  have still := numbered_step numbered happened
  have counted : ∀ {move : Move}, event = .move id move → (movers kind [event]).count id = (kind move).toNat := by
    rintro move rfl
    cases mark : kind move <;> simp [movers, Event.mover?, mark]
  have alone : (∀ move, event ≠ .move id move) → (movers kind [event]).count id = 0 := by
    intro still
    refine List.count_eq_zero.mpr fun member => ?_
    obtain ⟨other, inside, moves⟩ := List.mem_filterMap.mp member
    rw [List.mem_singleton.mp inside] at moves
    obtain ⟨move, _, same⟩ := mover?_eq_some moves
    exact still move same
  cases step_fate numbered.fresh happened id with
  | rests still same =>
    have kept : q.left measure id = p.left measure id := by rw [left, left, same]
    rw [alone still, leave, leave, kept, Nat.add_zero]
    cases before : p.awaits id with
    | true =>
      -- Whoever is awaited is not there, so nothing else is left to it.
      have absent : p.worker? id = none := worker?_eq_none.mpr fun there => by
        rw [there_unawaited numbered there] at before
        cases before
      rw [left_gone absent]
      split
      · exact Nat.le_refl _
      · exact Nat.zero_le _
    | false =>
      have after : q.awaits id = false := Bool.eq_false_iff.mpr fun awaited => by
        rw [awaits_step numbered.nodup happened awaited] at before
        cases before
      exact Nat.le_of_eq (by rw [after])
  | setsOut still pending was now =>
    have before : p.awaits id = true := by simp [awaits, pending]
    refine Nat.le_of_eq ?_
    rw [alone still, leave, leave, before, left_of now, if_pos rfl, ite_self, Nat.add_zero]
  | turns w v move moves was turn now =>
    rw [counted moves, leave, leave, there_unawaited numbered (worker?_mem_ids was),
      there_unawaited still (worker?_mem_ids now), left_of was, left_of now]
    exact spends.turn p w.phase v.phase move cleared turn
  | leaves w cause moves was leaving now =>
    have before : p.awaits id = false := there_unawaited numbered (worker?_mem_ids was)
    have after : q.awaits id = false := Bool.eq_false_iff.mpr fun awaited => by
      rw [awaits_step numbered.nodup happened awaited] at before
      cases before
    rw [counted moves, leave, leave, before, after, left_of was, left_gone now, leaving]
    simpa using spends.leave cause

/-- Whatever happens while the flag is cleared, a worker makes no more moves of a kind than were left to it. -/
private theorem leave_run (spends : Spends kind measure) (id : Nat) (numbered : p.Numbered)
    (cleared : p.isRunning = false) (unstarted : ∀ count, .start count ∉ events)
    (ran : p.run? events = some q) :
    leave measure id q + (movers kind events).count id ≤ leave measure id p := by
  induction events generalizing p with
  | nil =>
    cases ran
    exact Nat.le_refl _
  | cons event rest ih =>
    obtain ⟨r, happened, later⟩ := Option.bind_eq_some_iff.mp ran
    have first := leave_step spends id numbered cleared happened
    have others := ih (numbered_step numbered happened)
      (cleared_step cleared (fun count same => unstarted count (same ▸ List.mem_cons_self)) happened)
      (fun count member => unstarted count (List.mem_cons_of_mem _ member)) later
    rw [movers_cons, List.count_append]
    omega

end Counting

/-! ## Items -/

private theorem handlings_cons (happened : p.step? event = some q) (rest : List (Event ι)) :
    p.handlings (event :: rest) = (p.handling? event).toList ++ q.handlings rest := by
  simp [handlings, happened]

private theorem begun_append (first later : List (Handling ι)) :
    begun (first ++ later) = begun first ++ begun later := List.filterMap_append

private theorem ended_append (first later : List (Handling ι)) :
    ended (first ++ later) = ended first ++ ended later := List.filterMap_append

private theorem itemsOf_append (id : Nat) (first later : List (Nat × ι)) :
    itemsOf id (first ++ later) = itemsOf id first ++ itemsOf id later := by
  simp [itemsOf]

/-- Whoever does not move handles nothing. -/
private theorem still_handles {id : Nat} (still : ∀ move, event ≠ .move id move) :
    itemsOf id (begun (p.handling? event).toList) = [] ∧ itemsOf id (ended (p.handling? event).toList) = [] := by
  unfold handling?
  split
  · rename_i mover
    have other : mover ≠ id := fun same => still .take (same ▸ rfl)
    cases p.source.items.head? <;> simp [begun, ended, itemsOf, Handling.begun?, Handling.ended?, other]
  · rename_i mover
    have other : mover ≠ id := fun same => still .finish (same ▸ rfl)
    cases p.hand? mover <;> simp [begun, ended, itemsOf, Handling.begun?, Handling.ended?, other]
  · rename_i mover
    have other : mover ≠ id := fun same => still .collapse (same ▸ rfl)
    cases p.hand? mover <;> simp [begun, ended, itemsOf, Handling.begun?, Handling.ended?, other]
  · exact ⟨rfl, rfl⟩

private theorem hand_of {id : Nat} {worker : Worker ι} (found : p.worker? id = some worker) :
    p.hand? id = worker.item? := by
  simp [hand?, found]

/-- What a worker had in hand and what it begins is what it ends and what it has in hand then. -/
private theorem hand_step (numbered : p.Numbered) (happened : p.step? event = some q) (id : Nat) :
    (p.hand? id).toList ++ itemsOf id (begun (p.handling? event).toList) =
      itemsOf id (ended (p.handling? event).toList) ++ (q.hand? id).toList := by
  cases step_fate numbered.fresh happened id with
  | rests still same =>
    obtain ⟨nothing, neither⟩ := still_handles (p := p) still
    rw [nothing, neither, List.append_nil, List.nil_append, hand?, hand?, same]
  | setsOut still pending was now =>
    obtain ⟨nothing, neither⟩ := still_handles (p := p) still
    rw [nothing, neither, hand_of now, hand?, was]
    rfl
  | turns w v move moves was turn now =>
    subst moves
    have had := hand_of was
    rw [had, hand_of now]
    rw [Worker.item?] at had
    rw [Worker.item?, Worker.item?]
    generalize w.phase = before at had turn
    generalize v.phase = after at turn
    cases turn with
    | takes item rest first =>
      simp [handling?, first, begun, ended, itemsOf, Handling.begun?, Handling.ended?]
    | finishes item =>
      simp [handling?, had, begun, ended, itemsOf, Handling.begun?, Handling.ended?]
    | collapses phase frail =>
      cases before <;> simp [handling?, had, begun, ended, itemsOf, Handling.begun?, Handling.ended?]
    | _ => simp [handling?, begun, ended, itemsOf]
  | leaves w cause moves was leaving now =>
    subst moves
    rw [hand_of was, hand?, now]
    simp [handling?, Worker.item?, leaving, begun, ended, itemsOf]

private theorem hand_run (numbered : p.Numbered) (ran : p.run? events = some q) (id : Nat) :
    (p.hand? id).toList ++ itemsOf id (begun (p.handlings events)) =
      itemsOf id (ended (p.handlings events)) ++ (q.hand? id).toList := by
  induction events generalizing p with
  | nil =>
    cases ran
    exact List.append_nil _
  | cons event rest ih =>
    obtain ⟨r, happened, later⟩ := Option.bind_eq_some_iff.mp ran
    have first := hand_step numbered happened id
    have others := ih (numbered_step numbered happened) later
    rw [handlings_cons happened, begun_append, ended_append, itemsOf_append, itemsOf_append, ← List.append_assoc,
      first, List.append_assoc, others, List.append_assoc]

private theorem begun_other {id : Nat} {made : Move} (other : made ≠ .take) :
    begun (p.handling? (.move id made)).toList = [] := by
  cases made with
  | take => exact absurd rfl other
  | finish => simp only [handling?]; cases p.hand? id <;> rfl
  | collapse => simp only [handling?]; cases p.hand? id <;> rfl
  | _ => rfl

/-- Items leave the source at its front and come to its end. -/
private theorem order_step (happened : p.step? event = some q) :
    (begun (p.handling? event).toList).map Prod.snd ++ q.source.items =
        p.source.items ++ (if p.source.isOpen then event.item?.toList else []) ∧
      q.source.isOpen = (p.source.isOpen && !event.closes) := by
  have kept : q.source = p.source → begun (p.handling? event).toList = [] → event.item? = none →
      event.closes = false →
      (begun (p.handling? event).toList).map Prod.snd ++ q.source.items =
          p.source.items ++ (if p.source.isOpen then event.item?.toList else []) ∧
        q.source.isOpen = (p.source.isOpen && !event.closes) := by
    intro same nothing none closed
    rw [same, nothing, none, closed]
    simp
  cases step_cases happened with
  | starts count =>
    refine kept ?_ rfl rfl rfl
    unfold raise
    split <;> rfl
  | numbers place owed found => exact kept rfl rfl rfl rfl
  | launches place owed id found => exact kept rfl rfl rfl rfl
  | stops => exact kept rfl rfl rfl rfl
  | sends message room => exact kept rfl rfl rfl rfl
  | offers item =>
    cases isOpen : p.source.isOpen <;>
      simp [offer, Source.offer, isOpen, begun, handling?, Event.item?, Event.closes]
  | closes => simp [close, Source.close, begun, handling?, Event.item?, Event.closes]
  | moves worker move q found moved =>
    cases moved with
    | follows message told =>
      refine kept ?_ rfl rfl rfl
      cases message <;> rfl
    | takes item rest waiting first =>
      simp [handling?, first, begun, Handling.begun?, put, Event.item?, Event.closes]
    | finishes item working => exact kept rfl (begun_other (by decide)) rfl rfl
    | collapses => exact kept rfl (begun_other (by decide)) rfl rfl
    | _ => exact kept rfl rfl rfl rfl

private theorem admitted_cons (event : Event ι) (rest : List (Event ι)) :
    admitted (event :: rest) = event.item?.toList ++ if event.closes then [] else admitted rest := by
  cases event <;> rfl

private theorem order_run (ran : p.run? events = some q) :
    (begun (p.handlings events)).map Prod.snd ++ q.source.items =
      p.source.items ++ (if p.source.isOpen then admitted events else []) := by
  induction events generalizing p with
  | nil =>
    cases ran
    simp [handlings, begun, admitted]
  | cons event rest ih =>
    obtain ⟨r, happened, later⟩ := Option.bind_eq_some_iff.mp ran
    obtain ⟨first, isOpen⟩ := order_step happened
    have offered : (if p.source.isOpen then event.item?.toList else []) ++
          (if r.source.isOpen then admitted rest else []) =
        if p.source.isOpen then admitted (event :: rest) else [] := by
      rw [isOpen, admitted_cons]
      cases p.source.isOpen <;> cases event.closes <;> simp
    rw [handlings_cons happened, begun_append, List.map_append, List.append_assoc, ih later, ← List.append_assoc,
      first, List.append_assoc, offered]

private theorem spoiled_run {id : Nat} {item : ι} (spoiled : .spoiled id item ∈ p.handlings events) :
    .move id .collapse ∈ events := by
  induction events generalizing p with
  | nil => cases spoiled
  | cons event rest ih =>
    rcases List.mem_append.mp spoiled with now | later
    · have first := Option.mem_toList.mp now
      unfold handling? at first
      split at first
      · simp at first
      · simp at first
      · rename_i other
        cases had : p.hand? other with
        | none => simp [had] at first
        | some held =>
          simp only [had, Option.map_some, Option.some.injEq, Handling.spoiled.injEq] at first
          exact first.1 ▸ List.mem_cons_self
      · cases first
    · cases happened : p.step? event with
      | none => simp [happened] at later
      | some r => exact List.mem_cons_of_mem _ (ih (by simpa [happened] using later))

private theorem cleared_run (cleared : p.isRunning = false) (unstarted : ∀ count, .start count ∉ events)
    (ran : p.run? events = some q) : q.isRunning = false := by
  induction events generalizing p with
  | nil =>
    cases ran
    exact cleared
  | cons event rest ih =>
    obtain ⟨r, happened, later⟩ := Option.bind_eq_some_iff.mp ran
    exact ih (cleared_step cleared (fun count same => unstarted count (same ▸ List.mem_cons_self)) happened)
      (fun count member => unstarted count (List.mem_cons_of_mem _ member)) later

private theorem begun_length (ran : p.run? events = some q) :
    (begun (p.handlings events)).length ≤ (movers Move.takes events).length := by
  induction events generalizing p with
  | nil => exact Nat.zero_le _
  | cons event rest ih =>
    obtain ⟨r, happened, later⟩ := Option.bind_eq_some_iff.mp ran
    have others := ih later
    have first : (begun (p.handling? event).toList).length ≤ (movers Move.takes [event]).length := by
      cases event with
      | move id made =>
        by_cases takes : made = .take
        · subst takes
          have one : (movers Move.takes [(.move id .take : Event ι)]).length = 1 := rfl
          rw [one, handling?]
          cases p.source.items.head? <;> simp [begun, Handling.begun?]
        · rw [begun_other takes]
          exact Nat.zero_le _
      | _ => exact Nat.zero_le _
    rw [handlings_cons happened, begun_append, movers_cons, List.length_append, List.length_append]
    omega

/-! ## Ending -/

/-- A worker comes to its end by its own moves, without breaking down. -/
def Ends (p : Pool ι) (id : Nat) : Prop :=
  ∃ (moves : List Move) (q : Pool ι), .collapse ∉ moves ∧ p.run? (moves.map (.move id)) = some q ∧ id ∉ q.ids

/-- A worker that comes to its end after a move comes to its end. -/
private theorem ends_after {id : Nat} {move : Move} (unharmed : move ≠ .collapse)
    (happened : p.step? (.move id move) = some q) (ends : q.Ends id) : p.Ends id := by
  obtain ⟨moves, r, whole, ran, gone⟩ := ends
  refine ⟨move :: moves, r, ?_, ?_, gone⟩
  · simp [Ne.symm unharmed, whole]
  · simp only [List.map_cons, run?, happened, Option.bind_some]
    exact ran

/-- A worker that is put in the place of itself is there. -/
private theorem put_found {w v r : Worker ι} {other : Pool ι} (found : p.worker? w.id = some r)
    (workers : other.workers = p.workers) (same : v.id = w.id) : (other.put v).worker? w.id = some v := by
  have there : w.id ∈ other.ids := by
    rw [ids, workers]
    exact worker?_mem_ids found
  rw [worker?_put there v same, if_pos rfl]

section Ending
variable {id : Nat} {w : Worker ι} (cleared : p.isRunning = false) (found : p.worker? id = some w)
include found

private theorem leaving_ends {cause : Cause} (leaving : w.phase = .leaving cause) : p.Ends id := by
  have leaves : p.step? (.move id .leave) = some (p.retire id) := by
    simp only [step?, found, Option.bind_some, moved?, leaving, worker?_id found]
  exact ends_after (by decide) leaves ⟨[], p.retire id, List.not_mem_nil, rfl, by simp⟩

include cleared

private theorem looking_ends (looking : w.phase = .looking) : p.Ends id := by
  have named := worker?_id found
  subst named
  have looks : p.step? (.move w.id .look) = some (p.put { w with phase := .leaving .lapsed }) := by
    simp only [step?, found, Option.bind_some, moved?, looking, cleared, Bool.false_eq_true, if_false]
  exact ends_after (by decide) looks (leaving_ends (put_found found rfl rfl) rfl)

/-- So does a worker that goes back to looking. -/
private theorem returning_ends {move : Move} (unharmed : move ≠ .collapse) (idle : Bool)
    (happened : p.step? (.move id move) = some (p.put ⟨w.id, .looking, idle⟩)) : p.Ends id := by
  have named := worker?_id found
  subst named
  exact ends_after unharmed happened (looking_ends cleared (put_found found rfl rfl) rfl)

private theorem spawning_ends (numbered : p.Numbered) {new : Nat} (spawning : w.phase = .spawning new) :
    p.Ends id := by
  have named := worker?_id found
  subst named
  let back : Worker ι := { w with phase := .looking }
  have launches : p.step? (.move w.id .launch) = some ((p.put back).launch new) := by
    simp only [step?, found, Option.bind_some, moved?, spawning]
    rfl
  have given : new ∈ p.pending :=
    List.mem_append_right _ (List.mem_filterMap.mpr ⟨w, worker?_mem found, by simp [Worker.number?, spawning]⟩)
  have absent : new ∉ (p.put back).ids := by
    rw [ids_put]
    exact numbered.fresh new given
  have other : w.id ≠ new := fun same => numbered.fresh new given (same ▸ worker?_mem_ids found)
  have there : ((p.put back).launch new).worker? w.id = some back := by
    rw [worker?_launch absent, if_neg other]
    exact put_found found rfl rfl
  exact ends_after (by decide) launches (looking_ends cleared there rfl)

private theorem told_ends (numbered : p.Numbered) {message : Message} (told : w.phase = .told message) :
    p.Ends id := by
  have named := worker?_id found
  subst named
  have follows : p.step? (.move w.id .follow) = some (p.follow w message) := by
    simp only [step?, found, Option.bind_some, moved?, told]
  have still := numbered_step numbered follows
  refine ends_after (by decide) follows ?_
  cases message with
  | stop => exact leaving_ends (put_found found rfl rfl) rfl
  | shutdown => exact leaving_ends (put_found found (show p.stop.workers = p.workers from rfl) rfl) rfl
  | spawn => exact spawning_ends cleared (put_found found rfl rfl) still rfl
  | status => exact looking_ends cleared (put_found found rfl rfl) rfl

private theorem worker_ends (numbered : p.Numbered) : p.Ends id := by
  cases phase : w.phase with
  | looking => exact looking_ends cleared found phase
  | waiting =>
    refine returning_ends cleared found (by decide : Move.beat ≠ .collapse) false ?_
    simp only [step?, found, Option.bind_some, moved?, phase]
  | told message => exact told_ends cleared found numbered phase
  | spawning new => exact spawning_ends cleared found numbered phase
  | working item =>
    refine returning_ends cleared found (by decide : Move.finish ≠ .collapse) w.isIdle ?_
    simp only [step?, found, Option.bind_some, moved?, phase]
  | leaving cause => exact leaving_ends found phase

end Ending

/-! ## Winding down -/

section Down
variable (numbered : p.Numbered) (cleared : p.isRunning = false) (unstarted : ∀ count, .start count ∉ events)
  (ran : p.run? events = some q)
include numbered cleared unstarted ran

/-- A worker that gets something was waiting, gets nothing else, and waits no more. -/
private theorem gets_last {id : Nat} (member : id ∈ movers Move.takes events) :
    (movers Move.takes events).count id = 1 ∧
      (∃ worker, p.worker? id = some worker ∧ worker.phase = .waiting) ∧
      ∀ worker, q.worker? id = some worker → worker.phase ≠ .waiting := by
  have paid := leave_run spends_takes id numbered cleared unstarted ran
  have got := List.count_pos_iff.mpr member
  have most : leave Phase.waits id p ≤ 1 ∧
      (leave Phase.waits id p = 0 ∨ ∃ worker, p.worker? id = some worker ∧ worker.phase = .waiting) := by
    unfold leave
    split
    · exact ⟨Nat.zero_le 1, .inl rfl⟩
    · cases found : p.worker? id with
      | none => simp [left_gone found]
      | some worker =>
        rw [left_of found]
        cases phase : worker.phase with
        | waiting => exact ⟨Nat.le_refl 1, .inr ⟨worker, rfl, phase⟩⟩
        | _ => exact ⟨Nat.zero_le 1, .inl rfl⟩
  have waited : ∃ worker, p.worker? id = some worker ∧ worker.phase = .waiting :=
    most.2.resolve_left (by omega)
  refine ⟨by omega, waited, fun worker found waiting => ?_⟩
  have still := there_unawaited (numbered_run numbered ran) (worker?_mem_ids found)
  have again : leave Phase.waits id q = 1 := by
    rw [leave, still, left_of found, waiting]
    rfl
  omega

private theorem takes_once : (movers Move.takes events).Nodup := by
  refine List.nodup_iff_count_le_one.mpr fun id => ?_
  by_cases member : id ∈ movers Move.takes events
  · exact Nat.le_of_eq (gets_last numbered cleared unstarted ran member).1
  · rw [List.count_eq_zero.mpr member]
    exact Nat.zero_le 1

private theorem begun_le (counted : p.live = p.ids.length) : (begun (p.handlings events)).length ≤ p.live := by
  have fewer := begun_length ran
  have few : (movers Move.takes events).length ≤ p.ids.length := by
    refine (List.subperm_of_subset (takes_once numbered cleared unstarted ran) fun id member => ?_).length_le
    obtain ⟨_, ⟨worker, found, _⟩, _⟩ := gets_last numbered cleared unstarted ran member
    exact worker?_mem_ids found
  omega

private theorem comes_nearer (id : Nat) :
    q.left Phase.toGo id + (movers (fun _ => true) events).count id ≤
      if p.awaits id then 2 else p.left Phase.toGo id := by
  have paid := leave_run spends_moves id numbered cleared unstarted ran
  have less : q.left Phase.toGo id ≤ leave Phase.toGo id q := by
    cases awaited : q.awaits id with
    | false =>
      rw [leave, awaited]
      exact Nat.le_refl _
    | true =>
      have absent : q.worker? id = none := worker?_eq_none.mpr fun there => by
        rw [there_unawaited (numbered_run numbered ran) there] at awaited
        cases awaited
      rw [left_gone absent]
      exact Nat.zero_le _
  exact Nat.le_trans (Nat.add_le_add_right less _) paid

end Down

private theorem left_there {id : Nat} (member : id ∈ p.ids) : 0 < p.left Phase.toGo id := by
  obtain ⟨worker, found⟩ := Option.isSome_iff_exists.mp (worker?_isSome.mpr member)
  rw [left_of found]
  cases worker.phase with
  | told message => cases message <;> simp [Phase.toGo]
  | _ => simp [Phase.toGo]

/-! ## The main theorem -/

/-- How a pool `p` whose flag is cleared winds down in some events. -/
structure WindsDown (p q : Pool ι) (events : List (Event ι)) : Prop where
  cleared : q.isRunning = false
  /-- No worker gets two of the things that it waits for. -/
  once : (movers Move.takes events).Nodup
  /-- Who gets something was waiting when the flag was cleared, -/
  waited : ∀ id ∈ movers Move.takes events, ∃ worker, p.worker? id = some worker ∧ worker.phase = .waiting
  /-- and never waits again. -/
  spent : ∀ id ∈ movers Move.takes events, ∀ worker, q.worker? id = some worker → worker.phase ≠ .waiting
  /-- No more items are begun than there were workers. -/
  items : (begun (p.handlings events)).length ≤ p.live
  /-- The moves that a worker makes bring it nearer to its end. -/
  nearer : ∀ id, q.left Phase.toGo id + (movers (fun _ => true) events).count id ≤
    if p.awaits id then 2 else p.left Phase.toGo id
  /-- Who has not left has a move before it, -/
  there : ∀ id ∈ q.ids, 0 < q.left Phase.toGo id
  /-- and comes to its end by its own moves, without breaking down. -/
  ends : ∀ id ∈ q.ids, q.Ends id

/-- How the items of a pool are accounted for after some events. -/
structure Lossless (q : Pool ι) (events : List (Event ι)) (handlings : List (Handling ι)) : Prop where
  /-- Items are begun in the order in which they were offered, and those that were not begun wait in this order. -/
  order : (begun handlings).map Prod.snd ++ q.source.items = admitted events
  /-- A worker ends what it began, in turn and once, but for the item that it has in hand. -/
  each : ∀ id, itemsOf id (begun handlings) = itemsOf id (ended handlings) ++ (q.hand? id).toList
  /-- An item is spoiled only where a worker breaks down. -/
  unspoiled : ∀ id item, .spoiled id item ∈ handlings → .move id .collapse ∈ events

theorem run?_append (p : Pool ι) (first later : List (Event ι)) :
    p.run? (first ++ later) = (p.run? first).bind fun q => q.run? later := by
  induction first generalizing p with
  | nil => rfl
  | cons event rest ih =>
    simp only [List.cons_append, run?]
    cases p.step? event with
    | none => rfl
    | some q => exact ih q

/-- **A stopped pool winds down and loses nothing.** The flag is cleared after some events, and in those that
follow nobody starts the pool. Of the workers that wait at that time, each gets at most one more message, item or
heartbeat, and then ends; all others end without, also those that are still to set out. Every item that was ever
begun is ended, once and by the worker that began it, or still in its hand; the others wait in the order in which
they came. -/
theorem a_stopped_pool_winds_down (tells : Bool) (before after : List (Event ι))
    (began : (fresh tells).run? before = some p) (cleared : p.isRunning = false)
    (unstarted : ∀ count, .start count ∉ after) (ran : p.run? after = some q) :
    WindsDown p q after ∧
      Lossless q (before ++ after) ((fresh tells : Pool ι).handlings (before ++ after)) := by
  have numbered : p.Numbered := numbered_run (numbered_fresh tells) began
  have still : q.Numbered := numbered_run numbered ran
  have stays := cleared_run cleared unstarted ran
  have last : ∀ id ∈ movers Move.takes after, _ := fun _ => gets_last numbered cleared unstarted ran
  have whole : (fresh tells).run? (before ++ after) = some q := by
    rw [run?_append, began, Option.bind_some, ran]
  constructor
  · constructor
    case cleared => exact stays
    case once => exact takes_once numbered cleared unstarted ran
    case waited => exact fun id member => (last id member).2.1
    case spent => exact fun id member => (last id member).2.2
    case items => exact begun_le numbered cleared unstarted ran (balanced_run (balanced_fresh tells) began).live
    case nearer => exact comes_nearer numbered cleared unstarted ran
    case there => exact fun _ => left_there
    case ends =>
      intro id there
      obtain ⟨worker, member, rfl⟩ := List.mem_map.mp there
      exact worker_ends stays (worker?_of_mem still.nodup member) still
  · constructor
    case order => exact order_run whole
    case each => exact hand_run (numbered_fresh tells) whole
    case unspoiled => exact fun _ _ => spoiled_run

/-- When the pool is stopped, one worker has an item in hand, one waits, and one is about to follow a message to spawn.
The one that waits takes an item, a fourth one sets out, and whoever looks at the flag leaves. -/
theorem three_workers_wind_down :
    let before : List (Event Nat) := [.start 3, .number 0, .launch 0, .number 0, .launch 0, .number 0, .launch 0,
      .move 1 .look, .move 2 .look, .move 3 .look, .offer 10, .offer 11, .offer 12, .send .spawn, .move 1 .take,
      .move 3 .receive, .stop]
    let after : List (Event Nat) := [.move 2 .take, .move 3 .follow, .move 1 .finish, .move 3 .launch, .move 4 .look,
      .move 2 .finish, .move 3 .look, .move 1 .look, .move 2 .look, .move 4 .leave, .move 1 .leave, .move 2 .leave,
      .move 3 .leave]
    let stopped : Pool Nat := ⟨false, 3, 4, [.finished],
      [⟨1, .working 10, false⟩, ⟨2, .waiting, false⟩, ⟨3, .told .spawn, false⟩], [], ⟨[11, 12], true, true⟩⟩
    let empty : Pool Nat := ⟨false, 0, 5, [.finished], [], [], ⟨[12], true, true⟩⟩
    stopped.isRunning = false ∧ WindsDown stopped empty after ∧
      Lossless empty (before ++ after) ((fresh true : Pool Nat).handlings (before ++ after)) :=
  ⟨rfl, a_stopped_pool_winds_down true _ _ rfl rfl (by simp) rfl⟩

end Pool
end HostSurvey.Control
