import HostSurvey.Proofs.Control.Shutdown
import Mathlib.Algebra.GroupWithZero.Nat
/-!
# A pool that is started again

All starts share one flag. A worker that has not looked at it since it was cleared finds it raised again, and goes
on with those of the new start.

1. While the flag is up nobody finds it cleared, and those who set out for starts are those who were still to do so
   (`running_run`). So whoever leaves over the cleared flag had found it cleared before.
2. So the counter is what it was at the start, more what the start and spawning messages add and less what
   stopping messages, breakdowns and those who were about to leave take away. It is exact for the new start if nobody
   was left of the old ones.
-/
namespace HostSurvey.Control

/-- How many workers a start has still to let set out. -/
def Start.due (start : Start) : Nat := start.owed + start.given?.toList.length

namespace Pool

variable {ι : Type} {p q : Pool ι} {event : Event ι} {events : List (Event ι)}

/-- How many workers are still to set out for starts. -/
def owed (p : Pool ι) : Nat := (p.starts.map Start.due).sum

private theorem owed_set (p : Pool ι) {place : Nat} {was now : Start} (found : p.starts[place]? = some was) :
    ({ p with starts := p.starts.set place now } : Pool ι).owed + was.due = p.owed + now.due := by
  obtain ⟨inside, here⟩ := List.getElem?_eq_some_iff.mp found
  have before := ((List.getElem_cons_eraseIdx_perm inside).map Start.due).sum_nat
  have after := ((List.set_perm_cons_eraseIdx inside now).map Start.due).sum_nat
  rw [here, List.map_cons, List.sum_cons] at before
  rw [List.map_cons, List.sum_cons] at after
  simp only [owed]
  omega

/-! ## While the flag is up -/

/-- What an event does while the flag is up. -/
structure Up (p q : Pool ι) (deeds : List Deed) : Prop where
  running : q.isRunning = true
  owed : q.owed + deeds.countP Deed.isLaunch = p.owed

private theorem running_move {worker : Worker ι} {move : Move} (running : p.isRunning = true)
    (found : p.worker? worker.id = some worker) (moved : Moved p worker move q)
    (up : .shut worker.id ∉ p.deed? (.move worker.id move)) :
    Up p q (p.deed? (.move worker.id move)).toList := by
  cases moved with
  | goesOn | takes | misses | beats | finishes | collapses =>
    rw [move_silent p rfl]
    exact ⟨running, rfl⟩
  | lapses looking cleared =>
    rw [running] at cleared
    cases cleared
  | receives message rest waiting first =>
    simp only [deed?, found, Option.bind_some, waiting, first, List.head?_cons, Option.map_some]
    exact ⟨running, rfl⟩
  | follows message told =>
    simp only [deed?, found, Option.bind_some, told] at up ⊢
    cases message with
    | shutdown => exact absurd rfl up
    | _ => exact ⟨running, rfl⟩
  | launches id spawning =>
    simp only [deed?, found, Option.bind_some, spawning]
    exact ⟨running, rfl⟩
  | leaves cause leaving =>
    simp only [deed?, found, Option.bind_some, leaving]
    exact ⟨running, rfl⟩

private theorem running_step (running : p.isRunning = true) (unstopped : event ≠ .stop)
    (up : ∀ id, .shut id ∉ p.deed? event) (happened : p.step? event = some q) :
    Up p q (p.deed? event).toList := by
  cases step_cases happened with
  | starts count =>
    rw [raise, if_pos running]
    exact ⟨running, rfl⟩
  | numbers place owed found =>
    simp only [deed?, found, Option.map_some]
    let rest : Pool ι := { p with nextId := p.nextId + 1, starts := p.starts.set place ⟨owed, some p.nextId⟩ }
    have same : rest.owed + (owed + 1) = p.owed + (owed + 1) := owed_set p found
    exact ⟨running, Nat.add_right_cancel same⟩
  | launches place owed id found =>
    simp only [deed?, found, Option.bind_some, Option.map_some]
    let rest : Pool ι := { p with starts := p.starts.set place ⟨owed, none⟩ }
    have less : rest.owed + (owed + 1) = p.owed + owed := owed_set p found
    refine ⟨running, ?_⟩
    show rest.owed + 1 = p.owed
    omega
  | stops => exact absurd rfl unstopped
  | sends message room => exact ⟨running, rfl⟩
  | offers item => exact ⟨running, rfl⟩
  | closes => exact ⟨running, rfl⟩
  | moves worker move q found moved => exact running_move running found moved (up worker.id)

/-- As long as the flag is up, only those set out for a start who were to do so. -/
theorem running_run (running : p.isRunning = true) (unstopped : .stop ∉ events)
    (up : ∀ id, .shut id ∉ p.deeds events) (ran : p.run? events = some q) : Up p q (p.deeds events) := by
  induction events generalizing p with
  | nil =>
    cases ran
    exact ⟨running, rfl⟩
  | cons event rest ih =>
    obtain ⟨r, happened, later⟩ := Option.bind_eq_some_iff.mp ran
    rw [deeds_cons happened] at up ⊢
    have first := running_step running (fun same => unstopped (same ▸ List.mem_cons_self))
      (fun id shut => up id (List.mem_append_left _ (Option.mem_toList.mpr shut))) happened
    have others := ih first.running (fun member => unstopped (List.mem_cons_of_mem _ member))
      (fun id shut => up id (List.mem_append_right _ shut)) later
    have owed := first.owed
    have rest_owed := others.owed
    refine ⟨others.running, ?_⟩
    rw [List.countP_append]
    omega

/-- Who leaves over the flag while it is up was about to leave before. -/
private theorem former_leaves (numbered : p.Numbered) (running : p.isRunning = true) (unstopped : .stop ∉ events)
    (up : ∀ id, .shut id ∉ p.deeds events) {id : Nat} {cause : Cause} (final : cause = .lapsed ∨ cause = .shut)
    (left : (id, cause) ∈ exits (p.deeds events)) :
    ∃ worker, p.worker? id = some worker ∧ worker.phase = .leaving cause := by
  refine (exit_turned numbered left).resolve_right ?_
  rintro ⟨first, later, move, r, worker, rfl, reached, found, turn⟩
  rw [deeds_append p first _ reached] at up
  rcases final with rfl | rfl
  · have flag := running_run running (fun stops => unstopped (List.mem_append_left _ stops))
      (fun id shut => up id (List.mem_append_left _ shut)) reached
    generalize worker.phase = phase at turn
    cases turn with
    | lapses cleared =>
      have raised := flag.running
      rw [cleared] at raised
      cases raised
  · refine up id (List.mem_append_right _ (List.mem_append_left _ (Option.mem_toList.mpr ?_)))
    obtain ⟨number, phase, idle⟩ := worker
    cases turn with
    | shuts => simp [deed?, found]

/-! ## Who moves -/

private theorem mover_there {kind : Move → Bool} {id : Nat} (moves : event.mover? kind = some id)
    (happened : p.step? event = some q) : id ∈ p.ids := by
  obtain ⟨_, _, rfl⟩ := mover?_eq_some moves
  obtain ⟨worker, found, _⟩ := Option.bind_eq_some_iff.mp happened
  exact worker?_mem_ids found

/-- Who is there after an event was there or was awaited. -/
private theorem there_step (distinct : p.ids.Nodup) (happened : p.step? event = some q) {id : Nat}
    (there : id ∈ q.ids) : id ∈ p.ids ∨ p.awaits id = true := by
  cases (step_books distinct happened).shifted with
  | stays _ _ _ ids => exact .inl (ids ▸ there)
  | gives _ _ _ ids => exact .inl (ids ▸ there)
  | comes new _ _ _ ids pending =>
    rw [ids, List.mem_append, List.mem_singleton] at there
    refine there.imp_right ?_
    rintro rfl
    simp [awaits, pending.mem_iff]
  | goes gone cause _ _ _ _ ids =>
    rw [ids] at there
    exact .inl (List.mem_of_mem_filter there)

/-- Whoever moves later on is there now or awaited now. -/
private theorem movers_run (kind : Move → Bool) (numbered : p.Numbered) (ran : p.run? events = some q) :
    ∀ id ∈ movers kind events, id ∈ p.ids ∨ p.awaits id = true := by
  induction events generalizing p with
  | nil =>
    intro id member
    cases member
  | cons event rest ih =>
    obtain ⟨r, happened, later⟩ := Option.bind_eq_some_iff.mp ran
    intro id member
    obtain ⟨now, inside, moves⟩ := List.mem_filterMap.mp member
    rcases List.mem_cons.mp inside with rfl | others
    · exact .inl (mover_there moves happened)
    · rcases ih (numbered_step numbered happened) later id (List.mem_filterMap.mpr ⟨now, others, moves⟩) with
        there | awaited
      · exact there_step numbered.nodup happened there
      · exact .inr (awaits_step numbered.nodup happened awaited)

/-! ## The main theorem -/

/-- What a start means for a pool `p` that was stopped before, after some more events, by their deeds. -/
structure Restarted (p q : Pool ι) (count : Nat) (events : List (Event ι)) (deeds : List Deed) : Prop where
  running : q.isRunning = true
  /-- Those who were there or were still to set out are counted with those who were asked for. -/
  counted : (q.live + q.owed : Int) = p.live + p.owed + count + timesHandled deeds .spawn -
    timesHandled deeds .stop - timesLeft deeds .collapsed - timesHandled deeds .shutdown - timesLeft deeds .lapsed
  /-- Who leaves over the flag was about to leave already. -/
  former : ∀ id cause, (cause = .lapsed ∨ cause = .shut) → (id, cause) ∈ exits deeds →
    ∃ worker, p.worker? id = some worker ∧ worker.phase = .leaving cause
  /-- All others who were there stay, unless they are told to stop or break down. -/
  kept : ∀ worker ∈ p.workers, (∀ cause, worker.phase ≠ .leaving cause) →
    worker.id ∈ q.ids ∨ (worker.id, .stopped) ∈ exits deeds ∨ (worker.id, .collapsed) ∈ exits deeds
  /-- Who gets a message, an item or a heartbeat was there, or was awaited or set out since. -/
  getting : ∀ id ∈ movers Move.takes events, id ∈ p.ids ∨ p.awaits id = true
  /-- If nobody was there, and nobody was still to set out, the counter is exact for the new start. -/
  exact : p.live = 0 → p.owed = 0 → q.owed = 0 → timesLeft deeds .collapsed = 0 →
    (q.live : Int) = count + timesHandled deeds .spawn - timesHandled deeds .stop ∧
      ∀ id ∈ movers Move.takes events, p.nextId ≤ id

/-- Where nobody is and nobody is still to set out, the next workers bear new numbers. -/
private theorem awaits_new {id : Nat} (nobody : p.workers = []) (settled : p.owed = 0)
    (awaited : p.awaits id = true) : p.nextId ≤ id := by
  have none : p.starts.filterMap Start.given? = [] := by
    refine List.filterMap_eq_nil_iff.mpr fun start member => ?_
    have due : start.due = 0 :=
      List.sum_eq_zero_iff_forall_eq_nat.mp settled start.due (List.mem_map.mpr ⟨start, member, rfl⟩)
    cases given : start.given? with
    | none => rfl
    | some other => simp [Start.due, given] at due
  simpa [awaits, pending, none, nobody] using awaited

section Start
variable {after : List (Event ι)} {count : Nat} (numbered : p.Numbered) (cleared : p.isRunning = false)
include cleared

private theorem raise_cleared (count : Nat) :
    p.raise count = { p with isRunning := true, starts := p.starts ++ [⟨count, none⟩] } := by
  simp [raise, cleared]

/-- After a start, what has set out for starts and what is still to do so is what was to do so and was asked for. -/
private theorem start_up (ran : p.run? (.start count :: after) = some q) (unstopped : .stop ∉ after)
    (up : ∀ id, .shut id ∉ p.deeds (.start count :: after)) :
    q.isRunning = true ∧ q.owed + (p.deeds (.start count :: after)).countP Deed.isLaunch = p.owed + count := by
  have running : (p.raise count).isRunning = true := by rw [raise_cleared cleared]
  have flag := running_run running unstopped up ran
  refine ⟨flag.running, flag.owed.trans ?_⟩
  rw [raise_cleared cleared]
  simp [owed, Start.due]

include numbered

private theorem start_former (unstopped : .stop ∉ after) (up : ∀ id, .shut id ∉ p.deeds (.start count :: after))
    (id : Nat) (cause : Cause) (final : cause = .lapsed ∨ cause = .shut)
    (left : (id, cause) ∈ exits (p.deeds (.start count :: after))) :
    ∃ worker, p.worker? id = some worker ∧ worker.phase = .leaving cause := by
  have still : (p.raise count).Numbered := numbered_raise numbered count
  have running : (p.raise count).isRunning = true := by rw [raise_cleared cleared]
  obtain ⟨worker, found, leaving⟩ := former_leaves still running unstopped up final left
  rw [raise_cleared cleared] at found
  exact ⟨worker, found, leaving⟩

private theorem start_movers (ran : p.run? (.start count :: after) = some q) (kind : Move → Bool) :
    ∀ id ∈ movers kind after, id ∈ p.ids ∨ p.awaits id = true := by
  intro id member
  have still : (p.raise count).Numbered := numbered_raise numbered count
  have known := movers_run kind still ran id member
  have pending : (p.raise count).pending = p.pending := by simp [raise_cleared cleared, Pool.pending]
  rw [awaits, pending, raise_cleared cleared] at known
  exact known

end Start

/-- **A start counts those who are still there.** A pool that was stopped is started for a number of workers, and
its flag stays up since then. Whoever was there when it was started, and was not about to leave, goes on and is
counted beside the new ones; so the counter and those who work are those of the new start alone only if nobody was
left. -/
theorem a_restart_keeps_who_is_there (tells : Bool) (before after : List (Event ι)) (count : Nat)
    (began : (fresh tells).run? before = some p) (cleared : p.isRunning = false)
    (ran : p.run? (.start count :: after) = some q) (unstopped : .stop ∉ after)
    (up : ∀ id, .shut id ∉ p.deeds (.start count :: after)) :
    Restarted p q count after (p.deeds (.start count :: after)) := by
  have numbered : p.Numbered := numbered_run (numbered_fresh tells) began
  have books := balanced_run (balanced_fresh tells) began
  have booksNow := balanced_run books ran
  have moved := start_movers numbered cleared ran Move.takes
  have former := start_former numbered cleared unstopped up
  obtain ⟨running, owed⟩ := start_up cleared ran unstopped up
  generalize p.deeds (.start count :: after) = deeds at *
  have counted : (q.live + q.owed : Int) = p.live + p.owed + count + timesHandled deeds .spawn -
      timesHandled deeds .stop - timesLeft deeds .collapsed - timesHandled deeds .shutdown -
      timesLeft deeds .lapsed := by
    have balance := books.balance
    have balanceNow := booksNow.balance
    have arrived := arrivals_length deeds
    have departed := departures_length deeds
    simp only [arrivals, departures, exits, List.filterMap_append, List.map_append, List.length_append] at *
    omega
  constructor
  case running => exact running
  case counted => exact counted
  case former => exact former
  case kept =>
    intro worker member staying
    have found : p.worker? worker.id = some worker := worker?_of_mem numbered.nodup member
    refine (stays_or_leaves books booksNow (.inl (worker?_mem_ids found))).imp_right ?_
    rintro ⟨cause, left⟩
    have unforced : cause ≠ .lapsed ∧ cause ≠ .shut := by
      refine not_or.mp fun final => ?_
      obtain ⟨same, alike, leaving⟩ := former worker.id cause final left
      rw [found] at alike
      cases alike
      exact staying cause leaving
    cases cause with
    | stopped => exact .inl left
    | collapsed => exact .inr left
    | lapsed => exact absurd rfl unforced.1
    | shut => exact absurd rfl unforced.2
  case getting => exact moved
  case exact =>
    intro nobody owing settled unharmed
    have none : p.ids = [] := List.length_eq_zero_iff.mp (books.live ▸ nobody)
    have empty : p.workers = [] := List.map_eq_nil_iff.mp none
    -- Nobody was about to leave, so nobody leaves over the flag.
    have unforced : ∀ id cause, (cause = .lapsed ∨ cause = .shut) → (id, cause) ∉ exits deeds := by
      intro id cause final left
      obtain ⟨worker, found, _⟩ := former id cause final left
      simpa [none] using worker?_mem_ids found
    have unlapsed : timesLeft deeds .lapsed = 0 := List.countP_eq_zero.mpr fun exit left final =>
      unforced exit.1 .lapsed (.inl rfl) (of_decide_eq_true final ▸ left)
    have unshut : timesHandled deeds .shutdown = 0 := by
      rw [timesHandled_left deeds (show Cause.shut.message? = some .shutdown from rfl)]
      exact List.countP_eq_zero.mpr fun exit left final =>
        unforced exit.1 .shut (.inr rfl) (of_decide_eq_true final ▸ left)
    refine ⟨by omega, fun id member => ?_⟩
    rcases moved id member with old | awaited
    · rw [none] at old
      cases old
    · exact awaits_new empty owing awaited

/-- Two workers are there when the pool is stopped. One waits, and the other one finds the flag cleared. -/
private def firstRun : List (Event Nat) :=
  [.start 2, .number 0, .launch 0, .number 0, .launch 0, .move 1 .look, .stop, .move 2 .look]

/-- The heart of the first one beats, and it looks at the flag like the new one. The other one leaves. -/
private def secondRun : List (Event Nat) :=
  [.number 1, .launch 1, .move 1 .beat, .move 1 .look, .move 3 .look, .move 2 .leave]

private def stoppedPool : Pool Nat :=
  ⟨false, 2, 3, [.finished], [⟨1, .waiting, false⟩, ⟨2, .leaving .lapsed, false⟩], [], .empty true⟩

private def restartedPool : Pool Nat :=
  ⟨true, 2, 4, [.finished, .finished], [⟨1, .waiting, false⟩, ⟨3, .waiting, false⟩], [], .empty true⟩

theorem an_old_worker_beside_a_new_one :
    stoppedPool.isRunning = false ∧
      Restarted stoppedPool restartedPool 1 secondRun (stoppedPool.deeds (.start 1 :: secondRun)) := by
  refine ⟨rfl, a_restart_keeps_who_is_there true firstRun secondRun 1 rfl rfl rfl (by simp [secondRun]) ?_⟩
  have none : stoppedPool.deeds (.start 1 :: secondRun) = [.numbered 3, .launched 3, .left 2 .lapsed] := rfl
  simp [none]

/-- So a worker of the first start gets a heartbeat after the second one, and when all who are there have looked at
the flag the counter is greater than what was asked for. -/
theorem an_old_worker_outlives_its_start :
    (fresh true).run? firstRun = some stoppedPool ∧ stoppedPool.isRunning = false ∧
      stoppedPool.run? (.start 1 :: secondRun) = some restartedPool ∧
      (∃ id ∈ movers Move.takes secondRun, id < stoppedPool.nextId) ∧
      (∀ id ∈ restartedPool.ids, .move id .look ∈ secondRun) ∧
      ¬(restartedPool.live : Int) = 1 + timesHandled (stoppedPool.deeds (.start 1 :: secondRun)) .spawn -
        timesHandled (stoppedPool.deeds (.start 1 :: secondRun)) .stop :=
  ⟨rfl, rfl, rfl, by decide, by decide, by decide⟩

end Pool
end HostSurvey.Control
