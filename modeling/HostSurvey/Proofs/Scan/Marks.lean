import HostSurvey.Proofs.Scan.AtMostOnce
/-!
# Whose marks there are

A pair is marked as soon as its port is planned, well before there is room for the request. The mark is
cleared by the worker that is done with the request, or by the dispatcher that cannot get rid of it and gives
the pair back. A dispatcher that is itself given up gives nothing back: its request is abandoned.

1. `Fate` lists what an event does to the request that the dispatcher holds. Only a stop, and a start of a
   scanner that does not run, abandon one (`abandons?`).
2. `Accounted` is the invariant: the marks are those of the requests under way and of the abandoned ones, each
   of them once. It needs nothing of storage, which may have any rows and refuse any call.
3. So a mark without a request under way is that of an abandoned one, and there are as many of these as were
   abandoned (`marks_are_accounted_for`). Such a mark is there for ever, and its port is never tried
   (`a_mark_outlives_its_request`).
-/
namespace HostSurvey.Scan

open Control

/-! ## Marks as a list -/

section Marks
variable {flight : InFlight} {pair : RecordId × UInt16} {pairs : List (Option (RecordId × UInt16))}

theorem InFlight.nodup_mark (distinct : flight.Nodup) (unmarked : pair ∉ flight) :
    (flight.mark pair).Nodup := by
  rw [mark_new unmarked]
  refine List.nodup_append.mpr ⟨distinct, List.nodup_singleton _, ?_⟩
  intro old member new found same
  rw [List.mem_singleton.mp found] at same
  exact unmarked (same ▸ member)

/-- A new mark comes to those of some requests. -/
theorem marks_mark (tally : pairs.Perm (flight.map some)) (unmarked : pair ∉ flight) :
    (some pair :: pairs).Perm ((flight.mark pair).map some) := by
  rw [InFlight.mark_new unmarked, List.map_append, List.map_cons, List.map_nil]
  exact (tally.cons _).trans (List.perm_append_singleton _ _).symm

/-- A mark that is cleared leaves those of the other requests. -/
theorem marks_clear (tally : (some pair :: pairs).Perm (flight.map some)) (distinct : flight.Nodup) :
    pairs.Perm ((flight.clear pair).map some) := by
  have once : (some pair :: pairs).Nodup :=
    tally.nodup_iff.mpr (distinct.map fun _ _ same => Option.some.inj same)
  have kept : pairs.filter (· ≠ some pair) = pairs := by
    refine List.filter_eq_self.mpr fun other member => ?_
    simpa using fun same : other = some pair => (List.nodup_cons.mp once).1 (same ▸ member)
  have cleared : (flight.map some).filter (· ≠ some pair) = (flight.clear pair).map some := by
    simp [InFlight.clear, List.filter_map, Function.comp_def]
  have filtered := tally.filter (· ≠ some pair)
  rw [cleared, List.filter_cons_of_neg (by simp), kept] at filtered
  exact filtered

end Marks

namespace Scanner

variable {s t : Scanner} {event : Event} {events : List Event} {lost : List ScanRequest}

/-! ## What becomes of the request that the dispatcher holds -/

/-- The request that is given up together with its dispatcher. -/
def abandons? (s : Scanner) : Event → Option ScanRequest
  | .stop => s.dispatcher.request?
  | .start _ => if s.pool.isRunning then none else s.dispatcher.request?
  | _ => none

/-- The requests that are given up in a list of events, the first one first. -/
def abandoned (s : Scanner) : List Event → List ScanRequest
  | [] => []
  | event :: rest =>
    (s.abandons? event).toList ++ ((s.step? event).map fun t => t.abandoned rest).getD []

/-- What an event does to the request that the dispatcher holds. -/
inductive Fate (s t : Scanner) (event : Event) : Prop where
  /-- The dispatcher holds what it held, which may be nothing. -/
  | kept (same : t.dispatcher.request? = s.dispatcher.request?) (none : s.abandons? event = none)
  /-- It has planned a port, and marked it. -/
  | planned (r : ScanRequest) (pair : RecordId × UInt16) (idle : s.dispatcher.request? = none)
      (holds : t.dispatcher = .sending r) (named : pairOf r = some pair) (unmarked : pair ∉ s.inFlight)
      (tasks : t.tasks = s.tasks) (marks : t.inFlight = s.inFlight.mark pair)
      (none : s.abandons? event = none)
  /-- The request is queued. -/
  | queued (r : ScanRequest) (was : s.dispatcher = .sending r) (free : t.dispatcher.request? = none)
      (tasks : t.tasks.Perm (.request r :: s.tasks)) (marks : t.inFlight = s.inFlight)
      (none : s.abandons? event = none)
  /-- The pair is given back. -/
  | returned (r : ScanRequest) (was : s.dispatcher = .sending r) (free : t.dispatcher.request? = none)
      (tasks : t.tasks = s.tasks) (marks : t.inFlight = s.marksWithout r)
      (none : s.abandons? event = none)
  /-- The dispatcher is given up, with the request if it holds one. -/
  | abandoned (gone : s.abandons? event = s.dispatcher.request?) (free : t.dispatcher.request? = none)
      (tasks : t.tasks = s.tasks) (marks : t.inFlight = s.inFlight)


private theorem plan_fate {order : List UInt16} (happened : s.plan? order = some t) :
    Fate s t (.plan order) ∧ t.pool = s.pool := by
  unfold plan? at happened
  split at happened
  · rename_i host busy stored was
    have idle : s.dispatcher.request? = none := by rw [was]; rfl
    split at happened
    · cases happened
      exact ⟨.kept idle.symm rfl, rfl⟩
    · rename_i port marked chosen
      cases happened
      obtain ⟨id, named, untried, marks⟩ := plan_chosen chosen
      have unmarked : (id, port) ∉ s.inFlight := fun held =>
        untried (List.mem_append_right _ (InFlight.mem_ports.mpr held))
      exact ⟨.planned ⟨host, port⟩ (id, port) idle rfl (pairOf_eq_some.mpr ⟨named, rfl⟩) unmarked rfl marks
        rfl, rfl⟩
  · cases happened

/-- What is queued waits, as long as the queue takes requests. -/
private theorem queue_fate (takes : s.pool.source.isOpen = true) (happened : s.queue? = some t) :
    Fate s t .queue ∧ t.pool.source.isOpen = true := by
  unfold queue? at happened
  split at happened
  · rename_i r was
    split at happened
    · cases happened
      have offered : (s.pool.offer (.request r)).source =
          { s.pool.source with items := s.pool.source.items ++ [.request r] } := by
        simp [Pool.offer, Source.offer, takes]
      refine ⟨.queued r was rfl ?_ rfl rfl, (congrArg Source.isOpen offered).trans takes⟩
      show (_ ++ s.pool.hands).Perm (Task.request r :: (s.pool.source.items ++ s.pool.hands))
      rw [offered, List.append_assoc]
      exact List.perm_middle
    · cases happened
  · cases happened

private theorem giveBack_fate (happened : s.giveBack? = some t) :
    Fate s t .giveBack ∧ t.pool = s.pool := by
  unfold giveBack? at happened
  split at happened
  · rename_i r was
    split at happened
    · cases happened
    · cases happened
      have same := unmark_pool s r
      exact ⟨.returned r was rfl (congrArg Pool.items same) (unmark_marks s r) rfl, same⟩
  · cases happened

private theorem start_fate (s : Scanner) (count : Nat) :
    Fate s (s.start count).2 (.start count) ∧
      (s.start count).2.pool.source.isOpen = s.pool.source.isOpen := by
  have items := Pool.items_start s.pool count
  have isOpen := Pool.start_isOpen s.pool count
  have decided : (s.pool.start count).1 = !s.pool.isRunning := by
    unfold Pool.start
    split
    · rename_i running
      rw [running]
      rfl
    · rename_i stopped
      rw [eq_false_of_ne_true stopped]
      rfl
  unfold start
  cases started : s.pool.start count with
  | mk yes pool =>
    rw [started] at items isOpen decided
    cases running : s.pool.isRunning with
    | true =>
      rw [running] at decided
      cases decided
      exact ⟨.kept rfl (by simp [abandons?, running]), rfl⟩
    | false =>
      rw [running] at decided
      cases decided
      exact ⟨.abandoned (by simp [abandons?, running]) rfl items rfl, isOpen⟩

/-- A dispatcher that goes on without a request had none. -/
private theorem idle_fate (idle : s.dispatcher.request? = none) (still : t.dispatcher.request? = none)
    (none : s.abandons? event = none) : Fate s t event :=
  .kept (still.trans idle.symm) none

/-- Every event has one of the fates for what the dispatcher holds. None ends the queue. -/
theorem step_fate (takes : s.pool.source.isOpen = true) (happened : s.step? event = some t) :
    Fate s t event ∧ t.pool.source.isOpen = true := by
  cases event with
  | start count =>
    cases happened
    exact (start_fate s count).imp_right fun same => same.trans takes
  | stop =>
    cases happened
    exact ⟨.abandoned rfl rfl rfl rfl, takes⟩
  | clearFlag =>
    cases happened
    exact ⟨.kept rfl rfl, takes⟩
  | send message =>
    obtain ⟨pool, sent, rfl⟩ := Option.map_eq_some_iff.mp happened
    unfold Pool.send? at sent
    split at sent <;> cases sent
    exact ⟨.kept rfl rfl, takes⟩
  | move id move =>
    simp only [step?, moved?] at happened
    split at happened
    · cases happened
    · obtain ⟨pool, stepped, rfl⟩ := Option.map_eq_some_iff.mp happened
      obtain ⟨worker, _, moved⟩ := Option.bind_eq_some_iff.mp stepped
      exact ⟨.kept rfl rfl, (Pool.moved_isOpen moved).trans takes⟩
  | tried id outcome =>
    simp only [step?, tried?] at happened
    split at happened
    · split at happened <;> cases happened
      exact ⟨.kept rfl rfl, takes⟩
    · cases happened
  | keep id =>
    simp only [step?, keep?] at happened
    split at happened <;> cases happened
    exact ⟨.kept rfl rfl, takes⟩
  | clear id =>
    simp only [step?, clear?] at happened
    split at happened
    · obtain ⟨pool, moved, rfl⟩ := Option.map_eq_some_iff.mp happened
      exact ⟨.kept (congrArg Dispatcher.request? (unmark_dispatcher s _)) rfl,
        (Pool.moved_isOpen moved).trans takes⟩
    · cases happened
  | draw shuffle =>
    simp only [step?, draw?] at happened
    split at happened
    · split at happened
      · split at happened <;> cases happened <;> exact ⟨.kept rfl rfl, takes⟩
      · cases happened
        exact ⟨.kept rfl rfl, takes⟩
    · cases happened
  | feed =>
    simp only [step?, feed?] at happened
    split at happened
    · cases happened
      exact ⟨.kept rfl rfl, takes⟩
    · split at happened
      · cases happened
        exact ⟨.kept rfl rfl, takes⟩
      · split at happened <;> cases happened
        exact ⟨.kept rfl rfl, takes⟩
    · cases happened
  | feedNoMore =>
    simp only [step?, feedNoMore?] at happened
    split at happened
    · split at happened <;> cases happened
      exact ⟨.kept rfl rfl, takes⟩
    · cases happened
  | look =>
    simp only [step?, look?] at happened
    split at happened
    · rename_i was
      cases happened
      refine ⟨idle_fate (by rw [was]; rfl) ?_ rfl, takes⟩
      simp only
      split <;> rfl
    · cases happened
  | takeHost =>
    simp only [step?, takeHost?] at happened
    split at happened
    · rename_i was _
      split at happened <;> cases happened <;> exact ⟨idle_fate (by rw [was]; rfl) rfl rfl, takes⟩
    · rename_i was _
      split at happened <;> cases happened
      exact ⟨idle_fate (by rw [was]; rfl) rfl rfl, takes⟩
    · cases happened
  | lapse =>
    simp only [step?, lapse?] at happened
    split at happened
    · rename_i was
      cases happened
      exact ⟨idle_fate (by rw [was]; rfl) rfl rfl, takes⟩
    · cases happened
  | read =>
    simp only [step?, read?] at happened
    split at happened
    · rename_i was
      split at happened <;> cases happened <;> exact ⟨idle_fate (by rw [was]; rfl) rfl rfl, takes⟩
    · cases happened
  | plan order =>
    obtain ⟨fate, same⟩ := plan_fate happened
    exact ⟨fate, same ▸ takes⟩
  | queue => exact queue_fate takes happened
  | giveBack =>
    obtain ⟨fate, same⟩ := giveBack_fate happened
    exact ⟨fate, same ▸ takes⟩

/-! ## The accounts -/

/-- The marks of a scanner are those of the requests under way and of some that are lost, each once. -/
structure Accounted (s : Scanner) (lost : List ScanRequest) : Prop where
  /-- Workers have rising numbers. -/
  numbered : s.pool.Numbered
  /-- The queue takes requests. -/
  takes : s.pool.source.isOpen = true
  distinct : s.inFlight.Nodup
  tally : (s.work.map Task.pair? ++ lost.map pairOf).Perm (s.inFlight.map some)

theorem accounted_fresh (batch room : Nat) (store : Store) : Accounted (fresh batch room store) [] :=
  ⟨Pool.numbered_fresh false, rfl, List.nodup_nil, .refl _⟩

private theorem request_free {dispatcher : Dispatcher} (free : dispatcher.isFree = true) :
    dispatcher.request? = none := by
  cases dispatcher with
  | sending r => cases free
  | _ => rfl

private theorem work_same (same : t.dispatcher.request? = s.dispatcher.request?)
    (tasks : t.tasks.Perm s.tasks) : t.work.Perm s.work := by
  unfold work
  rw [same]
  exact tasks.append_left _

/-- A request that is done with, or given back, takes its mark with it. -/
private theorem tally_clear {r : ScanRequest} {pairs : List (Option (RecordId × UInt16))}
    (tally : (pairOf r :: pairs).Perm (s.inFlight.map some)) (distinct : s.inFlight.Nodup) :
    pairs.Perm ((s.marksWithout r).map some) ∧ (s.marksWithout r).Nodup := by
  obtain ⟨pair, _, named⟩ := List.mem_map.mp (tally.mem_iff.mp List.mem_cons_self)
  rw [← named] at tally
  rw [marksWithout_eq named.symm]
  exact ⟨marks_clear tally distinct, distinct.filter _⟩

/-- What an event does to the marks, if the dispatcher goes on with what it holds. -/
private theorem tally_kept (accounted : Accounted s lost)
    (same : t.dispatcher.request? = s.dispatcher.request?) (effect : Effect s t) :
    t.inFlight.Nodup ∧ (t.work.map Task.pair? ++ lost.map pairOf).Perm (t.inFlight.map some) := by
  have distinct := accounted.distinct
  have tally := accounted.tally
  have goesOn : t.inFlight = s.inFlight → (t.work.map Task.pair?).Perm (s.work.map Task.pair?) →
      t.inFlight.Nodup ∧ (t.work.map Task.pair? ++ lost.map pairOf).Perm (t.inFlight.map some) := by
    intro marks pairs
    rw [marks]
    exact ⟨distinct, (pairs.append_right _).trans tally⟩
  cases effect with
  | none _ marks tasks _ => exact goesOn marks ((work_same same tasks).map _)
  | frees _ marks tasks _ => exact goesOn marks ((work_same same tasks).map _)
  | notes _ _ _ _ marks tasks _ => exact goesOn marks ((work_same same tasks).map _)
  | reads _ _ _ _ _ _ _ marks tasks _ => exact goesOn marks ((work_same same tasks).map _)
  | plans _ _ _ _ _ was _ _ _ _ _ dispatcher =>
    rw [was, dispatcher] at same
    cases same
  | queues r was _ _ _ free =>
    rw [was, request_free free] at same
    cases same
  | givesBack r was _ _ _ free =>
    rw [was, request_free free] at same
    cases same
  | tries r outcome others had _ _ marks tasks dispatcher =>
    obtain ⟨rest, before, after⟩ := work_replaced had tasks dispatcher
    exact goesOn marks ((after.map Task.pair?).trans (before.map Task.pair?).symm)
  | keeps r outcome others had _ marks tasks dispatcher =>
    obtain ⟨rest, before, after⟩ := work_replaced had tasks dispatcher
    exact goesOn marks ((after.map Task.pair?).trans (before.map Task.pair?).symm)
  | clears r others had _ marks tasks dispatcher =>
    have removed := (work_removed had tasks dispatcher).map Task.pair?
    have all := ((removed.append_right (lost.map pairOf)).symm.trans tally)
    rw [marks]
    exact (tally_clear all distinct).symm

private theorem work_idle (idle : s.dispatcher.request? = none) : s.work = s.tasks := by
  unfold work
  rw [idle]
  rfl

/-- Every event keeps the accounts, and puts into them what it abandons. -/
theorem accounted_step (accounted : Accounted s lost) (happened : s.step? event = some t) :
    Accounted t (lost ++ (s.abandons? event).toList) := by
  obtain ⟨effect, numbered⟩ := step_effect accounted.numbered happened
  obtain ⟨fate, takes⟩ := step_fate accounted.takes happened
  have distinct := accounted.distinct
  have tally := accounted.tally
  cases fate with
  | kept same none =>
    obtain ⟨stillDistinct, stillTally⟩ := tally_kept accounted same effect
    rw [none, Option.toList_none, List.append_nil]
    exact ⟨numbered, takes, stillDistinct, stillTally⟩
  | planned r pair idle holds named unmarked tasks marks none =>
    rw [work_idle idle] at tally
    rw [none, Option.toList_none, List.append_nil]
    refine ⟨numbered, takes, marks ▸ InFlight.nodup_mark distinct unmarked, ?_⟩
    have more := marks_mark tally unmarked
    rwa [marks, work_sending holds, tasks, List.map_cons, List.cons_append,
      show Task.pair? (.request r) = some pair from named]
  | queued r was free tasks marks none =>
    rw [work_sending was] at tally
    rw [none, Option.toList_none, List.append_nil]
    refine ⟨numbered, takes, marks ▸ distinct, ?_⟩
    rw [work_idle free, marks]
    exact ((tasks.map _).append_right _).trans tally
  | returned r was free tasks marks none =>
    rw [work_sending was] at tally
    obtain ⟨rest, still⟩ := tally_clear tally distinct
    rw [none, Option.toList_none, List.append_nil]
    refine ⟨numbered, takes, marks ▸ still, ?_⟩
    rwa [work_idle free, tasks, marks]
  | abandoned gone free tasks marks =>
    refine ⟨numbered, takes, marks ▸ distinct, ?_⟩
    rw [gone, work_idle free, tasks, marks, List.map_append]
    -- What the dispatcher held changes sides.
    refine List.Perm.trans ?_ tally
    unfold work
    cases s.dispatcher.request? with
    | none => simp
    | some r =>
      show (s.tasks.map Task.pair? ++ (lost.map pairOf ++ [pairOf r])).Perm
        (pairOf r :: (s.tasks.map Task.pair? ++ lost.map pairOf))
      rw [← List.append_assoc]
      exact List.perm_append_singleton _ _

theorem accounted_run (accounted : Accounted s lost) (ran : s.run? events = some t) :
    Accounted t (lost ++ s.abandoned events) := by
  induction events generalizing s lost with
  | nil =>
    cases ran
    rwa [abandoned, List.append_nil]
  | cons event rest ih =>
    obtain ⟨next, stepped, onward⟩ := Option.bind_eq_some_iff.mp ran
    have after := ih (accounted_step accounted stepped) onward
    rwa [abandoned, stepped, ← List.append_assoc]

/-! ## The main theorem -/

/-- What is true of the marks of a scanner `s` that some events have made out of `start`. -/
structure MarksAccountedFor (start : Scanner) (events : List Event) (s : Scanner) : Prop where
  /-- No pair is marked twice. -/
  distinct : s.inFlight.Nodup
  /-- The marks are those of the requests under way and of the abandoned ones. -/
  tally : (s.work.map Task.pair? ++ (start.abandoned events).map pairOf).Perm (s.inFlight.map some)
  /-- So there are as many. -/
  count : s.inFlight.length = s.work.length + (start.abandoned events).length
  /-- If none was abandoned, every mark belongs to a request under way. -/
  owned : start.abandoned events = [] → ∀ pair ∈ s.inFlight, ∃ task ∈ s.work, task.pair? = some pair
  /-- Then there are no marks when there is no request, and every port without a row can still be planned: it
  is, where chance puts it first and no hint goes before it. -/
  free : start.abandoned events = [] → s.work = [] → s.inFlight = [] ∧
    ∀ host id rows port order, host.id = some id → s.store.portsOf id = .ok rows →
      port ∉ rows.map (·.port) →
        (plan (port :: order) host (rows.map (·.port)) (s.inFlight.ports id) s.inFlight).1 =
          (hinted host (rows.map (·.port)) <|> some port)
  /-- The pair of an abandoned request stays marked whatever happens later, and there is never a request for
  it again. -/
  stuck : ∀ later t, s.run? later = some t → ∀ r ∈ start.abandoned events,
    ∃ pair ∈ t.inFlight, pairOf r = some pair ∧ ∀ task ∈ t.work, task.pair? ≠ some pair

/-- A lost request: its pair is marked, and no request under way is of the same pair. -/
private theorem lost_alone (accounted : Accounted s lost) {r : ScanRequest} (member : r ∈ lost) :
    ∃ pair ∈ s.inFlight, pairOf r = some pair ∧ ∀ task ∈ s.work, task.pair? ≠ some pair := by
  have distinct : (s.work.map Task.pair? ++ lost.map pairOf).Nodup :=
    accounted.tally.nodup_iff.mpr (accounted.distinct.map fun _ _ same => Option.some.inj same)
  have own : pairOf r ∈ lost.map pairOf := List.mem_map_of_mem member
  obtain ⟨pair, marked, named⟩ :=
    List.mem_map.mp (accounted.tally.mem_iff.mp (List.mem_append_right _ own))
  refine ⟨pair, marked, named.symm, ?_⟩
  intro task inside same
  rw [← named] at own
  exact (List.nodup_append.mp distinct).2.2 _ (List.mem_map_of_mem inside) _ own same

/-- **Marks are accounted for.** Take a scanner with any storage and any events in any order: starts and stops,
messages, and what feeder, dispatcher and workers do, wherever a dispatcher is given up. The marks are those
of the requests that the dispatcher holds, that are queued or that workers have, and those of the requests
that were abandoned with their dispatchers, each once. So only an abandoned request leaves a mark behind. This
mark is there for ever, and its port is never tried again. -/
theorem marks_are_accounted_for (batch room : Nat) (store : Store) (events : List Event) (s : Scanner)
    (ran : (fresh batch room store).run? events = some s) :
    MarksAccountedFor (fresh batch room store) events s := by
  have accounted : Accounted s ((fresh batch room store).abandoned events) :=
    accounted_run (accounted_fresh batch room store) ran
  have owned : (fresh batch room store).abandoned events = [] →
      ∀ pair ∈ s.inFlight, ∃ task ∈ s.work, task.pair? = some pair := by
    intro none pair marked
    have inside := accounted.tally.mem_iff.mpr (List.mem_map_of_mem marked)
    rw [none, List.map_nil, List.append_nil] at inside
    exact List.mem_map.mp inside
  refine ⟨accounted.distinct, accounted.tally, ?_, owned, ?_, ?_⟩
  · simpa using accounted.tally.length_eq.symm
  · intro none quiet
    have empty : s.inFlight = [] := by
      refine List.eq_nil_iff_forall_not_mem.mpr fun pair marked => ?_
      obtain ⟨task, member, _⟩ := owned none pair marked
      rw [quiet] at member
      cases member
    refine ⟨empty, ?_⟩
    intro host id rows port order named _ untried
    have tried : rows.map (·.port) ++ s.inFlight.ports id ++ s.inFlight.ports id = rows.map (·.port) := by
      simp [empty, InFlight.ports]
    unfold plan
    simp only [named, tried, select_first untried]
    cases hinted host (rows.map (·.port)) <;> rfl
  · intro later t onward r member
    exact lost_alone (accounted_run accounted onward) (List.mem_append_left _ member)

private def plainHost : Host := ⟨some 1, .v4 2134704140, "a.", .user, ⟨0, 0⟩⟩

private def plainHosts : Store := ⟨[plainHost], [], [], 1, []⟩

/-- Nobody takes requests, and there is room for one. The dispatcher holds a second one when the scanner is
stopped. -/
private def stopped : List Event :=
  [.start 0, .draw id, .feed, .look, .takeHost, .read, .plan [21], .queue,
    .draw id, .feed, .look, .takeHost, .read, .plan [22], .stop]

/-- After the stop one request is queued, and two pairs are marked. -/
theorem marks_of_a_stopped_scanner : ∃ s, (fresh 4 1 plainHosts).run? stopped = some s ∧
    MarksAccountedFor (fresh 4 1 plainHosts) stopped s ∧ s.work = [.request ⟨plainHost, 21⟩] ∧
    (fresh 4 1 plainHosts).abandoned stopped = [⟨plainHost, 22⟩] ∧ s.inFlight = [(1, 21), (1, 22)] :=
  ⟨_, rfl, marks_are_accounted_for 4 1 plainHosts stopped _ rfl, rfl, rfl, rfl⟩

/-- A worker that is started afterwards deals with the request that was queued. Nobody has a request any more,
no storage call has failed, and a pair is marked. -/
theorem a_mark_outlives_its_request : ∃ s, (fresh 4 1 plainHosts).run? (stopped ++
    [.start 1, .move 1 .look, .move 1 .take, .tried 1 ⟨plainHost, 21, none, ⟨0, 0⟩, none⟩, .keep 1, .clear 1]) =
      some s ∧ s.store.faults = [] ∧ s.work = [] ∧ s.inFlight = [(1, 22)] ∧ (1, 22) ∉ s.store.pairs :=
  ⟨_, rfl, rfl, rfl, rfl, by decide⟩

end Scanner
end HostSurvey.Scan
