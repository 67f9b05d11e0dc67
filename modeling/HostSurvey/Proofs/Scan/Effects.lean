import HostSurvey.Proofs.Control.Items
import HostSurvey.Proofs.Scan.Planning
import HostSurvey.Proofs.Survey.Storage
import HostSurvey.Scan.Scanner
/-!
# What an event does to a scanner

Of a scanner in the middle of things four parts matter: the tasks that are queued or in the hands of
workers, the request that the dispatcher holds, the marks, and the rows of storage. `Effect` lists what one
event can do to them, and `step_effect` says that there is nothing else. Whatever else an event does, to the
flag, the messages, the feeder or the hosts between the two, is left open.

The order of tasks is of no account: they are known up to a permutation.
-/
namespace HostSurvey.Scan

open Control

/-! ## Events -/

/-- The request that a dispatcher has marked and not queued. -/
def Dispatcher.request? : Dispatcher → Option ScanRequest
  | .sending r => some r
  | _ => none

/-- Whether a dispatcher has nothing in hand, neither a host nor a request. -/
def Dispatcher.isFree : Dispatcher → Bool
  | .off | .looking | .waiting => true
  | _ => false

namespace Scanner

variable {s t : Scanner} {event : Event}

/-- The tasks that are queued or in the hands of workers. -/
def tasks (s : Scanner) : List Task := s.pool.items

/-- The marks without the one of a request. -/
def marksWithout (s : Scanner) (r : ScanRequest) : InFlight :=
  match pairOf r with
  | some pair => s.inFlight.clear pair
  | none => s.inFlight

/-- What one event does to tasks, dispatcher, marks and rows. -/
inductive Effect (s t : Scanner) : Prop where
  | none (store : t.store = s.store) (marks : t.inFlight = s.inFlight)
      (tasks : t.tasks.Perm s.tasks) (dispatcher : t.dispatcher = s.dispatcher)
  /-- The dispatcher has nothing in hand any more. -/
  | frees (store : t.store = s.store) (marks : t.inFlight = s.inFlight)
      (tasks : t.tasks.Perm s.tasks) (free : t.dispatcher.isFree = true)
  /-- The dispatcher takes a host and notes its marks. -/
  | notes (host : Host) (id : RecordId) (named : host.id = some id)
      (store : t.store = s.store) (marks : t.inFlight = s.inFlight) (tasks : t.tasks.Perm s.tasks)
      (dispatcher : t.dispatcher = .reading host id (s.inFlight.ports id))
  /-- Storage tells the dispatcher the rows of its host. -/
  | reads (host : Host) (id : RecordId) (busy : List UInt16) (rows : List Port)
      (was : s.dispatcher = .reading host id busy) (told : s.store.portsOf id = .ok rows)
      (store : t.store = s.store) (marks : t.inFlight = s.inFlight) (tasks : t.tasks.Perm s.tasks)
      (dispatcher : t.dispatcher = .planning host busy (rows.map (·.port)))
  /-- The dispatcher marks a port that is neither noted nor marked nor among the rows it was told. -/
  | plans (host : Host) (id : RecordId) (busy stored : List UInt16) (port : UInt16)
      (was : s.dispatcher = .planning host busy stored) (named : host.id = some id)
      (untried : port ∉ stored ++ busy ++ s.inFlight.ports id)
      (store : t.store = s.store) (marks : t.inFlight = s.inFlight.mark (id, port))
      (tasks : t.tasks.Perm s.tasks) (dispatcher : t.dispatcher = .sending ⟨host, port⟩)
  /-- The dispatcher queues its request. -/
  | queues (r : ScanRequest) (was : s.dispatcher = .sending r)
      (store : t.store = s.store) (marks : t.inFlight = s.inFlight)
      (tasks : t.tasks.Perm (.request r :: s.tasks)) (free : t.dispatcher.isFree = true)
  /-- The dispatcher gives its pair back. -/
  | givesBack (r : ScanRequest) (was : s.dispatcher = .sending r)
      (store : t.store = s.store) (marks : t.inFlight = s.marksWithout r)
      (tasks : t.tasks.Perm s.tasks) (free : t.dispatcher.isFree = true)
  /-- A worker tries the port of its request. -/
  | tries (r : ScanRequest) (outcome : ScanOutcome) (others : List Task)
      (had : s.tasks.Perm (.request r :: others)) (of : outcome.request = r)
      (store : t.store = s.store) (marks : t.inFlight = s.inFlight)
      (tasks : t.tasks.Perm (.outcome r outcome :: others)) (dispatcher : t.dispatcher = s.dispatcher)
  /-- A worker gives an outcome to storage. -/
  | keeps (r : ScanRequest) (outcome : ScanOutcome) (others : List Task)
      (had : s.tasks.Perm (.outcome r outcome :: others))
      (store : t.store = (s.store.addPort outcome).toOption.getD s.store)
      (marks : t.inFlight = s.inFlight) (tasks : t.tasks.Perm (.kept r :: others))
      (dispatcher : t.dispatcher = s.dispatcher)
  /-- A worker clears a mark. -/
  | clears (r : ScanRequest) (others : List Task) (had : s.tasks.Perm (.kept r :: others))
      (store : t.store = s.store) (marks : t.inFlight = s.marksWithout r)
      (tasks : t.tasks.Perm others) (dispatcher : t.dispatcher = s.dispatcher)

/-- What one event does, and that workers keep rising numbers. -/
structure Stepped (s t : Scanner) : Prop where
  /-- What it does to tasks, dispatcher, marks and rows. -/
  effect : Effect s t
  /-- Workers keep rising numbers. -/
  numbered : t.pool.Numbered

theorem task?_found {id : Nat} {worker : Worker Task} {task : Task}
    (found : s.task? id = some (worker, task)) :
    s.pool.worker? worker.id = some worker ∧ worker.phase = .working task := by
  obtain ⟨other, there, busy⟩ := Option.bind_eq_some_iff.mp found
  split at busy
  · rename_i phase
    cases busy
    exact ⟨(Pool.worker?_id there).symm ▸ there, phase⟩
  · cases busy

/-- A worker with a task stays with its number, whatever it does next that is no message. -/
theorem numbered_task {worker : Worker Task} {task : Task} (numbered : s.pool.Numbered)
    (found : s.pool.worker? worker.id = some worker) (working : worker.phase = .working task)
    {phase : Phase Task} (quiet : Worker.number? { worker with phase := phase } = none) :
    (s.pool.put { worker with phase := phase }).Numbered :=
  Pool.numbered_put numbered found rfl (quiet.trans (by simp [Worker.number?, working]))

theorem unmark_marks (s : Scanner) (r : ScanRequest) : (s.unmark r).inFlight = s.marksWithout r := by
  unfold unmark marksWithout
  cases pairOf r <;> rfl

theorem unmark_store (s : Scanner) (r : ScanRequest) : (s.unmark r).store = s.store := by
  unfold unmark
  cases pairOf r <;> rfl

theorem unmark_pool (s : Scanner) (r : ScanRequest) : (s.unmark r).pool = s.pool := by
  unfold unmark
  cases pairOf r <;> rfl

theorem unmark_dispatcher (s : Scanner) (r : ScanRequest) :
    (s.unmark r).dispatcher = s.dispatcher := by
  unfold unmark
  cases pairOf r <;> rfl

/-! ### Workers -/

private theorem move_effect (numbered : s.pool.Numbered) {id : Nat} {move : Move}
    (happened : s.moved? id move = some t) : Stepped s t := by
  unfold moved? at happened
  split at happened
  · cases happened
  · rename_i allowed
    obtain ⟨finishes, collapses⟩ := not_or.mp allowed
    obtain ⟨pool, stepped, rfl⟩ := Option.map_eq_some_iff.mp happened
    obtain ⟨worker, found, moved⟩ := Option.bind_eq_some_iff.mp stepped
    exact ⟨.none rfl rfl (Pool.moved_items numbered.nodup found finishes collapses moved) rfl,
      Pool.numbered_step numbered stepped⟩

private theorem tried_effect (numbered : s.pool.Numbered) {id : Nat} {outcome : ScanOutcome}
    (happened : s.tried? id outcome = some t) : Stepped s t := by
  unfold tried? at happened
  split at happened
  · rename_i worker r held
    split at happened
    · rename_i of
      cases happened
      obtain ⟨found, working⟩ := task?_found held
      obtain ⟨others, had, put, _⟩ := Pool.items_working numbered.nodup found working
      exact ⟨.tries r outcome others had of rfl rfl (put _) rfl,
        numbered_task numbered found working rfl⟩
    · cases happened
  · cases happened

private theorem keep_effect (numbered : s.pool.Numbered) {id : Nat}
    (happened : s.keep? id = some t) : Stepped s t := by
  unfold keep? at happened
  split at happened
  · rename_i worker r outcome held
    cases happened
    obtain ⟨found, working⟩ := task?_found held
    obtain ⟨others, had, put, _⟩ := Pool.items_working numbered.nodup found working
    refine ⟨.keeps r outcome others had ?_ rfl (put _) rfl,
      numbered_task numbered found working rfl⟩
    cases s.store.addPort outcome <;> rfl
  · cases happened

private theorem clear_effect (numbered : s.pool.Numbered) {id : Nat}
    (happened : s.clear? id = some t) : Stepped s t := by
  unfold clear? at happened
  split at happened
  · rename_i worker r held
    obtain ⟨found, working⟩ := task?_found held
    obtain ⟨others, had, _, done⟩ := Pool.items_working numbered.nodup found working
    simp only [Pool.moved?, working, Option.map_some, Option.some.injEq] at happened
    subst happened
    exact ⟨.clears r others had (unmark_store s r) (unmark_marks s r) done (unmark_dispatcher s r),
      numbered_task numbered found working rfl⟩
  · cases happened

/-! ### The dispatcher -/

private theorem takeHost_effect (numbered : s.pool.Numbered) (happened : s.takeHost? = some t) :
    Stepped s t := by
  unfold takeHost? at happened
  split at happened
  · rename_i host more _ _
    split at happened
    · cases happened
      exact ⟨.frees rfl rfl (.refl _) rfl, numbered⟩
    · rename_i id named
      cases happened
      exact ⟨.notes host id named rfl rfl (.refl _) rfl, numbered⟩
  · split at happened
    · cases happened
      exact ⟨.frees rfl rfl (.refl _) rfl, numbered⟩
    · cases happened
  · cases happened

private theorem read_effect (numbered : s.pool.Numbered) (happened : s.read? = some t) :
    Stepped s t := by
  unfold read? at happened
  split at happened
  · rename_i host id busy was
    split at happened
    · rename_i rows told
      cases happened
      exact ⟨.reads host id busy rows was told rfl rfl (.refl _) rfl, numbered⟩
    · cases happened
      exact ⟨.frees rfl rfl (.refl _) rfl, numbered⟩
  · cases happened

private theorem plan_effect (numbered : s.pool.Numbered) {order : List UInt16}
    (happened : s.plan? order = some t) : Stepped s t := by
  unfold plan? at happened
  split at happened
  · rename_i host busy stored was
    cases chosen : plan order host stored busy s.inFlight with
    | mk planned marked =>
      rw [chosen] at happened
      cases planned with
      | none =>
        cases happened
        exact ⟨.frees rfl (plan_nothing chosen) (.refl _) rfl, numbered⟩
      | some port =>
        cases happened
        obtain ⟨id, named, untried, marks⟩ := plan_chosen chosen
        exact ⟨.plans host id busy stored port was named untried rfl marks (.refl _) rfl, numbered⟩
  · cases happened

private theorem queue_effect (numbered : s.pool.Numbered) (happened : s.queue? = some t) :
    Stepped s t := by
  unfold queue? at happened
  split at happened
  · rename_i r was
    split at happened
    · cases happened
      rcases Pool.items_offer s.pool (.request r) with same | more
      · exact ⟨.frees rfl rfl (.of_eq same) rfl, Pool.numbered_same numbered rfl rfl rfl⟩
      · exact ⟨.queues r was rfl rfl more rfl, Pool.numbered_same numbered rfl rfl rfl⟩
    · cases happened
  · cases happened

private theorem giveBack_effect (numbered : s.pool.Numbered) (happened : s.giveBack? = some t) :
    Stepped s t := by
  unfold giveBack? at happened
  split at happened
  · rename_i r was
    split at happened
    · cases happened
    · cases happened
      exact ⟨.givesBack r was (unmark_store s r) (unmark_marks s r)
        (.of_eq (by simp only [tasks, unmark_pool])) rfl, (unmark_pool s r).symm ▸ numbered⟩
  · cases happened

/-! ### The rest -/

private theorem start_effect (numbered : s.pool.Numbered) (count : Nat) :
    Stepped s (s.start count).2 := by
  have kept := Pool.items_start s.pool count
  have risen := Pool.numbered_start numbered count
  unfold start
  cases started : s.pool.start count with
  | mk yes pool =>
    rw [started] at kept risen
    cases yes with
    | true => exact ⟨.frees rfl rfl (.of_eq kept) rfl, risen⟩
    | false => exact ⟨.none rfl rfl (.refl _) rfl, numbered⟩

/-- What the feeder does is nothing to anybody else. -/
private theorem feeder_effect (numbered : s.pool.Numbered) (store : t.store = s.store)
    (marks : t.inFlight = s.inFlight) (pool : t.pool = s.pool)
    (dispatcher : t.dispatcher = s.dispatcher) : Stepped s t :=
  ⟨.none store marks (.of_eq (by simp only [tasks, pool])) dispatcher, pool ▸ numbered⟩

/-- Every event has one of the effects. -/
theorem step_effect (numbered : s.pool.Numbered) (happened : s.step? event = some t) :
    Stepped s t := by
  cases event with
  | start count =>
    cases happened
    exact start_effect numbered count
  | stop =>
    cases happened
    exact ⟨.frees rfl rfl (.refl _) rfl, Pool.numbered_same numbered rfl rfl rfl⟩
  | clearFlag =>
    cases happened
    exact ⟨.none rfl rfl (.refl _) rfl, Pool.numbered_same numbered rfl rfl rfl⟩
  | send message =>
    obtain ⟨pool, sent, rfl⟩ := Option.map_eq_some_iff.mp happened
    unfold Pool.send? at sent
    split at sent
    · cases sent
      exact ⟨.none rfl rfl (.refl _) rfl, Pool.numbered_same numbered rfl rfl rfl⟩
    · cases sent
  | move id move => exact move_effect numbered happened
  | tried id outcome => exact tried_effect numbered happened
  | keep id => exact keep_effect numbered happened
  | clear id => exact clear_effect numbered happened
  | draw shuffle =>
    simp only [step?, draw?] at happened
    split at happened
    · split at happened
      · split at happened <;> cases happened <;> exact feeder_effect numbered rfl rfl rfl rfl
      · cases happened
        exact feeder_effect numbered rfl rfl rfl rfl
    · cases happened
  | feed =>
    simp only [step?, feed?] at happened
    split at happened
    · cases happened
      exact feeder_effect numbered rfl rfl rfl rfl
    · split at happened
      · cases happened
        exact feeder_effect numbered rfl rfl rfl rfl
      · split at happened
        · cases happened
          exact feeder_effect numbered rfl rfl rfl rfl
        · cases happened
    · cases happened
  | feedNoMore =>
    simp only [step?, feedNoMore?] at happened
    split at happened
    · split at happened
      · cases happened
      · cases happened
        exact feeder_effect numbered rfl rfl rfl rfl
    · cases happened
  | look =>
    simp only [step?, look?] at happened
    split at happened
    · cases happened
      exact ⟨.frees rfl rfl (.refl _) (by simp only; split <;> rfl), numbered⟩
    · cases happened
  | takeHost => exact takeHost_effect numbered happened
  | lapse =>
    simp only [step?, lapse?] at happened
    split at happened
    · cases happened
      exact ⟨.frees rfl rfl (.refl _) rfl, numbered⟩
    · cases happened
  | read => exact read_effect numbered happened
  | plan order => exact plan_effect numbered happened
  | queue => exact queue_effect numbered happened
  | giveBack => exact giveBack_effect numbered happened

end Scanner
end HostSurvey.Scan
