import HostSurvey.Proofs.Scan.Effects
/-!
# No port is tried twice

A scanner whose storage refuses nothing tries a port of a host at most once, in any order of events, however
often hosts are fed and wherever a dispatcher is given up.

1. A request under way is a task, or it is held by the dispatcher; a request that is held counts as one
   that has to be tried. `Orderly` says that the pairs of requests under way are all marked and all
   different, and that storage has rows for just those whose outcome was kept.
2. What the dispatcher knows may be stale. `Dispatcher.Covers` says in which direction: marks were noted
   before storage was asked, and only the dispatcher adds marks, so whatever has come to storage since was
   noted or told.
3. `Secured` pairs stay so: a mark is cleared only after its row was kept, but for the one that the
   dispatcher itself gives back.
-/
namespace HostSurvey.Scan

open Control

theorem pairOf_eq_some {r : ScanRequest} {pair : RecordId × UInt16} :
    pairOf r = some pair ↔ r.host.id = some pair.1 ∧ r.port = pair.2 := by
  obtain ⟨id, port⟩ := pair
  simp [pairOf, Option.map_eq_some_iff]

/-- The pair of a task. -/
def Task.pair? (task : Task) : Option (RecordId × UInt16) := pairOf task.scanRequest

/-- How far a task is, according to the pairs that storage has rows for. -/
def Task.Fits (pairs : List (RecordId × UInt16)) : Task → Prop
  | .request r => ∀ pair, pairOf r = some pair → pair ∉ pairs
  | .outcome r found => found.request = r ∧ ∀ pair, pairOf r = some pair → pair ∉ pairs
  | .kept r => ∀ pair, pairOf r = some pair → pair ∈ pairs

/-- Rows for other pairs do not matter to a task. -/
private theorem fits_other {pairs : List (RecordId × UInt16)} {task : Task} (fits : task.Fits pairs)
    {pair : RecordId × UInt16} (other : task.pair? ≠ some pair) : task.Fits (pairs ++ [pair]) := by
  have different : ∀ mine, pairOf task.scanRequest = some mine → mine ≠ pair := by
    rintro mine named rfl
    exact other named
  cases task with
  | request r =>
    intro mine named member
    rcases List.mem_append.mp member with old | new
    · exact fits mine named old
    · exact different mine named (List.mem_singleton.mp new)
  | outcome r outcome =>
    refine ⟨fits.1, ?_⟩
    intro mine named member
    rcases List.mem_append.mp member with old | new
    · exact fits.2 mine named old
    · exact different mine named (List.mem_singleton.mp new)
  | kept r => exact fun mine named => List.mem_append_left _ (fits mine named)

/-! ## Requests under way -/

/-- Requests under way, marks and rows go together. -/
structure Orderly (work : List Task) (flight : InFlight) (pairs : List (RecordId × UInt16)) : Prop where
  /-- No pair has two rows. -/
  rows : pairs.Nodup
  /-- No two requests are of one pair. -/
  apart : (work.map Task.pair?).Nodup
  /-- Every request is of a pair that is marked. -/
  marked : ∀ task ∈ work, ∃ pair ∈ flight, task.pair? = some pair
  /-- There is a row if and only if the outcome was kept. -/
  fits : ∀ task ∈ work, task.Fits pairs

section Orderly
variable {work others : List Task} {flight : InFlight} {pairs : List (RecordId × UInt16)}
  {pair : RecordId × UInt16} {r : ScanRequest}

theorem orderly_perm (orderly : Orderly work flight pairs) (same : others.Perm work) :
    Orderly others flight pairs where
  rows := orderly.rows
  apart := (same.map _).nodup_iff.mpr orderly.apart
  marked task member := orderly.marked task (same.mem_iff.mp member)
  fits task member := orderly.fits task (same.mem_iff.mp member)

theorem orderly_sublist (orderly : Orderly work flight pairs) (fewer : others.Sublist work) :
    Orderly others flight pairs where
  rows := orderly.rows
  apart := orderly.apart.sublist (fewer.map _)
  marked task member := orderly.marked task (fewer.subset member)
  fits task member := orderly.fits task (fewer.subset member)

/-- A new request for a pair that is neither marked nor in storage. -/
theorem orderly_plans (orderly : Orderly work flight pairs) (named : pairOf r = some pair)
    (unmarked : pair ∉ flight) (untried : pair ∉ pairs) :
    Orderly (.request r :: work) (flight.mark pair) pairs where
  rows := orderly.rows
  apart := by
    simp only [List.map_cons, List.nodup_cons]
    refine ⟨?_, orderly.apart⟩
    intro member
    obtain ⟨task, held, same⟩ := List.mem_map.mp member
    obtain ⟨other, marked, also⟩ := orderly.marked task held
    have : some other = some pair := by rw [← also, same]; exact named
    cases this
    exact unmarked marked
  marked task member := by
    rcases List.mem_cons.mp member with rfl | old
    · exact ⟨pair, InFlight.mem_mark.mpr (.inl rfl), named⟩
    · obtain ⟨other, marked, also⟩ := orderly.marked task old
      exact ⟨other, InFlight.mem_mark.mpr (.inr marked), also⟩
  fits task member := by
    rcases List.mem_cons.mp member with rfl | old
    · intro other also
      cases named.symm.trans also
      exact untried
    · exact orderly.fits task old

/-- A port is tried. -/
theorem orderly_tries {outcome : ScanOutcome} (orderly : Orderly (.request r :: others) flight pairs)
    (of : outcome.request = r) : Orderly (.outcome r outcome :: others) flight pairs where
  rows := orderly.rows
  apart := orderly.apart
  marked task member := by
    rcases List.mem_cons.mp member with rfl | old
    · exact orderly.marked (.request r) List.mem_cons_self
    · exact orderly.marked task (List.mem_cons_of_mem _ old)
  fits task member := by
    rcases List.mem_cons.mp member with rfl | old
    · exact ⟨of, orderly.fits (.request r) List.mem_cons_self⟩
    · exact orderly.fits task (List.mem_cons_of_mem _ old)

/-- An outcome is kept: there was no row for its pair, and now there is one. -/
theorem orderly_keeps {outcome : ScanOutcome}
    (orderly : Orderly (.outcome r outcome :: others) flight pairs) (named : pairOf r = some pair) :
    Orderly (.kept r :: others) flight (pairs ++ [pair]) where
  rows := by
    have untried := (orderly.fits (.outcome r outcome) List.mem_cons_self).2 pair named
    refine List.nodup_append.mpr ⟨orderly.rows, List.nodup_singleton _, ?_⟩
    intro old member new found same
    rw [List.mem_singleton.mp found] at same
    exact untried (same ▸ member)
  apart := orderly.apart
  marked task member := by
    rcases List.mem_cons.mp member with rfl | old
    · exact orderly.marked (.outcome r outcome) List.mem_cons_self
    · exact orderly.marked task (List.mem_cons_of_mem _ old)
  fits task member := by
    rcases List.mem_cons.mp member with rfl | old
    · intro other also
      cases named.symm.trans also
      exact List.mem_append_right _ (List.mem_singleton_self _)
    · apply fits_other (orderly.fits task (List.mem_cons_of_mem _ old))
      intro same
      have apart := orderly.apart
      simp only [List.map_cons, List.nodup_cons] at apart
      exact apart.1 (List.mem_map.mpr ⟨task, old, same.trans named.symm⟩)

/-- A request is done with, and its mark is cleared. -/
theorem orderly_clears {task : Task} (orderly : Orderly (task :: others) flight pairs)
    (named : task.pair? = some pair) : Orderly others (flight.clear pair) pairs where
  rows := orderly.rows
  apart := (List.nodup_cons.mp orderly.apart).2
  marked other member := by
    obtain ⟨own, marked, also⟩ := orderly.marked other (List.mem_cons_of_mem _ member)
    refine ⟨own, InFlight.mem_clear.mpr ⟨marked, ?_⟩, also⟩
    rintro rfl
    exact (List.nodup_cons.mp orderly.apart).1 (List.mem_map.mpr ⟨other, member, also.trans named.symm⟩)
  fits other member := orderly.fits other (List.mem_cons_of_mem _ member)

end Orderly

/-! ## What the dispatcher knows -/

/-- What the dispatcher has noted, and was told, of its host is enough: a port of the host that is marked or
in storage is not chosen. Before it asks storage, this is so of marks alone. -/
def Dispatcher.Covers (flight : InFlight) (pairs : List (RecordId × UInt16)) : Dispatcher → Prop
  | .reading host id busy => host.id = some id ∧ ∀ port, (id, port) ∈ flight → port ∈ busy
  | .planning host busy stored => ∀ id, host.id = some id →
    ∀ port, (id, port) ∈ flight ∨ (id, port) ∈ pairs → port ∈ stored ∨ port ∈ busy
  | _ => True

theorem covers_free {dispatcher : Dispatcher} (free : dispatcher.isFree = true) (flight : InFlight)
    (pairs : List (RecordId × UInt16)) : dispatcher.Covers flight pairs := by
  cases dispatcher with
  | reading host id busy => cases free
  | planning host busy stored => cases free
  | _ => trivial

/-- It stays enough when marks are cleared and when rows come for what is marked. -/
theorem covers_mono {dispatcher : Dispatcher} {flight flight' : InFlight}
    {pairs pairs' : List (RecordId × UInt16)} (covers : dispatcher.Covers flight pairs)
    (marks : ∀ pair ∈ flight', pair ∈ flight) (rows : ∀ pair ∈ pairs', pair ∈ pairs ∨ pair ∈ flight) :
    dispatcher.Covers flight' pairs' := by
  cases dispatcher with
  | reading host id busy => exact ⟨covers.1, fun port marked => covers.2 port (marks _ marked)⟩
  | planning host busy stored =>
    intro id named port known
    apply covers id named port
    rcases known with marked | row
    · exact .inl (marks _ marked)
    · exact (rows _ row).symm
  | _ => trivial

namespace Scanner

variable {s t u : Scanner} {event : Event} {events : List Event} {pair : RecordId × UInt16}

theorem run?_append (s : Scanner) (first second : List Event) :
    s.run? (first ++ second) = (s.run? first).bind fun t => t.run? second := by
  induction first generalizing s with
  | nil => rfl
  | cons event rest ih =>
    simp only [List.cons_append, run?]
    cases s.step? event with
    | none => rfl
    | some t => exact ih t

/-! ## Every event leaves a scanner careful -/

/-- The requests under way: what the dispatcher holds and what is queued or in the hands of workers. -/
def work (s : Scanner) : List Task :=
  (s.dispatcher.request?.map Task.request).toList ++ s.tasks

private theorem work_free (free : s.dispatcher.isFree = true) : s.work = s.tasks := by
  unfold work
  cases held : s.dispatcher with
  | sending r =>
    rw [held] at free
    cases free
  | _ => rfl

theorem work_sending {r : ScanRequest} (sending : s.dispatcher = .sending r) :
    s.work = .request r :: s.tasks := by
  simp [work, sending, Dispatcher.request?]

private theorem tasks_sublist (s : Scanner) : s.tasks.Sublist s.work :=
  List.sublist_append_right _ _

/-- What is known of a scanner between any two events. -/
structure Careful (s : Scanner) : Prop where
  /-- Storage refuses nothing. -/
  sound : s.store.faults = []
  /-- Workers have rising numbers. -/
  numbered : s.pool.Numbered
  /-- Requests, marks and rows go together. -/
  orderly : Orderly s.work s.inFlight s.store.pairs
  /-- The dispatcher knows enough. -/
  covers : s.dispatcher.Covers s.inFlight s.store.pairs

theorem careful_fresh {batch room : Nat} {store : Store} (sound : store.faults = [])
    (once : store.pairs.Nodup) : Careful (.fresh batch room store) where
  sound := sound
  numbered := Pool.numbered_fresh false
  orderly := by
    have nothing : (fresh batch room store).work = [] := rfl
    rw [nothing]
    exact ⟨once, List.nodup_nil, by simp, by simp⟩
  covers := trivial

/-- The task of a worker is replaced by one about the same request, while the dispatcher goes on with what
it holds. -/
theorem work_replaced {before after : Task} {others : List Task}
    (had : s.tasks.Perm (before :: others)) (has : t.tasks.Perm (after :: others))
    (dispatcher : t.dispatcher = s.dispatcher) :
    ∃ rest, s.work.Perm (before :: rest) ∧ t.work.Perm (after :: rest) := by
  refine ⟨(s.dispatcher.request?.map Task.request).toList ++ others, ?_, ?_⟩
  · exact (had.append_left _).trans List.perm_middle
  · unfold work
    rw [dispatcher]
    exact (has.append_left _).trans List.perm_middle

theorem work_removed {task : Task} {others : List Task}
    (had : s.tasks.Perm (task :: others)) (has : t.tasks.Perm others)
    (dispatcher : t.dispatcher = s.dispatcher) : s.work.Perm (task :: t.work) := by
  unfold work
  rw [dispatcher]
  exact ((had.append_left _).trans List.perm_middle).trans ((has.symm.append_left _).cons task)

/-- What storage has after an outcome was given to it that it does not refuse. -/
private theorem kept_rows (sound : s.store.faults = []) {outcome : ScanOutcome} {id : RecordId}
    (named : outcome.host.id = some id)
    (store : t.store = (s.store.addPort outcome).toOption.getD s.store) :
    t.store.faults = [] ∧ t.store.pairs = s.store.pairs ++ [(id, outcome.port)] := by
  rw [Store.addPort_spec sound named] at store
  simp [store, sound, Except.toOption, Store.pairs]

theorem marksWithout_eq {r : ScanRequest} (named : pairOf r = some pair) :
    s.marksWithout r = s.inFlight.clear pair := by
  simp only [marksWithout, named]

/-- Every event leaves a careful scanner careful. -/
theorem careful_step (careful : Careful s) (happened : s.step? event = some t) : Careful t := by
  obtain ⟨effect, numbered⟩ := step_effect careful.numbered happened
  have orderly := careful.orderly
  cases effect with
  | none store marks tasks dispatcher =>
    have same : t.work.Perm s.work := by
      unfold work
      rw [dispatcher]
      exact tasks.append_left _
    refine ⟨store ▸ careful.sound, numbered, ?_, ?_⟩
    · rw [store, marks]
      exact orderly_perm orderly same
    · rw [store, marks, dispatcher]
      exact careful.covers
  | frees store marks tasks free =>
    refine ⟨store ▸ careful.sound, numbered, ?_, covers_free free _ _⟩
    rw [store, marks, work_free free]
    exact orderly_perm (orderly_sublist orderly (tasks_sublist s)) tasks
  | notes host id named store marks tasks dispatcher =>
    refine ⟨store ▸ careful.sound, numbered, ?_, ?_⟩
    · have fewer : t.work = t.tasks := by simp [work, dispatcher, Dispatcher.request?]
      rw [store, marks, fewer]
      exact orderly_perm (orderly_sublist orderly (tasks_sublist s)) tasks
    · rw [dispatcher, marks]
      exact ⟨named, fun port marked => InFlight.mem_ports.mpr marked⟩
  | reads host id busy rows was told store marks tasks dispatcher =>
    refine ⟨store ▸ careful.sound, numbered, ?_, ?_⟩
    · have fewer : t.work = t.tasks := by simp [work, dispatcher, Dispatcher.request?]
      rw [store, marks, fewer]
      exact orderly_perm (orderly_sublist orderly (tasks_sublist s)) tasks
    · have covers := careful.covers
      rw [was] at covers
      rw [dispatcher, marks, store]
      -- What came to storage before it was asked is told; what is still marked was marked when noted.
      intro other same port known
      cases covers.1.symm.trans same
      rcases known with marked | row
      · exact .inr (covers.2 port marked)
      · exact .inl ((Store.portsOf_mem told port).mpr row)
  | plans host id busy stored port was named untried store marks tasks dispatcher =>
    have unmarked : (id, port) ∉ s.inFlight := fun marked =>
      untried (List.mem_append_right _ (InFlight.mem_ports.mpr marked))
    have absent : (id, port) ∉ s.store.pairs := by
      intro row
      have covers := careful.covers
      rw [was] at covers
      rcases covers id named port (.inr row) with told | noted
      · exact untried (List.mem_append_left _ (List.mem_append_left _ told))
      · exact untried (List.mem_append_left _ (List.mem_append_right _ noted))
    refine ⟨store ▸ careful.sound, numbered, ?_, by rw [dispatcher]; trivial⟩
    rw [store, marks, work_sending dispatcher]
    have plain := orderly_perm (orderly_sublist orderly (tasks_sublist s)) tasks
    exact orderly_plans plain (pairOf_eq_some.mpr ⟨named, rfl⟩) unmarked absent
  | queues r was store marks tasks free =>
    refine ⟨store ▸ careful.sound, numbered, ?_, covers_free free _ _⟩
    rw [work_sending was] at orderly
    rw [store, marks, work_free free]
    exact orderly_perm orderly tasks
  | givesBack r was store marks tasks free =>
    rw [work_sending was] at orderly
    obtain ⟨pair, _, (named : pairOf r = some pair)⟩ := orderly.marked _ List.mem_cons_self
    refine ⟨store ▸ careful.sound, numbered, ?_, covers_free free _ _⟩
    rw [store, marks, marksWithout_eq named, work_free free]
    exact orderly_perm (orderly_clears orderly named) tasks
  | tries r outcome others had of store marks tasks dispatcher =>
    obtain ⟨rest, before, after⟩ := work_replaced had tasks dispatcher
    refine ⟨store ▸ careful.sound, numbered, ?_, ?_⟩
    · rw [store, marks]
      exact orderly_perm (orderly_tries (orderly_perm orderly before.symm) of) after
    · rw [store, marks, dispatcher]
      exact careful.covers
  | keeps r outcome others had store marks tasks dispatcher =>
    obtain ⟨rest, before, after⟩ := work_replaced had tasks dispatcher
    have orderly := orderly_perm orderly before.symm
    obtain ⟨⟨id, port⟩, marked, named⟩ := orderly.marked _ List.mem_cons_self
    obtain ⟨rfl, _⟩ := orderly.fits _ List.mem_cons_self
    obtain ⟨host, rfl⟩ := pairOf_eq_some.mp named
    obtain ⟨sound, more⟩ := kept_rows careful.sound host store
    refine ⟨sound, numbered, ?_, ?_⟩
    · rw [marks, more]
      exact orderly_perm (orderly_keeps orderly named) after
    · rw [marks, dispatcher, more]
      apply covers_mono careful.covers (fun _ marked => marked)
      intro pair row
      rcases List.mem_append.mp row with old | new
      · exact .inl old
      · rw [List.mem_singleton.mp new]
        exact .inr marked
  | clears r others had store marks tasks dispatcher =>
    have orderly := orderly_perm orderly (work_removed had tasks dispatcher).symm
    obtain ⟨pair, _, (named : pairOf r = some pair)⟩ := orderly.marked _ List.mem_cons_self
    refine ⟨store ▸ careful.sound, numbered, ?_, ?_⟩
    · rw [store, marks, marksWithout_eq named]
      exact orderly_clears orderly named
    · rw [store, marks, marksWithout_eq named, dispatcher]
      exact covers_mono careful.covers (fun _ marked => (InFlight.mem_clear.mp marked).1)
        (fun _ row => .inl row)

theorem careful_run (careful : Careful s) (ran : s.run? events = some t) : Careful t := by
  induction events generalizing s with
  | nil =>
    cases ran
    exact careful
  | cons event rest ih =>
    obtain ⟨next, stepped, onward⟩ := Option.bind_eq_some_iff.mp ran
    exact ih (careful_step careful stepped) onward

/-! ## What is queued is not forgotten -/

/-- A pair that is marked or has a row, and whose mark is not the dispatcher's to give back. -/
def Secured (s : Scanner) (pair : RecordId × UInt16) : Prop :=
  pair ∈ s.store.pairs ∨ pair ∈ s.inFlight ∧ ∀ r, s.dispatcher = .sending r → pairOf r ≠ some pair

private theorem secured_free (free : s.dispatcher.isFree = true)
    (known : pair ∈ s.inFlight ∨ pair ∈ s.store.pairs) : s.Secured pair := by
  rcases known with marked | row
  · refine .inr ⟨marked, ?_⟩
    intro r sending
    rw [sending] at free
    cases free
  · exact .inl row

/-- When the dispatcher queues a request, it has nothing left to give back. -/
private theorem queue_secures (happened : s.step? .queue = some t)
    (known : pair ∈ s.inFlight ∨ pair ∈ s.store.pairs) : t.Secured pair := by
  simp only [step?, queue?] at happened
  split at happened
  · split at happened
    · cases happened
      exact secured_free rfl known
    · cases happened
  · cases happened

/-- A pair that has been secured stays so. -/
theorem secured_step (careful : Careful s) (happened : s.step? event = some t)
    (secured : s.Secured pair) : t.Secured pair := by
  have orderly := careful.orderly
  cases (step_effect careful.numbered happened).effect with
  | none store marks tasks dispatcher =>
    unfold Secured
    rw [store, marks, dispatcher]
    exact secured
  | frees store marks tasks free =>
    apply secured_free free
    rw [store, marks]
    exact secured.symm.imp_left And.left
  | notes host id named store marks tasks dispatcher =>
    unfold Secured
    rw [store, marks, dispatcher]
    exact secured.imp_right fun held => ⟨held.1, fun _ sending => nomatch sending⟩
  | reads host id busy rows was told store marks tasks dispatcher =>
    unfold Secured
    rw [store, marks, dispatcher]
    exact secured.imp_right fun held => ⟨held.1, fun _ sending => nomatch sending⟩
  | plans host id busy stored port was named untried store marks tasks dispatcher =>
    unfold Secured
    rw [store, marks, dispatcher]
    refine secured.imp_right fun held => ⟨InFlight.mem_mark.mpr (.inr held.1), ?_⟩
    -- The port was chosen because it was not marked.
    rintro r sending own
    cases sending
    obtain ⟨owner, rfl⟩ := pairOf_eq_some.mp own
    cases named.symm.trans owner
    exact untried (List.mem_append_right _ (InFlight.mem_ports.mpr held.1))
  | queues r was store marks tasks free =>
    apply secured_free free
    rw [store, marks]
    exact secured.symm.imp_left And.left
  | givesBack r was store marks tasks free =>
    rw [work_sending was] at orderly
    obtain ⟨own, _, (named : pairOf r = some own)⟩ := orderly.marked _ List.mem_cons_self
    apply secured_free free
    rw [store, marks, marksWithout_eq named]
    refine secured.symm.imp_left fun held => InFlight.mem_clear.mpr ⟨held.1, ?_⟩
    rintro rfl
    exact held.2 r was named
  | tries r outcome others had of store marks tasks dispatcher =>
    unfold Secured
    rw [store, marks, dispatcher]
    exact secured
  | keeps r outcome others had store marks tasks dispatcher =>
    obtain ⟨rest, before, _⟩ := work_replaced had tasks dispatcher
    have orderly := orderly_perm orderly before.symm
    obtain ⟨⟨id, port⟩, _, named⟩ := orderly.marked _ List.mem_cons_self
    obtain ⟨rfl, _⟩ := orderly.fits _ List.mem_cons_self
    obtain ⟨_, more⟩ := kept_rows careful.sound (pairOf_eq_some.mp named).1 store
    unfold Secured
    rw [marks, more, dispatcher]
    exact secured.imp_left fun row => List.mem_append_left _ row
  | clears r others had store marks tasks dispatcher =>
    have orderly := orderly_perm orderly (work_removed had tasks dispatcher).symm
    obtain ⟨own, _, (named : pairOf r = some own)⟩ := orderly.marked _ List.mem_cons_self
    unfold Secured
    rw [store, marks, marksWithout_eq named, dispatcher]
    -- A worker clears a mark only after its row has been kept.
    by_cases same : pair = own
    · exact .inl (same ▸ orderly.fits _ List.mem_cons_self own named)
    · exact secured.imp_right fun held => ⟨InFlight.mem_clear.mpr ⟨held.1, same⟩, held.2⟩

theorem secured_run (careful : Careful s) (ran : s.run? events = some t) (secured : s.Secured pair) :
    t.Secured pair := by
  induction events generalizing s with
  | nil =>
    cases ran
    exact secured
  | cons event rest ih =>
    obtain ⟨next, stepped, onward⟩ := Option.bind_eq_some_iff.mp ran
    exact ih (careful_step careful stepped) onward (secured_step careful stepped secured)

/-! ## The main theorem -/

/-- What is true of a scanner `s` that some events have made out of `start`. -/
structure TriesOnce (start : Scanner) (events : List Event) (s : Scanner) : Prop where
  /-- No pair has two rows. -/
  rows : s.store.pairs.Nodup
  /-- No two requests that are queued or being tried are of one pair. -/
  apart : (s.tasks.map Task.pair?).Nodup
  /-- A request comes into being only for a pair without row, mark and task. -/
  created : ∀ event t r, s.step? event = some t → s.dispatcher.request? = none →
    t.dispatcher = .sending r → ∃ pair, pairOf r = some pair ∧ pair ∉ s.store.pairs ∧
      pair ∉ s.inFlight ∧ ∀ task ∈ s.tasks, task.pair? ≠ some pair
  /-- Nor is there any until the request is queued. -/
  held : ∀ r, s.dispatcher = .sending r → ∃ pair, pairOf r = some pair ∧ pair ∉ s.store.pairs ∧
    ∀ task ∈ s.tasks, task.pair? ≠ some pair
  /-- Every pair for which a request was ever queued is marked or has a row. -/
  queued : ∀ before after t r, events = before ++ .queue :: after → start.run? before = some t →
    t.dispatcher = .sending r →
      ∃ pair, pairOf r = some pair ∧ (pair ∈ s.inFlight ∨ pair ∈ s.store.pairs)

/-- A request that the dispatcher holds: its pair has neither a row nor a task. -/
private theorem held_alone (careful : Careful s) {r : ScanRequest} (sending : s.dispatcher = .sending r) :
    ∃ pair, pairOf r = some pair ∧ pair ∉ s.store.pairs ∧ ∀ task ∈ s.tasks, task.pair? ≠ some pair := by
  have orderly := careful.orderly
  rw [work_sending sending] at orderly
  obtain ⟨pair, _, (named : pairOf r = some pair)⟩ := orderly.marked _ List.mem_cons_self
  refine ⟨pair, named, orderly.fits _ List.mem_cons_self pair named, ?_⟩
  intro task member same
  exact (List.nodup_cons.mp orderly.apart).1 (List.mem_map.mpr ⟨task, member, same.trans named.symm⟩)

/-- A request comes into being when the dispatcher plans, and then only for a pair that is not marked. -/
private theorem created_unmarked (careful : Careful s) (happened : s.step? event = some t)
    (none : s.dispatcher.request? = none) {r : ScanRequest} (sending : t.dispatcher = .sending r) :
    t.store = s.store ∧ t.tasks.Perm s.tasks ∧ ∀ pair, pairOf r = some pair → pair ∉ s.inFlight := by
  have unfree : t.dispatcher.isFree ≠ true := by
    rw [sending]
    exact Bool.false_ne_true
  have changed : t.dispatcher ≠ s.dispatcher := by
    rintro same
    rw [← same, sending] at none
    cases none
  cases (step_effect careful.numbered happened).effect with
  | plans host id busy stored port was named untried store marks tasks dispatcher =>
    refine ⟨store, tasks, ?_⟩
    intro pair own marked
    cases dispatcher.symm.trans sending
    obtain ⟨owner, rfl⟩ := pairOf_eq_some.mp own
    cases named.symm.trans owner
    exact untried (List.mem_append_right _ (InFlight.mem_ports.mpr marked))
  | frees _ _ _ free => exact absurd free unfree
  | queues _ _ _ _ _ free => exact absurd free unfree
  | givesBack _ _ _ _ _ free => exact absurd free unfree
  | none _ _ _ same => exact absurd same changed
  | tries _ _ _ _ _ _ _ _ same => exact absurd same changed
  | keeps _ _ _ _ _ _ _ same => exact absurd same changed
  | clears _ _ _ _ _ _ same => exact absurd same changed
  | notes _ _ _ _ _ _ dispatcher => cases dispatcher.symm.trans sending
  | reads _ _ _ _ _ _ _ _ _ dispatcher => cases dispatcher.symm.trans sending

/-- **No port of a host is tried twice.** Take a scanner whose storage refuses nothing and has at most one
row for each host and port, and any events in any order: workers that take requests, try ports, keep what
came of it and clear marks, hosts that are fed again and again, and a dispatcher that is given up anywhere
and replaced. Storage never gets two rows for a host and port; a request comes into being only where there
is neither a row nor another request; and what was queued once stays marked until there is a row for it. -/
theorem no_port_is_tried_twice (batch room : Nat) (store : Store) (sound : store.faults = [])
    (once : store.pairs.Nodup) (events : List Event) (s : Scanner)
    (ran : (fresh batch room store).run? events = some s) :
    TriesOnce (fresh batch room store) events s := by
  have ready : Careful (fresh batch room store) := careful_fresh sound once
  have careful := careful_run ready ran
  refine ⟨careful.orderly.rows, (orderly_sublist careful.orderly (tasks_sublist s)).apart, ?_,
    fun r sending => held_alone careful sending, ?_⟩
  · intro event t r happened none sending
    obtain ⟨same, tasks, unmarked⟩ := created_unmarked careful happened none sending
    obtain ⟨pair, named, absent, alone⟩ := held_alone (careful_step careful happened) sending
    exact ⟨pair, named, same ▸ absent, unmarked pair named,
      fun task member => alone task (tasks.mem_iff.mpr member)⟩
  · rintro before after t r rfl reached sending
    rw [run?_append, reached] at ran
    have ran : t.run? (.queue :: after) = some s := ran
    obtain ⟨u, queued, onward⟩ := Option.bind_eq_some_iff.mp ran
    have careful := careful_run ready reached
    have orderly := careful.orderly
    rw [work_sending sending] at orderly
    obtain ⟨pair, marked, (named : pairOf r = some pair)⟩ := orderly.marked _ List.mem_cons_self
    have secured : u.Secured pair := queue_secures queued (.inl marked)
    refine ⟨pair, named, ?_⟩
    exact (secured_run (careful_step careful queued) onward secured).symm.imp_left And.left

private def nameserver : Host := ⟨some 1, .v4 1, "ns.example", .nameserver, ⟨0, 0⟩⟩

private def oneHost : Store := ⟨[nameserver], [], [], 1, []⟩

/-- One host is fed three times to one worker. -/
private def threeFeeds : List Event :=
  [.start 1, .draw id, .feed, .look, .takeHost, .read, .plan [], .queue, .move 1 .look, .move 1 .take,
    -- The second time, the marks are noted before the first outcome is kept, and the dispatcher is given up.
    .draw id, .feed, .look, .takeHost, .tried 1 ⟨nameserver, 53, none, ⟨0, 0⟩, none⟩, .keep 1, .clear 1,
    .read, .plan [53, 21], .stop, .start 1,
    .draw id, .feed, .look, .takeHost, .read, .plan [53, 21, 80], .queue]

/-- The first feed is a row, the second one a mark that nobody clears, and the third one a request. -/
theorem one_host_fed_three_times : ∃ s, (fresh 4 4 oneHost).run? threeFeeds = some s ∧
    TriesOnce (fresh 4 4 oneHost) threeFeeds s ∧ s.store.pairs = [(1, 53)] ∧
    s.inFlight = [(1, 21), (1, 80)] ∧ s.tasks = [.request ⟨nameserver, 80⟩] :=
  ⟨_, rfl, no_port_is_tried_twice 4 4 oneHost rfl (by decide) threeFeeds _ rfl, rfl, rfl, rfl⟩

end Scanner
end HostSurvey.Scan
