import HostSurvey.Proofs.Control.Deeds
import Mathlib.Data.List.Induction
/-!
# The books of a pool

What a history of events means for who is there.

1. `Numbered` is what each event leaves true of the numbers: nobody bears the number of another one, and those that
   will be given out are new.
2. `Balanced` is the invariant that the deeds of a history carry: the counter is the number of those who set out
   and did not leave, and each number that was given out belongs to one worker.
3. `receipts_run` and `dealt_run` are the same for messages: what was taken and what waits is what was sent, and
   what was taken is at hand until the worker that took it has dealt with it.
-/
namespace HostSurvey.Control.Pool

variable {ι : Type} {p q : Pool ι} {event : Event ι} {events : List (Event ι)}

/-! ## Numbers -/

/-- The workers that are there, and those that have still to set out, bear numbers that were given out, and no two of
them the same. -/
structure Numbered (p : Pool ι) : Prop where
  distinct : (p.ids ++ p.pending).Nodup
  /-- The next number is greater than all of them. -/
  below : ∀ id ∈ p.ids ++ p.pending, id < p.nextId

theorem Numbered.nodup (numbered : p.Numbered) : p.ids.Nodup :=
  (List.nodup_append.mp numbered.distinct).1

theorem Numbered.fresh (numbered : p.Numbered) : ∀ id ∈ p.pending, id ∉ p.ids :=
  fun id given there => (List.nodup_append.mp numbered.distinct).2.2 id there id given rfl

theorem numbered_fresh (tells : Bool) : (fresh tells : Pool ι).Numbered :=
  ⟨.nil, by simp [Pool.fresh, ids, pending]⟩

/-- The numbers that are left of those that there were, in any order, are as good as those. -/
theorem numbered_fewer (numbered : p.Numbered) (fewer : (q.ids ++ q.pending).Subperm (p.ids ++ p.pending))
    (next : p.nextId ≤ q.nextId) : q.Numbered := by
  obtain ⟨kept, same, among⟩ := fewer
  exact ⟨same.nodup_iff.mp (numbered.distinct.sublist among), fun id member =>
    Nat.lt_of_lt_of_le (numbered.below id (among.subset (same.mem_iff.mpr member))) next⟩

/-- What changes neither workers nor starts nor the next number leaves the numbers as they are. -/
theorem numbered_same (numbered : p.Numbered) (workers : q.workers = p.workers) (starts : q.starts = p.starts)
    (next : q.nextId = p.nextId) : q.Numbered := by
  have ids : q.ids = p.ids := by rw [Pool.ids, Pool.ids, workers]
  have pending : q.pending = p.pending := by rw [Pool.pending, Pool.pending, workers, starts]
  exact numbered_fewer numbered (by rw [ids, pending]) (Nat.le_of_eq next.symm)

/-- So does a worker that is replaced by one with the same numbers. -/
theorem numbered_put {worker : Worker ι} (numbered : p.Numbered) (found : p.worker? worker.id = some worker)
    {replacement : Worker ι} (same : replacement.id = worker.id) (alike : replacement.number? = worker.number?) :
    (p.put replacement).Numbered := by
  refine numbered_fewer numbered ?_ (Nat.le_refl _)
  rw [ids_put]
  exact (((held_put_same Worker.number? numbered.nodup found same alike).append_left _).append_left _).subperm

private theorem numbered_gives (numbered : p.Numbered) (ids : q.ids = p.ids)
    (pending : q.pending.Perm (p.nextId :: p.pending)) (next : q.nextId = p.nextId + 1) : q.Numbered := by
  have all : (q.ids ++ q.pending).Perm (p.nextId :: (p.ids ++ p.pending)) := by
    rw [ids]
    exact (pending.append_left _).trans List.perm_middle
  refine ⟨all.nodup_iff.mpr (List.nodup_cons.mpr ⟨fun member => ?_, numbered.distinct⟩), fun id member => ?_⟩
  · exact Nat.lt_irrefl _ (numbered.below _ member)
  · rw [next]
    rcases List.mem_cons.mp (all.mem_iff.mp member) with rfl | old
    · exact Nat.lt_succ_self _
    · exact Nat.lt_succ_of_lt (numbered.below id old)

theorem numbered_step (numbered : p.Numbered) (happened : p.step? event = some q) : q.Numbered := by
  cases (step_books numbered.nodup happened).shifted with
  | stays _ _ _ ids pending _ next =>
    refine numbered_fewer numbered ?_ (Nat.le_of_eq next.symm)
    rw [ids]
    exact (pending.append_left _).subperm
  | gives _ _ _ ids pending _ next => exact numbered_gives numbered ids pending next
  | comes id _ _ _ ids pending _ next =>
    refine numbered_fewer numbered ?_ (Nat.le_of_eq next.symm)
    rw [ids, List.append_assoc]
    exact (pending.symm.append_left _).subperm
  | goes id cause there _ _ _ ids pending _ next =>
    refine numbered_fewer numbered ?_ (Nat.le_of_eq next.symm)
    rw [ids]
    exact (pending.append_left _).subperm.trans (List.filter_sublist.append_right _).subperm

theorem numbered_run (numbered : p.Numbered) (ran : p.run? events = some q) : q.Numbered := by
  induction events generalizing p with
  | nil =>
    cases ran
    exact numbered
  | cons event rest ih =>
    obtain ⟨r, happened, later⟩ := Option.bind_eq_some_iff.mp ran
    exact ih (numbered_step numbered happened) later

theorem numbered_raise (numbered : p.Numbered) (count : Nat) : (p.raise count).Numbered :=
  numbered_step numbered (show p.step? (.start count) = some (p.raise count) from rfl)

/-! ## A start that nobody disturbs -/

/-- A start lets its workers set out, each as soon as it has its number. -/
def launches (place : Nat) : Nat → List (Event ι)
  | 0 => []
  | count + 1 => .number place :: .launch place :: launches place count

private theorem launches_run (count : Nat) (old : List Start) (p : Pool ι) :
    ({ p with starts := old ++ [⟨count, none⟩] } : Pool ι).run? (launches old.length count) =
      some (launchMany count { p with starts := old ++ [.finished] }) := by
  induction count generalizing p with
  | zero => rfl
  | succ count ih =>
    have first (now : Start) : (old ++ [now])[old.length]? = some now := List.getElem?_concat_length
    have set (was now : Start) : (old ++ [was]).set old.length now = old ++ [now] := by simp
    simp only [launches, run?, step?, number?, launch?, first, set, Option.bind_some]
    exact ih (launch { p with nextId := p.nextId + 1 } p.nextId)

/-- `start` is a history in which a start is followed by its launches. -/
theorem start_run (p : Pool ι) (count : Nat) (stopped : p.isRunning = false) :
    p.run? (.start count :: launches p.starts.length count) = some (p.start count).2 := by
  simp only [run?, step?, raise, start, stopped, Bool.false_eq_true, if_false, Option.bind_some]
  exact launches_run count p.starts { p with isRunning := true }

theorem numbered_start (numbered : p.Numbered) (count : Nat) : (p.start count).2.Numbered := by
  cases running : p.isRunning with
  | true => simpa [start, running] using numbered
  | false => exact numbered_run numbered (start_run p count running)

/-! ## The books -/

/-- What one more deed adds to a list that is drawn from deeds. -/
private theorem drawn_snoc {α : Type} (draw : Deed → Option α) (deeds : List Deed) (deed : Option Deed) :
    (deeds ++ deed.toList).filterMap draw = deeds.filterMap draw ++ (deed.bind draw).toList := by
  rw [List.filterMap_append]
  cases deed with
  | none => rfl
  | some deed => cases drawn : draw deed <;> simp [drawn]

private theorem departures_snoc (deeds : List Deed) (deed : Option Deed) :
    departures (deeds ++ deed.toList) = departures deeds ++ ((deed.bind Deed.exit?).map Prod.fst).toList := by
  rw [departures, exits, drawn_snoc, List.map_append]
  cases deed.bind Deed.exit? <;> rfl

/-- What the deeds of a history say of a pool. -/
structure Balanced (p : Pool ι) (deeds : List Deed) : Prop where
  /-- The counter is the number of workers that are there. -/
  live : p.live = p.ids.length
  /-- Those are there who set out and did not leave. -/
  present : p.ids = (arrivals deeds).filter (· ∉ departures deeds)
  /-- Each number that was given out belongs to one worker, that has set out or has still to do so. -/
  given : (arrivals deeds ++ p.pending).Perm (numbers deeds)
  /-- Numbers are given out in rising order. -/
  ordered : (numbers deeds).Pairwise (· < ·)
  /-- The next number is greater still. -/
  below : ∀ id ∈ numbers deeds, id < p.nextId
  /-- At all times, who had set out had got its number before. -/
  announced : ∀ first, first <+: deeds → arrivals first ⊆ numbers first
  /-- Who left had set out. -/
  departed : ∀ id ∈ departures deeds, id ∈ arrivals deeds
  /-- The counter is what is left. -/
  balance : p.live + (departures deeds).length = (arrivals deeds).length

section Balance
variable {deeds : List Deed} (balanced : Balanced p deeds)
include balanced

theorem Balanced.distinct : (arrivals deeds ++ p.pending).Nodup :=
  balanced.given.nodup_iff.mpr (balanced.ordered.imp Nat.ne_of_lt)

theorem Balanced.nodup : p.ids.Nodup := by
  rw [balanced.present]
  exact (List.nodup_append.mp balanced.distinct).1.filter _

end Balance

theorem balanced_fresh (tells : Bool) : Balanced (fresh tells : Pool ι) [] := by
  refine ⟨rfl, rfl, .refl _, .nil, ?_, ?_, ?_, rfl⟩
  · simp [numbers]
  · intro first among
    rw [List.prefix_nil.mp among]
    exact List.Subset.refl _
  · simp [departures, exits]

private theorem length_filter_ne {ids : List Nat} {id : Nat} (distinct : ids.Nodup)
    (member : id ∈ ids) : (ids.filter (· ≠ id)).length + 1 = ids.length := by
  have erased : ids.filter (· ≠ id) = ids.erase id := by
    rw [distinct.erase_eq_filter]
    exact List.filter_congr fun x _ => by rw [Bool.eq_iff_iff]; simp
  rw [erased, List.length_erase_of_mem member]
  have := List.length_pos_of_mem member
  omega

/-- With one more deed, those who set out by now still had their numbers. -/
private theorem announced_snoc {deeds : List Deed} {deed : Option Deed}
    (announced : ∀ first, first <+: deeds → arrivals first ⊆ numbers first)
    (now : arrivals (deeds ++ deed.toList) ⊆ numbers (deeds ++ deed.toList)) :
    ∀ first, first <+: deeds ++ deed.toList → arrivals first ⊆ numbers first := by
  intro first among
  cases deed with
  | none => exact announced first (by simpa using among)
  | some deed =>
    rcases List.prefix_concat_iff.mp among with rfl | earlier
    · exact now
    · exact announced first earlier

section Balance
variable {deeds : List Deed} {deed : Option Deed} (balanced : Balanced p deeds)
include balanced

private theorem balanced_stays (number : numbers (deeds ++ deed.toList) = numbers deeds)
    (come : arrivals (deeds ++ deed.toList) = arrivals deeds)
    (gone : departures (deeds ++ deed.toList) = departures deeds) (ids : q.ids = p.ids)
    (pending : q.pending.Perm p.pending) (live : q.live = p.live) (next : q.nextId = p.nextId) :
    Balanced q (deeds ++ deed.toList) := by
  constructor
  case live => rw [live, ids, balanced.live]
  case present => rw [ids, come, gone, balanced.present]
  case given =>
    rw [come, number]
    exact (pending.append_left _).trans balanced.given
  case ordered => exact number ▸ balanced.ordered
  case below =>
    rw [number, next]
    exact balanced.below
  case announced =>
    refine announced_snoc balanced.announced ?_
    rw [come, number]
    exact balanced.announced deeds List.prefix_rfl
  case departed =>
    rw [come, gone]
    exact balanced.departed
  case balance => rw [come, gone, live, balanced.balance]

private theorem balanced_gives (number : numbers (deeds ++ deed.toList) = numbers deeds ++ [p.nextId])
    (come : arrivals (deeds ++ deed.toList) = arrivals deeds)
    (gone : departures (deeds ++ deed.toList) = departures deeds) (ids : q.ids = p.ids)
    (pending : q.pending.Perm (p.nextId :: p.pending)) (live : q.live = p.live) (next : q.nextId = p.nextId + 1) :
    Balanced q (deeds ++ deed.toList) := by
  constructor
  case live => rw [live, ids, balanced.live]
  case present => rw [ids, come, gone, balanced.present]
  case given =>
    rw [come, number]
    have more : (arrivals deeds ++ q.pending).Perm (p.nextId :: (arrivals deeds ++ p.pending)) :=
      (pending.append_left _).trans List.perm_middle
    exact (more.trans (balanced.given.cons _)).trans (List.perm_append_singleton _ _).symm
  case ordered =>
    rw [number]
    exact List.pairwise_append.mpr ⟨balanced.ordered, List.pairwise_singleton _ _, by simpa using balanced.below⟩
  case below =>
    intro id member
    rw [number, List.mem_append, List.mem_singleton] at member
    rcases member with old | rfl
    · have := balanced.below id old
      omega
    · omega
  case announced =>
    refine announced_snoc balanced.announced ?_
    rw [come, number]
    exact fun id member => List.mem_append_left _ (balanced.announced deeds List.prefix_rfl member)
  case departed =>
    rw [come, gone]
    exact balanced.departed
  case balance => rw [come, gone, live, balanced.balance]

private theorem balanced_comes {id : Nat} (number : numbers (deeds ++ deed.toList) = numbers deeds)
    (come : arrivals (deeds ++ deed.toList) = arrivals deeds ++ [id])
    (gone : departures (deeds ++ deed.toList) = departures deeds) (ids : q.ids = p.ids ++ [id])
    (pending : p.pending.Perm (id :: q.pending)) (live : q.live = p.live + 1) (next : q.nextId = p.nextId) :
    Balanced q (deeds ++ deed.toList) := by
  have awaited : id ∈ p.pending := pending.mem_iff.mpr List.mem_cons_self
  have new : id ∉ departures deeds := fun left =>
    (List.nodup_append.mp balanced.distinct).2.2 id (balanced.departed id left) id awaited rfl
  have given : (arrivals deeds ++ [id] ++ q.pending).Perm (numbers deeds) := by
    rw [List.append_assoc]
    exact (pending.symm.append_left _).trans balanced.given
  have counted := balanced.live
  have balance := balanced.balance
  constructor
  case live => rw [live, ids, counted, List.length_append, List.length_singleton]
  case present =>
    rw [ids, come, gone, List.filter_append, ← balanced.present]
    simp [new]
  case given =>
    rw [come, number]
    exact given
  case ordered => exact number ▸ balanced.ordered
  case below =>
    rw [number, next]
    exact balanced.below
  case announced =>
    refine announced_snoc balanced.announced ?_
    rw [come, number]
    exact fun other member => given.mem_iff.mp (List.mem_append_left _ member)
  case departed =>
    rw [come, gone]
    exact fun other member => List.mem_append_left _ (balanced.departed other member)
  case balance =>
    rw [come, gone, live, List.length_append, List.length_singleton]
    omega

private theorem balanced_goes {id : Nat} (there : id ∈ p.ids)
    (number : numbers (deeds ++ deed.toList) = numbers deeds)
    (come : arrivals (deeds ++ deed.toList) = arrivals deeds)
    (gone : departures (deeds ++ deed.toList) = departures deeds ++ [id]) (ids : q.ids = p.ids.filter (· ≠ id))
    (pending : q.pending.Perm p.pending) (live : q.live = p.live - 1) (next : q.nextId = p.nextId) :
    Balanced q (deeds ++ deed.toList) := by
  have length := length_filter_ne balanced.nodup there
  have counted := balanced.live
  have balance := balanced.balance
  constructor
  case live =>
    rw [live, ids]
    omega
  case present =>
    rw [ids, come, gone, balanced.present, List.filter_filter]
    exact List.filter_congr fun x _ => by simp [and_comm]
  case given =>
    rw [come, number]
    exact (pending.append_left _).trans balanced.given
  case ordered => exact number ▸ balanced.ordered
  case below =>
    rw [number, next]
    exact balanced.below
  case announced =>
    refine announced_snoc balanced.announced ?_
    rw [come, number]
    exact balanced.announced deeds List.prefix_rfl
  case departed =>
    intro other member
    rw [gone, List.mem_append, List.mem_singleton] at member
    rw [come]
    rcases member with old | rfl
    · exact balanced.departed other old
    · rw [balanced.present] at there
      exact List.mem_of_mem_filter there
  case balance =>
    rw [come, gone, live, List.length_append, List.length_singleton]
    omega

theorem balanced_step (happened : p.step? event = some q) : Balanced q (deeds ++ (p.deed? event).toList) := by
  have number := drawn_snoc Deed.number? deeds (p.deed? event)
  have come := drawn_snoc Deed.arrival? deeds (p.deed? event)
  have gone := departures_snoc deeds (p.deed? event)
  cases (step_books balanced.nodup happened).shifted with
  | stays gives comes goes ids pending live next =>
    rw [gives, Option.toList_none, List.append_nil] at number
    rw [comes, Option.toList_none, List.append_nil] at come
    rw [goes, Option.map_none, Option.toList_none, List.append_nil] at gone
    exact balanced_stays balanced number come gone ids pending live next
  | gives gives comes goes ids pending live next =>
    rw [gives, Option.toList_some] at number
    rw [comes, Option.toList_none, List.append_nil] at come
    rw [goes, Option.map_none, Option.toList_none, List.append_nil] at gone
    exact balanced_gives balanced number come gone ids pending live next
  | comes id gives comes goes ids pending live next =>
    rw [gives, Option.toList_none, List.append_nil] at number
    rw [comes, Option.toList_some] at come
    rw [goes, Option.map_none, Option.toList_none, List.append_nil] at gone
    exact balanced_comes balanced number come gone ids pending live next
  | goes id cause there gives comes goes ids pending live next =>
    rw [gives, Option.toList_none, List.append_nil] at number
    rw [comes, Option.toList_none, List.append_nil] at come
    rw [goes, Option.map_some, Option.toList_some] at gone
    exact balanced_goes balanced there number come gone ids pending live next

end Balance

theorem balanced_run {deeds : List Deed} (balanced : Balanced p deeds) (ran : p.run? events = some q) :
    Balanced q (deeds ++ p.deeds events) := by
  induction events generalizing p deeds with
  | nil =>
    cases ran
    simpa [Pool.deeds] using balanced
  | cons event rest ih =>
    obtain ⟨r, happened, later⟩ := Option.bind_eq_some_iff.mp ran
    have balance := ih (balanced_step balanced happened) later
    rwa [deeds_cons happened, ← List.append_assoc]

/-- Who is there or sets out afterwards is there in the end, or has left in between. -/
theorem stays_or_leaves {earlier deeds : List Deed} (before : Balanced p earlier) (now : Balanced q (earlier ++ deeds))
    {id : Nat} (came : id ∈ p.ids ∨ id ∈ arrivals deeds) : id ∈ q.ids ∨ ∃ cause, (id, cause) ∈ exits deeds := by
  have arrived : id ∈ arrivals (earlier ++ deeds) := by
    rw [arrivals, List.filterMap_append, List.mem_append]
    refine came.imp_left fun there => ?_
    rw [before.present] at there
    exact List.mem_of_mem_filter there
  have unleft : id ∉ departures earlier := by
    intro old
    rcases came with there | new
    · rw [before.present] at there
      exact of_decide_eq_true (List.mem_filter.mp there).2 old
    · have once := (List.nodup_append.mp now.distinct).1
      rw [arrivals, List.filterMap_append] at once
      exact (List.nodup_append.mp once).2.2 id (before.departed id old) id new rfl
  by_cases departed : id ∈ departures (earlier ++ deeds)
  · right
    rw [departures, exits, List.filterMap_append, List.map_append, List.mem_append] at departed
    obtain ⟨⟨_, cause⟩, left, rfl⟩ := List.mem_map.mp (departed.resolve_left unleft)
    exact ⟨cause, left⟩
  · left
    rw [now.present]
    exact List.mem_filter.mpr ⟨arrived, decide_eq_true departed⟩

/-! ## Messages -/

/-- What was taken and what waits is what waited at first and was sent since, in the same order. -/
theorem receipts_run (ran : p.run? events = some q) :
    (receipts (p.deeds events)).map Prod.snd ++ q.messages = p.messages ++ events.filterMap Event.message? := by
  induction events generalizing p with
  | nil =>
    cases ran
    simp [deeds, receipts]
  | cons event rest ih =>
    obtain ⟨r, happened, later⟩ := Option.bind_eq_some_iff.mp ran
    have taken : (receipts (p.deeds (event :: rest))).map Prod.snd =
        (((p.deed? event).bind Deed.receipt?).map Prod.snd).toList ++ (receipts (r.deeds rest)).map Prod.snd := by
      rw [deeds_cons happened]
      cases p.deed? event with
      | none => rfl
      | some deed => cases receipt : deed.receipt? <;> simp [receipts, receipt]
    have sent : (event :: rest).filterMap Event.message? =
        event.message?.toList ++ rest.filterMap Event.message? := by
      cases message : event.message? <;> simp [message]
    calc (receipts (p.deeds (event :: rest))).map Prod.snd ++ q.messages
        = (((p.deed? event).bind Deed.receipt?).map Prod.snd).toList ++
            ((receipts (r.deeds rest)).map Prod.snd ++ q.messages) := by rw [taken, List.append_assoc]
      _ = (((p.deed? event).bind Deed.receipt?).map Prod.snd).toList ++ r.messages ++
            rest.filterMap Event.message? := by rw [ih later, List.append_assoc]
      _ = p.messages ++ (event :: rest).filterMap Event.message? := by
          rw [step_receipt happened, sent, List.append_assoc]

/-- What was taken, and what was at hand before, is what has been dealt with and what is at hand now, each message
with the same worker. -/
theorem dealt_run (numbered : p.Numbered) (ran : p.run? events = some q) :
    (receipts (p.deeds events) ++ p.atHand).Perm (handled (p.deeds events) ++ q.atHand) := by
  induction events generalizing p with
  | nil =>
    cases ran
    exact .refl _
  | cons event rest ih =>
    obtain ⟨r, happened, later⟩ := Option.bind_eq_some_iff.mp ran
    have now := (step_books numbered.nodup happened).dealt
    have others := ih (numbered_step numbered happened) later
    have first {α : Type} (draw : Deed → Option α) : (p.deeds (event :: rest)).filterMap draw =
        ((p.deed? event).bind draw).toList ++ (r.deeds rest).filterMap draw := by
      rw [deeds_cons happened, List.filterMap_append]
      congr 1
      exact drawn_snoc draw [] (p.deed? event)
    refine List.perm_iff_count.mpr fun order => ?_
    have once := now.count_eq order
    have again := others.count_eq order
    simp only [receipts, handled, first, List.count_append] at once again ⊢
    omega

/-! ## The counter -/

theorem arrivals_length (deeds : List Deed) :
    (arrivals deeds).length = deeds.countP Deed.isLaunch + timesHandled deeds .spawn := by
  induction deeds with
  | nil => rfl
  | cons deed rest ih =>
    simp only [arrivals, timesHandled, handled] at ih ⊢
    cases deed with
    | left id cause =>
      cases cause <;>
        simp [List.filterMap_cons, Deed.arrival?, Deed.handled?, Deed.isLaunch, Cause.message?, ih]
    | launched id =>
      simp [List.filterMap_cons, List.countP_cons, Deed.arrival?, Deed.handled?, Deed.isLaunch, ih]
      omega
    | spawned id next =>
      simp [Deed.arrival?, Deed.handled?, Deed.isLaunch, ih]
      omega
    | _ => simp [List.filterMap_cons, Deed.arrival?, Deed.handled?, Deed.isLaunch, ih]

/-- A stopping message has been dealt with when the worker that took it leaves. -/
theorem timesHandled_left (deeds : List Deed) {cause : Cause} {message : Message}
    (orders : cause.message? = some message) : timesHandled deeds message = timesLeft deeds cause := by
  induction deeds with
  | nil => rfl
  | cons deed rest ih =>
    simp only [timesHandled, handled, timesLeft, exits] at ih ⊢
    cases deed with
    | left id other =>
      cases cause <;> cases orders <;> cases other <;>
        simp [List.filterMap_cons, Deed.exit?, Deed.handled?, Cause.message?, ih]
    | _ => cases cause <;> cases orders <;> simp [List.filterMap_cons, Deed.exit?, Deed.handled?, ih]

theorem departures_length (deeds : List Deed) :
    (departures deeds).length = timesHandled deeds .stop + timesHandled deeds .shutdown +
      timesLeft deeds .lapsed + timesLeft deeds .collapsed := by
  rw [timesHandled_left deeds (show Cause.stopped.message? = some .stop from rfl),
    timesHandled_left deeds (show Cause.shut.message? = some .shutdown from rfl)]
  simp only [departures, timesLeft, List.length_map]
  induction exits deeds with
  | nil => rfl
  | cons exit rest ih =>
    obtain ⟨id, cause⟩ := exit
    cases cause <;> simp [ih] <;> omega

/-! ## Who leaves, and why -/

private theorem exit_leaving {id : Nat} {cause : Cause} (out : (p.deed? event).bind Deed.exit? = some (id, cause)) :
    ∃ worker, event = .move id .leave ∧ p.worker? id = some worker ∧ worker.phase = .leaving cause := by
  obtain ⟨deed, told, left⟩ := Option.bind_eq_some_iff.mp out
  cases deed_means told with
  | leaves worker _ _ found leaving =>
    cases left
    exact ⟨worker, rfl, found, leaving⟩
  | _ => cases left

/-- A worker in a phase other than looking was in it at first, or has got into it since then. -/
theorem phase_turned (numbered : p.Numbered) (ran : p.run? events = some q) {id : Nat} {w : Worker ι}
    (found : q.worker? id = some w) (busy : w.phase ≠ .looking) :
    (∃ v, p.worker? id = some v ∧ v.phase = w.phase) ∨
      ∃ (first later : List (Event ι)) (move : Move) (r : Pool ι) (v : Worker ι),
        events = first ++ .move id move :: later ∧ p.run? first = some r ∧ r.worker? id = some v ∧
          Turn r v.phase move w.phase := by
  induction events generalizing p with
  | nil =>
    cases ran
    exact .inl ⟨w, found, rfl⟩
  | cons event rest ih =>
    obtain ⟨r, happened, ran⟩ := Option.bind_eq_some_iff.mp ran
    rcases ih (numbered_step numbered happened) ran with ⟨u, there, same⟩ | since
    · cases step_fate numbered.fresh happened id with
      | rests still alike => exact .inl ⟨u, alike ▸ there, same⟩
      | setsOut still pending was now =>
        rw [there] at now
        cases now
        exact absurd same.symm busy
      | turns v _ move moves was turn now =>
        rw [there] at now
        cases now
        exact .inr ⟨[], rest, move, p, v, by rw [moves]; rfl, rfl, was, same ▸ turn⟩
      | leaves v cause moves was leaving now =>
        rw [there] at now
        cases now
    · obtain ⟨first, later, move, s, v, parts, reached, there, turn⟩ := since
      refine .inr ⟨event :: first, later, move, s, v, by rw [parts]; rfl, ?_, there, turn⟩
      simp only [run?, happened, Option.bind_some]
      exact reached

/-- A worker that leaves for a cause was about to at first, or something has happened to it since then. -/
theorem exit_turned (numbered : p.Numbered) {id : Nat} {cause : Cause} (left : (id, cause) ∈ exits (p.deeds events)) :
    (∃ worker, p.worker? id = some worker ∧ worker.phase = .leaving cause) ∨
      ∃ (first later : List (Event ι)) (move : Move) (r : Pool ι) (worker : Worker ι),
        events = first ++ .move id move :: later ∧ p.run? first = some r ∧ r.worker? id = some worker ∧
          Turn r worker.phase move (.leaving cause) := by
  obtain ⟨deed, member, out⟩ := List.mem_filterMap.mp left
  obtain ⟨first, event, later, r, rfl, ran, means⟩ := deeds_mem member
  obtain ⟨worker, _, found, leaving⟩ := exit_leaving (means ▸ out : (r.deed? event).bind Deed.exit? = some (id, cause))
  have busy : worker.phase ≠ .looking := by simp [leaving]
  refine (phase_turned numbered ran found busy).imp ?_ ?_
  · rintro ⟨v, was, same⟩
    exact ⟨v, was, same.trans leaving⟩
  · rintro ⟨before, after, move, s, v, rfl, reached, was, turn⟩
    exact ⟨before, after ++ event :: later, move, s, v, by simp, reached, was, leaving ▸ turn⟩

/-- Nobody breaks down unless an event says so. -/
theorem unharmed_run (numbered : p.Numbered) (whole : ∀ worker ∈ p.workers, worker.phase ≠ .leaving .collapsed)
    (unharmed : ∀ id, .move id .collapse ∉ events) : timesLeft (p.deeds events) .collapsed = 0 := by
  refine List.countP_eq_zero.mpr fun out left collapsed => ?_
  obtain ⟨id, cause⟩ := out
  cases of_decide_eq_true collapsed
  rcases exit_turned numbered left with ⟨worker, found, leaving⟩ | since
  · exact whole worker (worker?_mem found) leaving
  · obtain ⟨first, later, move, r, worker, parts, _, _, turn⟩ := since
    generalize worker.phase = phase at turn
    cases turn
    exact unharmed id (by simp [parts])

/-! ## Numbers and launches -/

/-- Every worker sets out as soon as it has its number: whenever a number is given out, all that were given out
before it belong to workers that have set out. -/
def Undisturbed (deeds : List Deed) : Prop :=
  ∀ (first : List Deed) (id : Nat), first ++ [.numbered id] <+: deeds → numbers first ⊆ arrivals first

/-- Undisturbed, workers set out in the order of their numbers: at most one number is waiting for its worker. -/
private theorem undisturbed_order (deeds : List Deed) (undisturbed : Undisturbed deeds)
    (announced : ∀ first, first <+: deeds → arrivals first ⊆ numbers first) (once : (arrivals deeds).Nodup)
    (distinct : (numbers deeds).Nodup) :
    numbers deeds = arrivals deeds ∨ ∃ id, numbers deeds = arrivals deeds ++ [id] := by
  induction deeds using List.reverseRecOn with
  | nil => exact .inl rfl
  | append_singleton deeds deed ih =>
    have number := drawn_snoc Deed.number? deeds deed
    have come := drawn_snoc Deed.arrival? deeds deed
    rw [← numbers, ← numbers] at number
    rw [← arrivals, ← arrivals] at come
    simp only [Option.toList_some, Option.bind_some] at number come
    rw [number] at distinct
    rw [come] at once
    have before := ih (fun first id among => undisturbed first id (among.trans (List.prefix_append _ _)))
      (fun first among => announced first (among.trans (List.prefix_append _ _)))
      (List.nodup_append.mp once).1 (List.nodup_append.mp distinct).1
    have arrived := announced (deeds ++ [deed]) List.prefix_rfl
    rw [number, come] at arrived
    rw [number, come]
    have comes (id : Nat) (gives : deed.number? = none) (out : deed.arrival? = some id) :
        numbers deeds = arrivals deeds ++ [id] := by
      simp only [gives, out, Option.toList_none, Option.toList_some, List.append_nil] at arrived once
      have given : id ∈ numbers deeds := arrived (List.mem_append_right _ (List.mem_singleton_self id))
      have new : id ∉ arrivals deeds := fun old =>
        (List.nodup_append.mp once).2.2 id old id (List.mem_singleton_self id) rfl
      rcases before with same | ⟨other, waiting⟩
      · exact absurd (same ▸ given) new
      · rw [waiting, List.mem_append, List.mem_singleton] at given
        rw [given.resolve_left new]
        exact waiting
    cases deed with
    | numbered id =>
      have settled : numbers deeds = arrivals deeds := by
        refine before.resolve_right fun ⟨other, waiting⟩ => ?_
        have out : other ∈ arrivals deeds := undisturbed deeds id List.prefix_rfl (by simp [waiting])
        rw [waiting] at distinct
        exact (List.nodup_append.mp (List.nodup_append.mp distinct).1).2.2 other out other
          (List.mem_singleton_self other) rfl
      exact .inr ⟨id, by simp [Deed.number?, Deed.arrival?, settled]⟩
    | launched id => exact .inl (by simp [Deed.number?, Deed.arrival?, comes id rfl rfl])
    | spawned id next => exact .inl (by simp [Deed.number?, Deed.arrival?, comes next rfl rfl])
    | _ => simpa [Deed.number?, Deed.arrival?] using before

/-! ## The main theorem -/

/-- The books of a pool agree with what happened: `deeds` is what the events meant, and `sent` are the
messages that were sent. -/
structure Accounted (p : Pool ι) (deeds : List Deed) (sent : List Message) : Prop where
  /-- The counter is the number of workers that are there. -/
  live : p.live = p.ids.length
  /-- Those are there who set out and did not leave. -/
  present : p.ids = (arrivals deeds).filter (· ∉ departures deeds)
  /-- The counter is what set out less what left, each by its cause. -/
  balance : (p.live : Int) =
    deeds.countP Deed.isLaunch + timesHandled deeds .spawn - timesHandled deeds .stop -
      timesHandled deeds .shutdown - timesLeft deeds .lapsed - timesLeft deeds .collapsed
  /-- Whatever happens next, the counter does not stick at zero. -/
  exact : ∀ event q, p.step? event = some q →
    q.live + (departures (p.deed? event).toList).length =
      p.live + (arrivals (p.deed? event).toList).length
  /-- A start changes nothing while the pool runs. -/
  restart : p.isRunning = true → ∀ count, p.step? (.start count) = some p ∧ p.start count = (false, p)
  /-- The messages that were taken, one worker to each, are the first ones that were sent. -/
  received : (receipts deeds).map Prod.snd ++ p.messages = sent
  /-- The worker that took a message deals with it, once, or has it still at hand. -/
  dealt : (receipts deeds).Perm (handled deeds ++ p.atHand)
  /-- No two workers that ever set out bear the same number. -/
  distinct : (arrivals deeds).Nodup
  /-- To launch a worker is to give out its number first. Numbers are given out in rising order, each to one worker
  that sets out with it or has still to do so. -/
  ordered : (numbers deeds).Pairwise (· < ·)
  given : (arrivals deeds ++ p.pending).Perm (numbers deeds)
  /-- Who has set out bears a smaller number than all those that are given out later. -/
  earlier : ∀ first later, deeds = first ++ later → ∀ id ∈ arrivals first, ∀ next ∈ numbers later, id < next
  /-- Workers that set out as soon as they have their numbers are numbered in the order in which they set out. -/
  rising : Undisturbed deeds → (arrivals deeds).Pairwise (· < ·)

/-- **The counter of a pool is exact.** In any order of starts, stops, messages, items and moves of workers,
it is the number of workers that set out and did not leave. Those who break down count as having left; where no event
lets a worker break down there are none of them. -/
theorem counter_is_exact (tells : Bool) (events : List (Event ι))
    (ran : (fresh tells).run? events = some p) :
    Accounted p ((fresh tells : Pool ι).deeds events) (events.filterMap Event.message?) ∧
      ((∀ id, .move id .collapse ∉ events) → timesLeft ((fresh tells : Pool ι).deeds events) .collapsed = 0) := by
  refine ⟨?_, fun unharmed => unharmed_run (numbered_fresh tells) (by simp [fresh]) unharmed⟩
  have balanced := balanced_run (balanced_fresh tells) ran
  have dealt := dealt_run (numbered_fresh tells) ran
  have received := receipts_run ran
  rw [List.nil_append] at balanced
  generalize (fresh tells : Pool ι).deeds events = deeds at *
  have once : (arrivals deeds).Nodup := (List.nodup_append.mp balanced.distinct).1
  constructor
  case live => exact balanced.live
  case present => exact balanced.present
  case balance =>
    have balance := balanced.balance
    rw [arrivals_length, departures_length] at balance
    omega
  case exact =>
    intro event q happened
    have next := (balanced_step balanced happened).balance
    have balance := balanced.balance
    simp only [arrivals, departures, exits, List.filterMap_append, List.map_append, List.length_append] at next
    simp only [arrivals, departures, exits] at balance ⊢
    omega
  case restart =>
    intro running count
    simp [step?, raise, start, running]
  case received => exact received
  case dealt => simpa [atHand, held, fresh] using dealt
  case distinct => exact once
  case ordered => exact balanced.ordered
  case given => exact balanced.given
  case earlier =>
    rintro first later rfl id out next given
    have ordered := balanced.ordered
    rw [numbers, List.filterMap_append] at ordered
    exact (List.pairwise_append.mp ordered).2.2 id (balanced.announced first (List.prefix_append _ _) out) next given
  case rising =>
    intro undisturbed
    have ordered := balanced.ordered
    rcases undisturbed_order deeds undisturbed balanced.announced once (ordered.imp Nat.ne_of_lt) with
      same | ⟨id, waiting⟩
    · exact same ▸ ordered
    · rw [waiting] at ordered
      exact (List.pairwise_append.mp ordered).1

/-- Two workers are started, a third is spawned, one is stopped, and one finds the flag cleared. The third one sets
out when the pool is stopped already. -/
theorem counter_is_exact_after_spawn_and_stop :
    let events : List (Event Nat) := [.start 2, .number 0, .launch 0, .number 0, .launch 0, .move 1 .look,
      .move 2 .look, .send .spawn, .send .stop, .move 1 .receive, .move 2 .receive, .move 1 .follow, .move 2 .follow,
      .stop, .move 1 .launch, .move 3 .look, .move 2 .leave, .move 3 .leave]
    let pool : Pool Nat := ⟨false, 1, 4, [.finished], [⟨1, .looking, false⟩], [], .empty true⟩
    (fresh true).run? events = some pool ∧
      Accounted pool ((fresh true : Pool Nat).deeds events) [.spawn, .stop] :=
  ⟨rfl, (counter_is_exact true _ rfl).1⟩

end HostSurvey.Control.Pool
