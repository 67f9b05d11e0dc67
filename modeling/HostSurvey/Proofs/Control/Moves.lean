import HostSurvey.Control.Pool
/-!
# What an event changes

1. `Stepped` and `Moved` list what an event, and a move of a worker, can change, and on what condition.
2. `Fate` is the same seen from one worker: it sets out once, only its own moves lead it on its round (`Turn`), and
   it leaves once.
-/
namespace HostSurvey.Control

/-- The number that a worker has given out for another one, if it has not let that one set out. -/
def Worker.number? {ι : Type} (worker : Worker ι) : Option Nat :=
  match worker.phase with
  | .spawning id => some id
  | _ => none

namespace Pool

variable {ι : Type} {p q : Pool ι} {event : Event ι} {worker : Worker ι} {move : Move}

/-- The numbers of the workers that have not left. -/
def ids (p : Pool ι) : List Nat := p.workers.map (·.id)

/-- The numbers that were given out, and whose workers have still to set out. -/
def pending (p : Pool ι) : List Nat :=
  p.starts.filterMap Start.given? ++ p.workers.filterMap Worker.number?

/-- What a worker's move changes. -/
inductive Moved (p : Pool ι) (worker : Worker ι) : Move → Pool ι → Prop where
  | goesOn (looking : worker.phase = .looking) (running : p.isRunning = true) :
      Moved p worker .look (p.put { worker with phase := .waiting })
  | lapses (looking : worker.phase = .looking) (cleared : p.isRunning = false) :
      Moved p worker .look (p.put { worker with phase := .leaving .lapsed })
  | receives (message : Message) (rest : List Message) (waiting : worker.phase = .waiting)
      (first : p.messages = message :: rest) :
      Moved p worker .receive (put { p with messages := rest } { worker with phase := .told message })
  | follows (message : Message) (told : worker.phase = .told message) :
      Moved p worker .follow (p.follow worker message)
  | launches (id : Nat) (spawning : worker.phase = .spawning id) :
      Moved p worker .launch ((p.put { worker with phase := .looking }).launch id)
  | takes (item : ι) (rest : List ι) (waiting : worker.phase = .waiting)
      (first : p.source.items = item :: rest) (asks : worker.isIdle = false) :
      Moved p worker .take
        (put { p with source := { p.source with items := rest } } { worker with phase := .working item })
  | misses (waiting : worker.phase = .waiting) (asks : worker.isIdle = false) (dry : p.source.isDry = true) :
      Moved p worker .miss (p.put { worker with phase := .looking, isIdle := true })
  | beats (waiting : worker.phase = .waiting) :
      Moved p worker .beat (p.put { worker with phase := .looking, isIdle := false })
  | finishes (item : ι) (working : worker.phase = .working item) :
      Moved p worker .finish (p.put { worker with phase := .looking })
  | collapses (frail : worker.phase.isFrail = true) :
      Moved p worker .collapse (p.put { worker with phase := .leaving .collapsed })
  | leaves (cause : Cause) (leaving : worker.phase = .leaving cause) : Moved p worker .leave (p.retire worker.id)

theorem moved_cases (moved : p.moved? worker move = some q) : Moved p worker move q := by
  cases phase : worker.phase with
  | looking =>
    cases move with
    | look =>
      simp only [moved?, phase] at moved
      cases moved
      cases running : p.isRunning with
      | true => exact .goesOn phase running
      | false => exact .lapses phase running
    | collapse =>
      simp only [moved?, phase, Phase.isFrail, if_true] at moved
      cases moved
      exact .collapses (by rw [phase]; rfl)
    | _ => simp [moved?, phase] at moved
  | waiting =>
    cases move with
    | receive =>
      simp only [moved?, phase] at moved
      split at moved
      · cases moved
      · rename_i message rest first
        cases moved
        exact .receives message rest phase first
    | take =>
      simp only [moved?, phase] at moved
      split at moved
      · rename_i item rest asks first
        cases moved
        exact .takes item rest phase first asks
      · cases moved
    | miss =>
      simp only [moved?, phase] at moved
      split at moved
      · rename_i dry
        cases moved
        have asks : worker.isIdle = false ∧ p.source.isDry = true := by simpa using dry
        exact .misses phase asks.1 asks.2
      · cases moved
    | beat =>
      simp only [moved?, phase] at moved
      cases moved
      exact .beats phase
    | collapse =>
      simp only [moved?, phase, Phase.isFrail, if_true] at moved
      cases moved
      exact .collapses (by rw [phase]; rfl)
    | _ => simp [moved?, phase] at moved
  | told message =>
    cases move with
    | follow =>
      simp only [moved?, phase] at moved
      cases moved
      exact .follows message phase
    | _ => simp [moved?, phase, Phase.isFrail] at moved
  | spawning id =>
    cases move with
    | launch =>
      simp only [moved?, phase] at moved
      cases moved
      exact .launches id phase
    | _ => simp [moved?, phase, Phase.isFrail] at moved
  | working item =>
    cases move with
    | finish =>
      simp only [moved?, phase] at moved
      cases moved
      exact .finishes item phase
    | collapse =>
      simp only [moved?, phase, Phase.isFrail, if_true] at moved
      cases moved
      exact .collapses (by rw [phase]; rfl)
    | _ => simp [moved?, phase] at moved
  | leaving cause =>
    cases move with
    | leave =>
      simp only [moved?, phase] at moved
      cases moved
      exact .leaves cause phase
    | _ => simp [moved?, phase, Phase.isFrail] at moved

/-- What an event changes. -/
inductive Stepped (p : Pool ι) : Event ι → Pool ι → Prop where
  | starts (count : Nat) : Stepped p (.start count) (p.raise count)
  | numbers (place owed : Nat) (found : p.starts[place]? = some ⟨owed + 1, none⟩) :
      Stepped p (.number place)
        { p with nextId := p.nextId + 1, starts := p.starts.set place ⟨owed, some p.nextId⟩ }
  | launches (place owed id : Nat) (found : p.starts[place]? = some ⟨owed, some id⟩) :
      Stepped p (.launch place) (launch { p with starts := p.starts.set place ⟨owed, none⟩ } id)
  | stops : Stepped p .stop p.stop
  | sends (message : Message) (room : p.messages.length < messageRoom) :
      Stepped p (.send message) { p with messages := p.messages ++ [message] }
  | offers (item : ι) : Stepped p (.offer item) (p.offer item)
  | closes : Stepped p .close p.close
  | moves (worker : Worker ι) (move : Move) (q : Pool ι) (found : p.worker? worker.id = some worker)
      (moved : Moved p worker move q) : Stepped p (.move worker.id move) q

theorem worker?_id {id : Nat} {worker : Worker ι} (found : p.worker? id = some worker) :
    worker.id = id := by
  simpa using List.find?_some found

theorem step_cases (happened : p.step? event = some q) : Stepped p event q := by
  cases event with
  | start count =>
    cases happened
    exact .starts count
  | number place =>
    simp only [step?, number?] at happened
    split at happened
    · rename_i owed found
      cases happened
      exact .numbers place owed found
    · cases happened
  | launch place =>
    simp only [step?, launch?] at happened
    split at happened
    · rename_i owed id found
      cases happened
      exact .launches place owed id found
    · cases happened
  | stop =>
    cases happened
    exact .stops
  | send message =>
    simp only [step?, send?] at happened
    split at happened
    · rename_i room
      cases happened
      exact .sends message room
    · cases happened
  | offer item =>
    cases happened
    exact .offers item
  | close =>
    cases happened
    exact .closes
  | move id move =>
    obtain ⟨worker, found, moved⟩ := Option.bind_eq_some_iff.mp happened
    have named := worker?_id found
    subst named
    exact .moves worker move q found (moved_cases moved)

/-! ## Workers by their numbers -/

@[simp] theorem ids_put (p : Pool ι) (worker : Worker ι) : (p.put worker).ids = p.ids := by
  simp only [ids, put, List.map_map]
  apply List.map_congr_left
  intro w _
  simp only [Function.comp_apply]
  split
  · rename_i same
    exact same.symm
  · rfl

@[simp] theorem ids_launch (p : Pool ι) (id : Nat) : (p.launch id).ids = p.ids ++ [id] := by
  simp [ids, launch]

@[simp] theorem ids_retire (p : Pool ι) (id : Nat) :
    (p.retire id).ids = p.ids.filter (· ≠ id) := by
  simp only [ids, retire, List.filter_map]
  rfl

theorem worker?_mem {id : Nat} {worker : Worker ι} (found : p.worker? id = some worker) :
    worker ∈ p.workers :=
  List.mem_of_find?_eq_some found

theorem worker?_mem_ids {id : Nat} {worker : Worker ι} (found : p.worker? id = some worker) :
    id ∈ p.ids :=
  List.mem_map.mpr ⟨worker, worker?_mem found, worker?_id found⟩

theorem worker?_isSome {id : Nat} : (p.worker? id).isSome ↔ id ∈ p.ids := by
  simp [worker?, ids]

theorem worker?_eq_none {id : Nat} : p.worker? id = none ↔ id ∉ p.ids := by
  rw [← Option.not_isSome_iff_eq_none, worker?_isSome]

/-- A worker is found in the place of the one that it was put for. -/
theorem worker?_put {w : Worker ι} (there : w.id ∈ p.ids) (worker : Worker ι) (same : worker.id = w.id)
    (id : Nat) : (p.put worker).worker? id = if id = w.id then some worker else p.worker? id := by
  rw [← same] at there ⊢
  obtain ⟨old, member, named⟩ := List.mem_map.mp there
  simp only [worker?, put, List.find?_map]
  by_cases own : id = worker.id
  · subst own
    have found : p.workers.find? ((fun w => decide (w.id = worker.id)) ∘ fun w =>
        if w.id = worker.id then worker else w) = p.workers.find? (·.id = worker.id) := by
      congr 1
      funext w
      by_cases named : w.id = worker.id <;> simp [named]
    rw [if_pos rfl, found]
    have some_ : (p.workers.find? (·.id = worker.id)).isSome :=
      List.find?_isSome.mpr ⟨old, member, by simpa using named⟩
    obtain ⟨w, first⟩ := Option.isSome_iff_exists.mp some_
    have named : w.id = worker.id := by simpa using List.find?_some first
    rw [first, Option.map_some, if_pos named]
  · have found : p.workers.find? ((fun w => decide (w.id = id)) ∘ fun w =>
        if w.id = worker.id then worker else w) = p.workers.find? (·.id = id) := by
      congr 1
      funext w
      by_cases named : w.id = worker.id
      · simp [named, Ne.symm own]
      · simp [named]
    rw [if_neg own, found]
    cases first : p.workers.find? (·.id = id) with
    | none => rfl
    | some w =>
      have named : w.id = id := by simpa using List.find?_some first
      rw [Option.map_some, if_neg (named ▸ own)]

theorem worker?_retire (p : Pool ι) (gone id : Nat) :
    (p.retire gone).worker? id = if id = gone then none else p.worker? id := by
  simp only [worker?, retire, List.find?_filter]
  by_cases own : id = gone
  · subst own
    simp
  · rw [if_neg own]
    congr 1
    funext w
    by_cases named : w.id = id <;> simp [named, own]

theorem worker?_launch {next : Nat} (fresh : next ∉ p.ids) (id : Nat) :
    (p.launch next).worker? id = if id = next then some ⟨next, .looking, false⟩ else p.worker? id := by
  have absent : p.worker? next = none := worker?_eq_none.mpr fresh
  simp only [worker?] at absent
  simp only [worker?, launch, List.find?_append]
  by_cases own : id = next
  · subst own
    simp [absent]
  · simp [own, Ne.symm own]

/-! ## One worker -/

/-- How a move leads a worker from one phase to another. -/
inductive Turn (p : Pool ι) : Phase ι → Move → Phase ι → Prop where
  | goesOn (running : p.isRunning = true) : Turn p .looking .look .waiting
  | lapses (cleared : p.isRunning = false) : Turn p .looking .look (.leaving .lapsed)
  | receives (message : Message) (rest : List Message) (first : p.messages = message :: rest) :
      Turn p .waiting .receive (.told message)
  | stops : Turn p (.told .stop) .follow (.leaving .stopped)
  | shuts : Turn p (.told .shutdown) .follow (.leaving .shut)
  | spawns : Turn p (.told .spawn) .follow (.spawning p.nextId)
  | reports : Turn p (.told .status) .follow .looking
  | launches (id : Nat) : Turn p (.spawning id) .launch .looking
  | takes (item : ι) (rest : List ι) (first : p.source.items = item :: rest) :
      Turn p .waiting .take (.working item)
  | misses : Turn p .waiting .miss .looking
  | beats : Turn p .waiting .beat .looking
  | finishes (item : ι) : Turn p (.working item) .finish .looking
  | collapses (phase : Phase ι) (frail : phase.isFrail = true) : Turn p phase .collapse (.leaving .collapsed)

/-- What becomes of the worker with a number. -/
inductive Fate (p q : Pool ι) (id : Nat) (event : Event ι) : Prop where
  /-- It does not move, if it is there. -/
  | rests (still : ∀ move, event ≠ .move id move) (same : q.worker? id = p.worker? id)
  | setsOut (still : ∀ move, event ≠ .move id move) (pending : id ∈ p.pending) (was : p.worker? id = none)
      (now : q.worker? id = some ⟨id, .looking, false⟩)
  | turns (w v : Worker ι) (move : Move) (moves : event = .move id move) (was : p.worker? id = some w)
      (turn : Turn p w.phase move v.phase) (now : q.worker? id = some v)
  | leaves (w : Worker ι) (cause : Cause) (moves : event = .move id .leave) (was : p.worker? id = some w)
      (leaving : w.phase = .leaving cause) (now : q.worker? id = none)

/-- A move that leads one worker on leaves the others where they are. -/
private theorem fate_alone {w : Worker ι} {now : Option (Worker ι)} {id : Nat}
    (after : q.worker? id = if id = w.id then now else p.worker? id)
    (own : q.worker? w.id = now → Fate p q w.id (.move w.id move)) : Fate p q id (.move w.id move) := by
  by_cases same : id = w.id
  · subst same
    exact own (after.trans (if_pos rfl))
  · refine .rests (fun other moves => ?_) (after.trans (if_neg same))
    cases moves
    exact same rfl

/-- A turn changes the worker that makes it, in a pool of the same workers. -/
private theorem fate_put {w : Worker ι} {r : Pool ι} {before after : Phase ι} {idle : Bool}
    (found : p.worker? w.id = some w) (workers : r.workers = p.workers) (was : w.phase = before)
    (turn : Turn p before move after) (id : Nat) : Fate p (r.put ⟨w.id, after, idle⟩) id (.move w.id move) := by
  have elsewhere : ∀ id, r.worker? id = p.worker? id := fun id => by rw [worker?, worker?, workers]
  have inside : w.id ∈ r.ids := by
    rw [ids, workers]
    exact worker?_mem_ids found
  have put := worker?_put inside ⟨w.id, after, idle⟩ rfl id
  rw [elsewhere] at put
  rw [← was] at turn
  exact fate_alone put fun now => .turns w ⟨w.id, after, idle⟩ move rfl found turn now

/-- A worker that has let another one set out goes back to looking. -/
private theorem launch_fate {w : Worker ι} {new : Nat} (found : p.worker? w.id = some w)
    (spawning : w.phase = .spawning new) (fresh : ∀ id ∈ p.pending, id ∉ p.ids) (id : Nat) :
    Fate p ((p.put { w with phase := .looking }).launch new) id (.move w.id .launch) := by
  have there : w.id ∈ p.ids := worker?_mem_ids found
  have given : new ∈ p.pending :=
    List.mem_append_right _ (List.mem_filterMap.mpr ⟨w, worker?_mem found, by simp [Worker.number?, spawning]⟩)
  have absent : new ∉ p.ids := fresh new given
  have after := worker?_launch (p := p.put { w with phase := .looking }) (by rwa [ids_put]) id
  rw [worker?_put there { w with phase := .looking } rfl] at after
  by_cases own : id = new
  · subst own
    refine .setsOut (fun move moves => absent ?_) given (worker?_eq_none.mpr absent) (after.trans (if_pos rfl))
    exact (Event.move.inj moves).1 ▸ there
  · refine fate_alone (after.trans (if_neg own)) fun now => .turns w _ .launch rfl found ?_ now
    rw [spawning]
    exact .launches new

private theorem moved_fate {w : Worker ι} (found : p.worker? w.id = some w) (fresh : ∀ id ∈ p.pending, id ∉ p.ids)
    (moved : Moved p w move q) (id : Nat) : Fate p q id (.move w.id move) := by
  cases moved with
  | goesOn looking running => exact fate_put found rfl looking (.goesOn running) id
  | lapses looking cleared => exact fate_put found rfl looking (.lapses cleared) id
  | receives message rest waiting first =>
    exact fate_put (r := { p with messages := rest }) found rfl waiting (.receives message rest first) id
  | follows message told =>
    cases message with
    | stop => exact fate_put found rfl told .stops id
    | shutdown => exact fate_put (r := p.stop) found rfl told .shuts id
    | spawn => exact fate_put (r := { p with nextId := p.nextId + 1 }) found rfl told .spawns id
    | status => exact fate_put found rfl told .reports id
  | launches new spawning => exact launch_fate found spawning fresh id
  | takes item rest waiting first =>
    let r : Pool ι := { p with source := { p.source with items := rest } }
    exact fate_put (r := r) found rfl waiting (.takes item rest first) id
  | misses waiting => exact fate_put found rfl waiting .misses id
  | beats waiting => exact fate_put found rfl waiting .beats id
  | finishes item working => exact fate_put found rfl working (.finishes item) id
  | collapses frail => exact fate_put found rfl rfl (.collapses w.phase frail) id
  | leaves cause leaving =>
    exact fate_alone (worker?_retire p w.id id) (.leaves w cause rfl found leaving)

/-- What becomes of a worker in an event. -/
theorem step_fate (fresh : ∀ id ∈ p.pending, id ∉ p.ids) (happened : p.step? event = some q) (id : Nat) :
    Fate p q id event := by
  cases step_cases happened with
  | starts count =>
    refine .rests (fun _ moves => nomatch moves) ?_
    unfold raise
    split <;> rfl
  | numbers place owed found => exact .rests (fun _ moves => nomatch moves) rfl
  | launches place owed new found =>
    have given : new ∈ p.pending :=
      List.mem_append_left _ (List.mem_filterMap.mpr ⟨_, List.mem_of_getElem? found, rfl⟩)
    have absent : new ∉ p.ids := fresh new given
    have after := worker?_launch (p := { p with starts := p.starts.set place ⟨owed, none⟩ }) absent id
    by_cases own : id = new
    · subst own
      exact .setsOut (fun _ moves => nomatch moves) given (worker?_eq_none.mpr absent) (after.trans (if_pos rfl))
    · exact .rests (fun _ moves => nomatch moves) (after.trans (if_neg own))
  | stops => exact .rests (fun _ moves => nomatch moves) rfl
  | sends message room => exact .rests (fun _ moves => nomatch moves) rfl
  | offers item => exact .rests (fun _ moves => nomatch moves) rfl
  | closes => exact .rests (fun _ moves => nomatch moves) rfl
  | moves worker move q found moved => exact moved_fate found fresh moved id

end Pool
end HostSurvey.Control
