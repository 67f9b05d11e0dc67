import HostSurvey.Proofs.Control.Restart
/-!
# Messages that are left over

The messages of a pool wait until somebody takes them, also while the pool is stopped. What waits when it is started
again is there for the workers of the new start. What somebody has taken by then and not followed is followed by
the one that took it, and to follow a message to shut the pool down is to clear the flag.

1. Messages are taken in the order in which they were sent. So those that waited at a start are taken before
   any that are sent later (`receipts_split`).
2. A worker leaves over a message that it took, over the flag, or because it breaks down (`leaves_how`), and the flag
   is cleared by a stop or by a worker that follows a message (`up_or_cleared`, `shut_told`).
3. So a message that was sent before a start counts for those who set out later only if it waited at the start, or if
   it is one that shuts the pool down and somebody had it at hand. Of the first there are at most as many as there is
   room for, and of the others as many as there were workers.
-/
namespace HostSurvey.Control.Pool

variable {ι : Type} {p q : Pool ι} {event : Event ι} {events : List (Event ι)}

/-! ## Room for messages -/

theorem room_step (room : p.messages.length ≤ messageRoom) (happened : p.step? event = some q) :
    q.messages.length ≤ messageRoom := by
  have told := congrArg List.length (step_receipt happened)
  cases sent : event.message? with
  | none =>
    rw [sent] at told
    simp only [Option.toList_none, List.append_nil, List.length_append] at told
    omega
  | some message =>
    cases step_cases happened with
    | sends _ free =>
      rw [List.length_append]
      exact free
    | _ => cases sent

theorem room_run (room : p.messages.length ≤ messageRoom) (ran : p.run? events = some q) :
    q.messages.length ≤ messageRoom := by
  induction events generalizing p with
  | nil =>
    cases ran
    exact room
  | cons event rest ih =>
    obtain ⟨r, happened, later⟩ := Option.bind_eq_some_iff.mp ran
    exact ih (room_step room happened) later

/-! ## Old messages and new ones -/

/-- Of the messages that were taken since a start, those that waited then, each with the worker that took it.
Messages are taken in the order in which they were sent, so these are the first ones. -/
def oldReceipts (p : Pool ι) (deeds : List Deed) : List (Nat × Message) :=
  (receipts deeds).take p.messages.length

/-- The messages that were sent and taken since a start. -/
def newReceipts (p : Pool ι) (deeds : List Deed) : List (Nat × Message) :=
  (receipts deeds).drop p.messages.length

theorem receipts_split (ran : p.run? events = some q) :
    (oldReceipts p (p.deeds events)).map Prod.snd <+: p.messages ∧
      (newReceipts p (p.deeds events)).map Prod.snd <+: events.filterMap Event.message? := by
  have told := receipts_run ran
  rw [oldReceipts, newReceipts, List.map_take, List.map_drop]
  rcases List.append_eq_append_iff.mp told with ⟨waiting, same, _⟩ | ⟨sent, same, rest⟩
  · -- Not all that waited were taken.
    have short : ((receipts (p.deeds events)).map Prod.snd).length ≤ p.messages.length := by
      rw [same, List.length_append]
      omega
    rw [List.take_of_length_le short, List.drop_of_length_le short]
    exact ⟨⟨waiting, same.symm⟩, List.nil_prefix⟩
  · rw [same, List.take_left, List.drop_left]
    exact ⟨List.prefix_refl _, ⟨_, rest.symm⟩⟩

/-! ## Who leaves, and why -/

/-- Whoever has a message at hand is there. -/
theorem atHand_there {id : Nat} {message : Message} (taken : (id, message) ∈ p.atHand) : id ∈ p.ids := by
  obtain ⟨worker, member, order⟩ := List.mem_filterMap.mp taken
  obtain ⟨_, _, same⟩ := Option.map_eq_some_iff.mp order
  cases same
  exact List.mem_map.mpr ⟨worker, member, rfl⟩

/-- Who leaves over a message has dealt with it. -/
private theorem exit_handled {deeds : List Deed} {id : Nat} {cause : Cause} {message : Message}
    (orders : cause.message? = some message) (left : (id, cause) ∈ exits deeds) : (id, message) ∈ handled deeds := by
  obtain ⟨deed, member, out⟩ := List.mem_filterMap.mp left
  refine List.mem_filterMap.mpr ⟨deed, member, ?_⟩
  cases deed with
  | left =>
    cases out
    simp [Deed.handled?, orders]
  | _ => cases out

/-- A worker that was not there leaves over a message that it has taken since, over the flag, or because it breaks
down. -/
theorem leaves_how (numbered : p.Numbered) (ran : p.run? events = some q) {id : Nat} {cause : Cause}
    (absent : id ∉ p.ids) (left : (id, cause) ∈ exits (p.deeds events)) :
    (id, .stop) ∈ receipts (p.deeds events) ∨ (id, .shutdown) ∈ receipts (p.deeds events) ∨
      (id, .lapsed) ∈ exits (p.deeds events) ∨ (id, .collapsed) ∈ exits (p.deeds events) := by
  have received : ∀ {message : Message}, cause.message? = some message →
      (id, message) ∈ receipts (p.deeds events) := by
    intro message orders
    have dealt := (dealt_run numbered ran).mem_iff.mpr (List.mem_append_left _ (exit_handled orders left))
    exact (List.mem_append.mp dealt).resolve_right fun taken => absent (atHand_there taken)
  cases cause with
  | stopped => exact .inl (received rfl)
  | shut => exact .inr (.inl (received rfl))
  | lapsed => exact .inr (.inr (.inl left))
  | collapsed => exact .inr (.inr (.inr left))

private theorem shut_follows {id : Nat} (means : p.deed? event = some (.shut id)) :
    ∃ worker, p.worker? id = some worker ∧ worker.phase = .told .shutdown := by
  cases deed_means means with
  | shuts worker _ found told => exact ⟨worker, found, told⟩

/-- Whoever clears the flag was told to at first, or has taken a message since that says so. -/
theorem shut_told (numbered : p.Numbered) {id : Nat} (shut : .shut id ∈ p.deeds events) :
    (id, .shutdown) ∈ receipts (p.deeds events) ∨
      ∃ worker, p.worker? id = some worker ∧ worker.phase = .told .shutdown := by
  obtain ⟨first, event, later, r, rfl, ran, means⟩ := deeds_mem shut
  obtain ⟨worker, found, told⟩ := shut_follows means
  have busy : worker.phase ≠ .looking := by simp [told]
  rcases phase_turned numbered ran found busy with ⟨v, was, same⟩ | since
  · exact .inr ⟨v, was, same.trans told⟩
  · left
    obtain ⟨before, after, move, s, ⟨number, phase, idle⟩, rfl, reached, was, turn⟩ := since
    rw [told] at turn
    cases turn with
    | receives _ rest waits =>
      have takes : s.deed? (.move id .receive) = some (.received id .shutdown) := by simp [deed?, was, waits]
      rw [List.append_assoc, deeds_append p before _ reached]
      refine List.mem_filterMap.mpr ⟨.received id .shutdown, List.mem_append_right _ ?_, rfl⟩
      exact List.mem_append_left _ (Option.mem_toList.mpr takes)

/-- A flag that is up stays up, unless the pool is stopped or a worker clears it. -/
theorem up_or_cleared (running : p.isRunning = true) (ran : p.run? events = some q) :
    q.isRunning = true ∨ .stop ∈ events ∨ ∃ id, .shut id ∈ p.deeds events := by
  by_contra neither
  obtain ⟨down, uncleared⟩ := not_or.mp neither
  obtain ⟨unstopped, unshut⟩ := not_or.mp uncleared
  exact down (running_run running unstopped (not_exists.mp unshut) ran).running

/-! ## The main theorem -/

/-- What messages do after a pool `p` was started, by when they were sent and taken. `earlier` are the deeds before
the start, and `deeds` those since. -/
structure Inherits (p q : Pool ι) (before after : List (Event ι)) (earlier deeds : List Deed) : Prop where
  /-- What waits at the start is what was sent until then and nobody has taken. -/
  waiting : (receipts earlier).map Prod.snd ++ p.messages = before.filterMap Event.message?
  few : p.messages.length ≤ messageRoom
  /-- What was taken until then has been dealt with, or its worker has it at hand. -/
  dealt : (receipts earlier).Perm (handled earlier ++ p.atHand)
  /-- Every message that is taken since the start is an old one or a new one. -/
  received : receipts deeds = oldReceipts p deeds ++ newReceipts p deeds
  /-- The old ones are those that waited, each taken at most once and in the order in which they were sent. -/
  old : (oldReceipts p deeds).map Prod.snd <+: p.messages
  /-- The new ones were sent after the start. -/
  new : (newReceipts p deeds).map Prod.snd <+: after.filterMap Event.message?
  /-- If none waited, only new ones are taken. -/
  clean : p.messages = [] → receipts deeds = newReceipts p deeds
  /-- New ones are taken when no old one waits. -/
  oldFirst : newReceipts p deeds ≠ [] → (oldReceipts p deeds).map Prod.snd = p.messages
  /-- A worker that sets out after the start and leaves has taken one of them, or found the flag cleared, or broken
  down. What was at hand at the start is with others. -/
  ends : ∀ id ∈ arrivals deeds, id ∉ q.ids →
    (id, .stop) ∈ receipts deeds ∨ (id, .shutdown) ∈ receipts deeds ∨ (id, .lapsed) ∈ exits deeds ∨
      (id, .collapsed) ∈ exits deeds
  others : ∀ id ∈ arrivals deeds, ∀ message, (id, message) ∉ p.atHand
  /-- A flag that such a worker finds cleared was cleared by a stop since the start, or by a worker. -/
  lapses : ∀ id ∈ arrivals deeds, (id, .lapsed) ∈ exits deeds → .stop ∈ after ∨ ∃ other, .shut other ∈ deeds
  /-- So was a flag that is down in the end. -/
  clears : q.isRunning = false → .stop ∈ after ∨ ∃ id, .shut id ∈ deeds
  /-- A worker that clears the flag was told to by one of them, or by a message that it had at hand at the start. -/
  shuts : ∀ id, .shut id ∈ deeds → (id, .shutdown) ∈ receipts deeds ∨
    ∃ worker, p.worker? id = some worker ∧ worker.phase = .told .shutdown

/-- Who sets out after a start was not there. -/
private theorem arrived_absent {earlier deeds : List Deed} (before : Balanced p earlier)
    (now : Balanced q (earlier ++ deeds)) {id : Nat} (arrived : id ∈ arrivals deeds) : id ∉ p.ids := by
  intro there
  have once := (List.nodup_append.mp now.distinct).1
  rw [arrivals, List.filterMap_append] at once
  rw [before.present] at there
  exact (List.nodup_append.mp once).2.2 id (List.mem_of_mem_filter there) id arrived rfl

/-- Who finds the flag cleared after a start finds it so because of a stop or a worker. -/
private theorem lapse_cleared (numbered : p.Numbered) (running : p.isRunning = true) {id : Nat} (absent : id ∉ p.ids)
    (left : (id, .lapsed) ∈ exits (p.deeds events)) : .stop ∈ events ∨ ∃ other, .shut other ∈ p.deeds events := by
  rcases exit_turned numbered left with ⟨worker, found, _⟩ | since
  · exact absurd (worker?_mem_ids found) absent
  · obtain ⟨first, later, move, r, ⟨number, phase, idle⟩, rfl, reached, found, turn⟩ := since
    cases turn with
    | lapses cleared =>
      rw [deeds_append p first _ reached]
      rcases up_or_cleared running reached with up | stops | ⟨other, shut⟩
      · cases cleared.symm.trans up
      · exact .inl (List.mem_append_left _ stops)
      · exact .inr ⟨other, List.mem_append_left _ shut⟩

/-- **A message counts for a later start only if it waits for it or is at hand.** A pool that was stopped is started.
Of the messages that were sent before, those that were dealt with by then make no difference any more. Those that wait
are taken by whoever comes first, in their order and before any that are sent later. So a stopping message of an
earlier time ends a worker that sets out after the start only if it waited at the start; and it clears the flag only
if it waited, or if it is a message to shut down that a worker had taken and was about to follow. -/
theorem only_waiting_messages_are_inherited (tells : Bool) (before after : List (Event ι)) (count : Nat)
    (began : (fresh tells).run? before = some p) (cleared : p.isRunning = false)
    (ran : p.run? (.start count :: after) = some q) :
    Inherits p q before after ((fresh tells : Pool ι).deeds before) (p.deeds (.start count :: after)) := by
  have numbered : p.Numbered := numbered_run (numbered_fresh tells) began
  have books := balanced_run (balanced_fresh tells) began
  have booksNow := balanced_run books ran
  have raised : (p.raise count).isRunning = true := by simp [raise, cleared]
  have split := receipts_split ran
  have absent : ∀ id ∈ arrivals (p.deeds (.start count :: after)), id ∉ p.ids :=
    fun id arrived => arrived_absent books booksNow arrived
  constructor
  case waiting => exact receipts_run began
  case few => exact room_run (Nat.zero_le _) began
  case dealt => simpa [atHand, held, fresh] using dealt_run (numbered_fresh tells) began
  case received => exact (List.take_append_drop _ _).symm
  case old => exact split.1
  case new => exact split.2
  case clean =>
    intro none
    rw [newReceipts, none, List.length_nil, List.drop_zero]
  case oldFirst =>
    intro some_
    have long : p.messages.length < (receipts (p.deeds (.start count :: after))).length := by
      by_contra short
      exact some_ (List.drop_of_length_le (Nat.le_of_not_lt short))
    refine split.1.eq_of_length ?_
    rw [List.length_map, oldReceipts, List.length_take, Nat.min_eq_left (Nat.le_of_lt long)]
  case ends =>
    intro id arrived gone
    obtain ⟨cause, left⟩ := (stays_or_leaves books booksNow (.inr arrived)).resolve_left gone
    exact leaves_how numbered ran (absent id arrived) left
  case others => exact fun id arrived message taken => absent id arrived (atHand_there taken)
  case lapses =>
    intro id arrived left
    have still : (p.raise count).Numbered := numbered_raise numbered count
    have new : id ∉ (p.raise count).ids := by
      have same : (p.raise count).ids = p.ids := by simp [raise, cleared, ids]
      rw [same]
      exact absent id arrived
    exact lapse_cleared still raised new left
  case clears =>
    intro down
    refine (up_or_cleared raised ran).resolve_left fun up => ?_
    cases down.symm.trans up
  case shuts => exact fun id shut => shut_told numbered shut

/-- Three messages for two workers. One follows the first message and shuts the pool down, and the other one takes
the second message, which says the same. -/
private def shutEarly : List (Event Nat) :=
  [.start 2, .number 0, .launch 0, .number 0, .launch 0, .move 1 .look, .move 2 .look, .send .shutdown,
    .send .shutdown, .send .stop, .send .status, .move 1 .receive, .move 2 .receive, .move 1 .follow, .move 1 .leave]

private def shutPool : Pool Nat :=
  ⟨false, 1, 3, [.finished], [⟨2, .told .shutdown, false⟩], [.stop, .status], .empty true⟩

/-- Of two new workers one takes the old message to stop. The other one takes the other old message and looks at the
flag after the old worker has cleared it again, and a message that is sent now waits for nobody. -/
private def newcomers : List (Event Nat) :=
  [.number 1, .launch 1, .number 1, .launch 1, .move 3 .look, .move 4 .look, .move 3 .receive, .send .spawn,
    .move 4 .receive, .move 4 .follow, .move 2 .follow, .move 4 .look, .move 3 .follow, .move 2 .leave, .move 4 .leave]

private def mannedPool : Pool Nat :=
  ⟨false, 1, 5, [.finished, .finished], [⟨3, .leaving .stopped, false⟩], [.spawn], .empty true⟩

theorem two_messages_wait_for_two_workers :
    shutPool.isRunning = false ∧
      Inherits shutPool mannedPool shutEarly newcomers ((fresh true : Pool Nat).deeds shutEarly)
        (shutPool.deeds (.start 2 :: newcomers)) :=
  ⟨rfl, only_waiting_messages_are_inherited true shutEarly newcomers 2 rfl rfl rfl⟩

/-- A worker is told twice to shut the pool down. -/
private def shutTwice : List (Event Nat) :=
  [.start 1, .number 0, .launch 0, .move 1 .look, .send .shutdown, .send .shutdown, .move 1 .receive,
    .move 1 .follow, .move 1 .leave]

private def shutOnce : Pool Nat := ⟨false, 0, 2, [.finished], [], [.shutdown], .empty true⟩

private def newcomer : List (Event Nat) :=
  [.number 1, .launch 1, .move 2 .look, .move 2 .receive, .move 2 .follow, .move 2 .leave]

private def shutAgain : Pool Nat := ⟨false, 0, 3, [.finished, .finished], [], [], .empty true⟩

/-- So the second message ends the worker of the next start and clears its flag, although nobody stops the pool and
nothing is sent after that start. -/
theorem a_message_outlives_its_run :
    (fresh true).run? shutTwice = some shutOnce ∧ shutOnce.isRunning = false ∧
      shutOnce.run? (.start 1 :: newcomer) = some shutAgain ∧
      .stop ∉ newcomer ∧ newcomer.filterMap Event.message? = [] ∧
      2 ∈ arrivals (shutOnce.deeds (.start 1 :: newcomer)) ∧
      (2, .shutdown) ∈ receipts (shutOnce.deeds (.start 1 :: newcomer)) ∧
      2 ∉ shutAgain.ids ∧ shutAgain.isRunning = false :=
  ⟨rfl, rfl, rfl, by decide, rfl, by decide, by decide, by decide, rfl⟩

end HostSurvey.Control.Pool
