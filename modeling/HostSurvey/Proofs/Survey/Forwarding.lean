import HostSurvey.Proofs.Survey.Hosts
import HostSurvey.Survey.Seeds
/-!
# Requests for the zones of drawn hosts

Drawn hosts arrive one after the other, and the forwarder gives each of them to storage. Others give hosts to storage as
well, from seeds and from zones, so an arrival may find its address known.

1. Of the forwarder: it tries the arrivals in their order, and asks for the zone of a host, once, before it tries the
   next one, just if storage has kept the host. This is read off its activity (`forward_course`).
2. Of storage: it keeps a host just if the address was not known when it was tried (`attempts_heard`), and then behind
   the hosts that it has. Those from others are not drawn, so the drawn hosts are the ones that the forwarder has given
   it (`drawn_history`).
3. The main theorem puts the two together.
-/
namespace HostSurvey.Forwarding

open Net Activity

/-! ## What is asked -/

/-- The host that storage is asked to keep. -/
def given? : Exchange → Option Host
  | ⟨.hostAdd host, _⟩ => some host
  | _ => none

/-- The name whose zone was asked for. -/
def requested? : Exchange → Option String
  | ⟨.requestZone name, true⟩ => some name
  | _ => none

/-- The name whose zone an activity is about to ask for. -/
def pending? (now : Activity Unit) : Option String :=
  match now.asks? with
  | some (.requestZone name) => some name
  | _ => none

/-- A host that was given to storage. -/
structure Attempt where
  host : Host
  /-- Whether its address was not known at that moment. -/
  isNew : Bool

/-- The hosts at addresses that were not known. -/
def newHosts (attempts : List Attempt) : List Host :=
  (attempts.filter (·.isNew)).map (·.host)

/-- The host that somebody gives to storage in a step. -/
def attempt? (place : Nat) (c : Crew) (step : Crew.Step) : Option Attempt :=
  match c.exchange? step with
  | some (other, exchange) =>
    if other = place then (given? exchange).map fun host => ⟨host, host.address ∉ c.world.store.known⟩ else none
  | none => none

/-- The hosts that somebody gives to storage in a history, in their order. -/
def attempts (place : Nat) (c : Crew) : List Crew.Step → List Attempt
  | [] => []
  | now :: later => (attempt? place c now).toList ++ attempts place (c.step now) later

/-- A host as it is without a number. -/
def unsaved (host : Host) : Host := { host with id := none }

/-- The hosts of a list that were drawn, without their numbers. -/
def drawnOf (hosts : List Host) : List Host :=
  (hosts.filter (·.source = .generated)).map unsaved

variable {c : Crew} {place : Nat}

theorem attempts_append (first later : List Crew.Step) :
    attempts place c (first ++ later) = attempts place c first ++ attempts place (c.follow first) later := by
  induction first generalizing c with
  | nil => rfl
  | cons now others ih =>
    simp only [List.cons_append, attempts, ih, List.append_assoc]
    rfl

theorem attempts_snoc (history : List Crew.Step) (step : Crew.Step) :
    attempts place c (history ++ [step]) =
      attempts place c history ++ (attempt? place (c.follow history) step).toList := by
  rw [attempts_append]
  exact congrArg (attempts place c history ++ ·) (List.append_nil _)

/-! ## The forwarder -/

/-- How an attempt ended. -/
def ended? : Exchange → Option Attempt
  | ⟨.hostAdd host, .ok _⟩ => some ⟨host, true⟩
  | ⟨.hostAdd host, .error _⟩ => some ⟨host, false⟩
  | _ => none

/-- Somebody takes requests, and storage leaves a host its name. -/
def Regular : Exchange → Prop
  | ⟨.requestZone _, taken⟩ => taken = true
  | ⟨.hostAdd host, .ok stored⟩ => stored.name = host.name
  | _ => True

/-- Arrivals are tried in their order, and the zones of those that are kept are asked for, once each. -/
theorem forward_course {hosts : List Host} {asked : List Exchange} {now : Activity Unit}
    (reached : (forward hosts).Reaches asked now) (regular : ∀ exchange ∈ asked, Regular exchange) :
    (asked.filterMap ended?).map (·.host) <+: hosts ∧
      asked.filterMap requested? ++ (pending? now).toList = (newHosts (asked.filterMap ended?)).map (·.name) := by
  induction hosts generalizing asked with
  | nil =>
    obtain ⟨rfl, rfl⟩ := reaches_done reached
    exact ⟨List.prefix_refl _, rfl⟩
  | cons host rest ih =>
    unfold forward at reached
    rcases reaches_request reached with ⟨rfl, asks⟩ | ⟨given, later, rfl, onward⟩
    · refine ⟨List.nil_prefix, ?_⟩
      simp [pending?, asks, newHosts]
    · obtain ⟨first, others⟩ := List.forall_mem_cons.mp regular
      cases given with
      | error fault =>
        obtain ⟨order, names⟩ := ih onward others
        exact ⟨List.cons_prefix_cons.mpr ⟨rfl, order⟩, names⟩
      | ok stored =>
        have named : stored.name = host.name := first
        dsimp only at onward
        rcases reaches_request onward with ⟨rfl, asks⟩ | ⟨taken, later, rfl, sending⟩
        · refine ⟨List.cons_prefix_cons.mpr ⟨rfl, List.nil_prefix⟩, ?_⟩
          simp [pending?, asks, newHosts, ended?, requested?, named]
        · obtain ⟨rfl, behind⟩ := List.forall_mem_cons.mp others
          obtain ⟨order, names⟩ := ih sending behind
          refine ⟨List.cons_prefix_cons.mpr ⟨rfl, order⟩, ?_⟩
          exact congrArg₂ List.cons named names

/-! ## Storage and the queue of requests -/

section Steps
variable {w : World}

private theorem storing_queue {α : Type} (result : Except Error (α × Store)) :
    (w.storing result).2.takesZoneRequests = w.takesZoneRequests ∧
      (w.storing result).2.zoneRequests = w.zoneRequests := by
  cases result <;> exact ⟨rfl, rfl⟩

/-- A name that is asked for comes behind the others. -/
private theorem answer_queue (r : Request) :
    (World.answer r w).2.takesZoneRequests = w.takesZoneRequests ∧
      (World.answer r w).2.zoneRequests = w.zoneRequests ++ [⟨r, (World.answer r w).1⟩].filterMap requested? := by
  have silent : ∀ {v : World}, v.takesZoneRequests = w.takesZoneRequests ∧ v.zoneRequests = w.zoneRequests →
      v.takesZoneRequests = w.takesZoneRequests ∧ v.zoneRequests = w.zoneRequests ++ [] :=
    fun same => ⟨same.1, same.2.trans (List.append_nil _).symm⟩
  cases r with
  | hostAdd host => exact silent (storing_queue _)
  | zoneAdd transfer => exact silent (storing_queue _)
  | zoneFinish transfer status => exact silent (storing_queue _)
  | cacheAdd key =>
    refine silent ?_
    simp only [World.answer]
    split <;> exact ⟨rfl, rfl⟩
  | requestZone name =>
    cases taken : w.takesZoneRequests with
    | true => simp [World.answer, taken, requested?]
    | false => simp [World.answer, taken, requested?]
  | _ => exact silent ⟨rfl, rfl⟩

private theorem step_queue (step : Crew.Step) :
    (c.step step).world.takesZoneRequests = c.world.takesZoneRequests ∧
      (c.step step).world.zoneRequests =
        c.world.zoneRequests ++ (c.exchange? step).toList.filterMap fun exchange => requested? exchange.2 := by
  cases c.step_does step with
  | asks place r next _ _ said after =>
    rw [said, after]
    exact answer_queue r
  | idles silent _ outside =>
    obtain ⟨directory, servers, cache, now, outside⟩ := outside
    rw [silent, outside]
    simp

/-- Where nothing is given to storage, nothing is tried. -/
private theorem tries_nothing {exchange : Exchange} (elsewhere : ∀ host given, exchange ≠ ⟨.hostAdd host, given⟩) :
    given? exchange = none ∧ ended? exchange = none := by
  obtain ⟨r, given⟩ := exchange
  cases r with
  | hostAdd host => exact absurd rfl (elsewhere host given)
  | _ => exact ⟨rfl, rfl⟩

/-- Storage keeps a host just if its address was not known. -/
private theorem step_attempt (sound : c.world.store.faults = []) (place : Nat) (step : Crew.Step) :
    (attempt? place c step).toList = (Crew.heard place (c.exchange? step).toList).filterMap ended? := by
  have hosting := (step_hosts sound step).1
  unfold attempt?
  generalize c.exchange? step = said at hosting
  cases hosting with
  | @alone said same elsewhere =>
    cases said with
    | none => rfl
    | some saying =>
      obtain ⟨other, exchange⟩ := saying
      obtain ⟨none, silent⟩ := tries_nothing fun host given same => elsewhere other host given (same ▸ rfl)
      by_cases own : other = place
      · simp [own, Crew.heard, none, silent]
      · simp [own, Crew.heard]
  | refused other host known same =>
    by_cases own : other = place
    · simp [own, Crew.heard, given?, ended?, known]
    · simp [own, Crew.heard]
  | kept other host unknown more =>
    by_cases own : other = place
    · simp [own, Crew.heard, given?, ended?, unknown]
    · simp [own, Crew.heard]

private theorem step_regular (sound : c.world.store.faults = []) (taken : c.world.takesZoneRequests = true)
    (step : Crew.Step) : ∀ exchange ∈ c.exchange? step, Regular exchange.2 := by
  intro exchange member
  cases c.step_does step with
  | idles silent _ _ => cases silent.symm.trans member
  | asks place r next _ _ said _ =>
    cases said.symm.trans member
    cases r with
    | hostAdd host =>
      by_cases known : host.address ∈ c.world.store.known
      · simp only [World.answer, World.storing, Store.addHost_known sound known]
        trivial
      · simp only [World.answer, World.storing, Store.addHost_unknown sound known]
        rfl
    | requestZone name =>
      simp only [World.answer, taken]
      rfl
    | _ => trivial

theorem drawnOf_append (first later : List Host) : drawnOf (first ++ later) = drawnOf first ++ drawnOf later := by
  simp [drawnOf]

/-- If nobody else gives it drawn hosts, the drawn hosts that storage keeps in a step are those that are tried. -/
private theorem step_drawn (sound : c.world.store.faults = []) (place : Nat) (step : Crew.Step)
    (foreign : ∀ exchange ∈ c.exchange? step, exchange.1 ≠ place →
      ∀ host ∈ given? exchange.2, host.source ≠ .generated) :
    drawnOf (c.step step).world.store.hosts =
      drawnOf c.world.store.hosts ++ drawnOf (newHosts (attempt? place c step).toList) := by
  have hosting := (step_hosts sound step).1
  unfold attempt?
  generalize c.exchange? step = said at hosting foreign
  cases hosting with
  | @alone said same elsewhere =>
    rw [same]
    cases said with
    | none => exact (List.append_nil _).symm
    | some saying =>
      obtain ⟨other, exchange⟩ := saying
      have none := (tries_nothing fun host given same => elsewhere other host given (same ▸ rfl)).1
      simp [none, newHosts, drawnOf]
  | refused other host known same =>
    rw [same]
    by_cases own : other = place
    · simp [own, given?, known, newHosts, drawnOf]
    · simp [own, newHosts, drawnOf]
  | kept other host unknown more =>
    rw [more, drawnOf_append]
    by_cases own : other = place
    · by_cases drawn : host.source = .generated
      · simp [own, given?, unknown, newHosts, drawnOf, drawn, unsaved]
      · simp [own, given?, unknown, newHosts, drawnOf, drawn]
    · -- Somebody else has given it the host, so it was not drawn.
      have undrawn : host.source ≠ .generated := foreign _ rfl own host rfl
      simp [own, newHosts, drawnOf, undrawn]

end Steps
/-! ## Histories -/

section History
variable {history : List Crew.Step}

/-- What anybody asks for comes to the queue, in the order in which it is asked for. -/
theorem queue_history (history : List Crew.Step) :
    (c.follow history).world.takesZoneRequests = c.world.takesZoneRequests ∧
      (c.follow history).world.zoneRequests =
        c.world.zoneRequests ++ (c.exchanges history).filterMap fun exchange => requested? exchange.2 := by
  induction history using List.reverseRecOn with
  | nil => exact ⟨rfl, (List.append_nil _).symm⟩
  | append_singleton history step ih =>
    obtain ⟨taken, queue⟩ := step_queue (c := c.follow history) step
    rw [Crew.follow_snoc, Crew.exchanges_snoc]
    refine ⟨taken.trans ih.1, ?_⟩
    rw [queue, ih.2, List.filterMap_append, List.append_assoc]

theorem attempts_heard (sound : c.world.store.faults = []) (history : List Crew.Step) :
    attempts place c history = (Crew.heard place (c.exchanges history)).filterMap ended? := by
  induction history using List.reverseRecOn with
  | nil => rfl
  | append_singleton history step ih =>
    rw [attempts_snoc, Crew.exchanges_snoc, Crew.heard_append, List.filterMap_append, ih,
      step_attempt (history_sound sound history) place step]

private theorem regular_history (sound : c.world.store.faults = []) (taken : c.world.takesZoneRequests = true)
    (history : List Crew.Step) : ∀ exchange ∈ c.exchanges history, Regular exchange.2 := by
  induction history using List.reverseRecOn with
  | nil => exact fun _ member => (List.not_mem_nil member).elim
  | append_singleton history step ih =>
    intro exchange member
    rw [Crew.exchanges_snoc] at member
    rcases List.mem_append.mp member with old | new
    · exact ih exchange old
    · have still := (queue_history history).1.trans taken
      exact step_regular (history_sound sound history) still step exchange (Option.mem_toList.mp new)

theorem drawn_history (sound : c.world.store.faults = [])
    (foreign : ∀ exchange ∈ c.exchanges history, exchange.1 ≠ place →
      ∀ host ∈ given? exchange.2, host.source ≠ .generated) :
    drawnOf (c.follow history).world.store.hosts =
      drawnOf c.world.store.hosts ++ drawnOf (newHosts (attempts place c history)) := by
  induction history using List.reverseRecOn with
  | nil => exact (List.append_nil _).symm
  | append_singleton history step ih =>
    rw [Crew.exchanges_snoc] at foreign
    have before := ih fun exchange member => foreign exchange (List.mem_append_left _ member)
    have now := step_drawn (history_sound sound history) place step fun exchange member =>
      foreign exchange (List.mem_append_right _ (Option.mem_toList.mpr member))
    rw [Crew.follow_snoc, now, before, attempts_snoc, List.append_assoc, ← drawnOf_append]
    simp only [newHosts, List.filter_append, List.map_append]

end History

/-! ## The main theorem -/

/-- The names whose zones somebody has asked for. -/
def asksFor (place : Nat) (c : Crew) (history : List Crew.Step) : List String :=
  (Crew.heard place (c.exchanges history)).filterMap requested?

/-- The name whose zone somebody is about to ask for. -/
def nextAsked (place : Nat) (c : Crew) : Option String :=
  c.activities[place]?.bind pending?

/-- What a forwarder has done with its arrivals. -/
structure Forwarded (arrivals : List Host) (place : Nat) (c : Crew) (history : List Crew.Step) : Prop where
  /-- It has given them to storage in their order. -/
  order : (attempts place c history).map (·.host) <+: arrivals
  /-- It has asked for the zones of those whose address was not known then, once for each, in their order. It may be
  about to ask for the last one. -/
  requests : asksFor place c history ++ (nextAsked place (c.follow history)).toList =
    (newHosts (attempts place c history)).map (·.name)
  /-- What anybody asks for is in the queue. -/
  queue : (c.follow history).world.zoneRequests =
    c.world.zoneRequests ++ (c.exchanges history).filterMap fun exchange => requested? exchange.2
  /-- The drawn hosts in storage are those drawn ones whose address was not known then. -/
  drawn : drawnOf (c.follow history).world.store.hosts = drawnOf (newHosts (attempts place c history))
  /-- So if all arrivals are drawn, one request goes with each drawn host in storage. -/
  paired : (∀ host ∈ arrivals, host.source = .generated) →
    (drawnOf (c.follow history).world.store.hosts).map (·.name) =
      asksFor place c history ++ (nextAsked place (c.follow history)).toList
  /-- The hosts in storage stay as they are. -/
  lasts : ∀ later, (c.follow history).world.store.hosts <+: (c.follow (history ++ later)).world.store.hosts

/-- **The zone of each new arrival is asked for once.** In a crew whose storage is empty somebody forwards arrivals, as
long as requests are taken. Whatever the others do, and in whatever order all take their turns, if they give storage no
drawn hosts: the forwarder asks for the zones of just those arrivals whose address was not known when it tried them, in
their order and once each. The drawn hosts in storage are those of them that are drawn, and no host in storage is
changed later. -/
theorem each_new_arrival_is_asked_for_once (c : Crew) (fresh : c.world.store = .empty)
    (taken : c.world.takesZoneRequests = true) (place : Nat) (arrivals : List Host)
    (there : c.activities[place]? = some (forward arrivals)) (history : List Crew.Step)
    (foreign : ∀ exchange ∈ c.exchanges history, exchange.1 ≠ place →
      ∀ host ∈ given? exchange.2, host.source ≠ .generated) : Forwarded arrivals place c history := by
  have sound : c.world.store.faults = [] := by rw [fresh]; rfl
  obtain ⟨now, still, reached⟩ := Crew.reaches_in_history there history
  obtain ⟨order, names⟩ := forward_course reached fun exchange member =>
    regular_history sound taken history _ (Crew.mem_heard.mp member)
  rw [← attempts_heard sound history] at order names
  have requests : asksFor place c history ++ (nextAsked place (c.follow history)).toList =
      (newHosts (attempts place c history)).map (·.name) := by
    rw [nextAsked, still]
    exact names
  have drawn : drawnOf (c.follow history).world.store.hosts = drawnOf (newHosts (attempts place c history)) := by
    rw [drawn_history sound foreign, fresh]
    rfl
  refine ⟨order, requests, (queue_history history).2, drawn, fun all => ?_, fun later => ?_⟩
  · have new : ∀ host ∈ newHosts (attempts place c history), host.source = .generated := by
      intro host member
      obtain ⟨attempt, inside, rfl⟩ := List.mem_map.mp member
      exact all _ (order.subset (List.mem_map_of_mem (List.mem_filter.mp inside).1))
    have whole : (newHosts (attempts place c history)).filter (·.source = .generated) =
        newHosts (attempts place c history) := List.filter_eq_self.mpr (by simpa using new)
    rw [requests, drawn, drawnOf, whole, List.map_map]
    rfl
  · rw [Crew.follow_append]
    exact hosts_last (history_sound sound history) later

/-- Drawn hosts, two of them at one address. -/
private def fourArrivals : List Host :=
  [("ns1.krylon.net.", 16), ("www.krylon.net.", 16), ("mail.krylon.net.", 17), ("db.krylon.net.", 18)].map
    fun (name, last) => ⟨none, .ofOctets [198, 252, 206, last], name, .generated, ⟨0, 0⟩⟩

/-- Drawn hosts are forwarded, and beside it a seed is added at the address of one of them. -/
private def forwardingCrew : Crew where
  world :=
    { names := []
      addresses := []
      store := .empty
      cache := .empty
      directory := { Directory.empty with addresses := fun _ => .ok [.ofOctets [198, 252, 206, 17]] }
      servers := fun _ => .absent
      traces := .off
      now := ⟨0, 0⟩ }
  activities := [forward fourArrivals, sow ["mail.krylon.net"]]

/-- The second arrival and the third one find their addresses known. The zone of the last one is about to be asked
for. -/
theorem two_of_four_arrivals_are_new :
    let history : List Crew.Step := [.turn 1, .turn 0, .turn 1, .turn 1, .turn 0, .turn 1, .turn 0, .turn 0, .turn 0]
    Forwarded fourArrivals 0 forwardingCrew history ∧
      (attempts 0 forwardingCrew history).map (·.isNew) = [true, false, false, true] ∧
      asksFor 0 forwardingCrew history = ["ns1.krylon.net."] ∧
      nextAsked 0 (forwardingCrew.follow history) = some "db.krylon.net." := by
  refine ⟨each_new_arrival_is_asked_for_once _ rfl rfl 0 _ rfl _ ?_, ?_⟩
  · decide
  · decide

end HostSurvey.Forwarding
