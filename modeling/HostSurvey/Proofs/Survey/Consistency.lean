import HostSurvey.Proofs.Survey.Storage
import HostSurvey.Survey.Tables
import Mathlib.Data.List.Basic
/-!
# The tables stay consistent

The index by address says again what the list of hosts says, one counter serves three kinds of records, and each
call can fail half-way. What holds the tables together nevertheless is read off the calls in three steps.

1. `serve_served` says once what a call does: it keeps one record under the next number, or it puts a finished
   transfer in the place of the one of its zone, or it fails and leaves the tables alone.
2. `Consistent` ties the tables to the calls that led to them. Each call keeps it (`consistent_step`), so every
   list of calls does (`consistent_run`).
3. Tables and a store answer alike (`serveAll_mirrors`): the index is of no account for what callers see.
-/
namespace HostSurvey

open Net

theorem Keyed.lookup_insert {κ ν : Type} [DecidableEq κ] (table : Keyed κ ν) (key other : κ) (value : ν) :
    (table.insert key value).lookup other = if other = key then some value else table.lookup other := by
  by_cases same : other = key
  · simp [Keyed.insert, same]
  · rw [Keyed.insert, List.lookup_cons, beq_false_of_ne same, if_neg same]
    exact Keyed.lookup_others table same

namespace Tables

variable {t u : Tables} {σ α : Type}

/-! ## What calls do -/

private theorem get_run (call : σ × Tables → Call σ α) (s : σ × Tables) :
    (get >>= call : Call σ α).run s = (call s).run s := rfl

theorem hostAdd_run (host : Host) (t : Tables) :
    hostAdd.run (host, t) =
      if t.hostExists host.address then
        (.error (.storage ("host " ++ host.address.text ++ " is already known")), host, t)
      else
        (.ok (t.lastId + 1), { host with id := some (t.lastId + 1) }, { t with
          hosts := t.hosts ++ [{ host with id := some (t.lastId + 1) }]
          byAddress := t.byAddress.insert host.address (t.lastId + 1)
          lastId := t.lastId + 1 }) := by
  rw [hostAdd, get_run]
  dsimp only
  cases t.hostExists host.address <;> rfl

theorem portAdd_run (outcome : ScanOutcome) (t : Tables) :
    portAdd.run (outcome, t) =
      match outcome.host.id with
      | none =>
        (.error (.storage ("cannot record port " ++ toString outcome.port.toNat ++ " of unsaved host " ++
          outcome.host.address.text)), outcome, t)
      | some host => (.ok (), outcome, { t with
          ports := t.ports.insert host (t.portGetByHost host ++
            [⟨some (t.lastId + 1), host, outcome.port, outcome.tried, outcome.banner, outcome.error⟩])
          lastId := t.lastId + 1 }) := by
  rw [portAdd, get_run]
  dsimp only
  cases outcome.host.id <;> rfl

theorem zoneAdd_run (transfer : ZoneTransfer) (t : Tables) :
    zoneAdd.run (transfer, t) =
      if (t.zoneGetByName transfer.zone).isSome then
        (.error (.storage ("zone " ++ transfer.zone ++ " was already attempted")), transfer, t)
      else
        (.ok (t.lastId + 1), { transfer with id := some (t.lastId + 1) }, { t with
          zones := t.zones.insert transfer.zone { transfer with id := some (t.lastId + 1) }
          lastId := t.lastId + 1 }) := by
  rw [zoneAdd, get_run]
  dsimp only
  cases (t.zoneGetByName transfer.zone).isSome <;> rfl

theorem zoneFinish_run (transfer : ZoneTransfer) (status : ZoneStatus) (now : Moment) (t : Tables) :
    (zoneFinish status now).run (transfer, t) =
      if (t.zoneGetByName transfer.zone).isSome then
        (.ok (), transfer.finish status now,
          { t with zones := t.zones.insert transfer.zone (transfer.finish status now) })
      else (.error (.storage ("unknown zone " ++ transfer.zone)), transfer.finish status now, t) := by
  have finished : (zoneFinish status now).run (transfer, t) =
      (if (t.zoneGetByName transfer.zone).isSome then
        onTables fun t => { t with zones := t.zones.insert transfer.zone (transfer.finish status now) }
      else throw (.storage ("unknown zone " ++ transfer.zone)) : Call ZoneTransfer Unit).run
        (transfer.finish status now, t) := rfl
  rw [finished]
  cases (t.zoneGetByName transfer.zone).isSome <;> rfl

end Tables

/-- What the caller has in hand after a call that failed. -/
def Change.left : Change → Object
  | .hostAdd host => .host host
  | .portAdd outcome => .outcome outcome
  | .zoneAdd transfer => .transfer transfer
  | .zoneFinish transfer status now => .transfer (transfer.finish status now)

/-- What the caller has in hand after a call that kept it under a number. -/
def Change.kept (id : RecordId) : Change → Object
  | .hostAdd host => .host { host with id := some id }
  | .portAdd outcome => .outcome outcome
  | .zoneAdd transfer => .transfer { transfer with id := some id }
  | .zoneFinish transfer status now => .transfer (transfer.finish status now)

namespace Tables

variable {t u : Tables}

/-- What a call does to tables. -/
inductive Served (t : Tables) : Change → Reply → Tables → Prop where
  | hostAdded {host : Host} (unknown : t.hostExists host.address = false) :
    Served t (.hostAdd host)
      ⟨.ok (some (t.lastId + 1)), .host { host with id := some (t.lastId + 1) }⟩
      { t with
        hosts := t.hosts ++ [{ host with id := some (t.lastId + 1) }]
        byAddress := t.byAddress.insert host.address (t.lastId + 1)
        lastId := t.lastId + 1 }
  | portAdded {outcome : ScanOutcome} {host : RecordId} (named : outcome.host.id = some host) :
    Served t (.portAdd outcome) ⟨.ok (some (t.lastId + 1)), .outcome outcome⟩
      { t with
        ports := t.ports.insert host (t.portGetByHost host ++
          [⟨some (t.lastId + 1), host, outcome.port, outcome.tried, outcome.banner, outcome.error⟩])
        lastId := t.lastId + 1 }
  | zoneAdded {transfer : ZoneTransfer} (unknown : (t.zoneGetByName transfer.zone).isSome = false) :
    Served t (.zoneAdd transfer)
      ⟨.ok (some (t.lastId + 1)), .transfer { transfer with id := some (t.lastId + 1) }⟩
      { t with
        zones := t.zones.insert transfer.zone { transfer with id := some (t.lastId + 1) }
        lastId := t.lastId + 1 }
  | zoneFinished {transfer : ZoneTransfer} {status : ZoneStatus} {now : Moment}
    (known : (t.zoneGetByName transfer.zone).isSome = true) :
    Served t (.zoneFinish transfer status now) ⟨.ok none, .transfer (transfer.finish status now)⟩
      { t with zones := t.zones.insert transfer.zone (transfer.finish status now) }
  | failed {call : Change} {e : Error} : Served t call ⟨.error e, call.left⟩ t

theorem serve_served (t : Tables) (call : Change) : Served t call (t.serve call).1 (t.serve call).2 := by
  cases call with
  | hostAdd host =>
    simp only [serve, hostAdd_run]
    split
    · exact .failed
    · rename_i unknown
      exact .hostAdded (eq_false_of_ne_true unknown)
  | portAdd outcome =>
    simp only [serve, portAdd_run]
    cases named : outcome.host.id with
    | none => exact .failed
    | some host => exact .portAdded named
  | zoneAdd transfer =>
    simp only [serve, zoneAdd_run]
    split
    · exact .failed
    · rename_i unknown
      exact .zoneAdded (eq_false_of_ne_true unknown)
  | zoneFinish transfer status now =>
    simp only [serve, zoneFinish_run]
    split
    · rename_i known
      exact .zoneFinished known
    · exact .failed

end Tables

/-! ## What calls have left behind -/

/-- A call together with what came of it. -/
abbrev Entry := Change × Reply

namespace Entry

/-- The number that was given out. -/
def number? (entry : Entry) : Option RecordId :=
  match entry.2.result with
  | .ok number => number
  | .error _ => none

/-- The host that was kept. -/
def host? (entry : Entry) : Option Host :=
  match entry.1, entry.number? with
  | .hostAdd host, some id => some { host with id := some id }
  | _, _ => none

/-- The row that was kept of a tried port. -/
def port? (entry : Entry) : Option Port :=
  match entry.1, entry.number? with
  | .portAdd outcome, some id => outcome.host.id.map fun host =>
    ⟨some id, host, outcome.port, outcome.tried, outcome.banner, outcome.error⟩
  | _, _ => none

end Entry

namespace Tables

variable {t u : Tables} {history : List Entry}

/-- Tables to which some calls have led. -/
structure Consistent (history : List Entry) (t : Tables) : Prop where
  /-- The hosts are those that were added, in this order. -/
  hosts : t.hosts = history.filterMap Entry.host?
  /-- No two of them have the same address. -/
  addresses : (t.hosts.map (·.address)).Nodup
  /-- The index has exactly their addresses, each with the number of its host. -/
  index : ∀ address id, t.byAddress.lookup address = some id ↔
    ∃ host ∈ t.hosts, host.address = address ∧ host.id = some id
  /-- Who got a number has it in hand. -/
  handed : ∀ entry ∈ history, ∀ id, entry.number? = some id → entry.2.object = entry.1.kept id
  /-- The rows of a host are those that were added for it, in this order. -/
  ports : ∀ host, t.portGetByHost host = (history.filterMap Entry.port?).filter (·.hostId = host)
  /-- The numbers rise over all kinds of records. -/
  rising : (history.filterMap Entry.number?).Pairwise (· < ·)
  /-- The counter is not below them. -/
  below : ∀ id ∈ history.filterMap Entry.number?, id ≤ t.lastId

theorem consistent_empty : Consistent [] empty :=
  ⟨rfl, .nil, by simp [empty], by simp, fun _ => rfl, .nil, by simp⟩

/-- Every host got a number when it was added. -/
theorem Consistent.identified (consistent : Consistent history t) {host : Host} (member : host ∈ t.hosts) :
    host.id.isSome := by
  rw [consistent.hosts] at member
  obtain ⟨entry, _, kept⟩ := List.mem_filterMap.mp member
  unfold Entry.host? at kept
  split at kept
  · cases kept
    rfl
  · cases kept

/-- The index knows an address if there is a host at it. -/
theorem Consistent.hostExists_iff (consistent : Consistent history t) (address : Address) :
    t.hostExists address = true ↔ ∃ host ∈ t.hosts, host.address = address := by
  rw [hostExists, Option.isSome_iff_exists]
  constructor
  · rintro ⟨id, found⟩
    obtain ⟨host, member, placed, _⟩ := (consistent.index address id).mp found
    exact ⟨host, member, placed⟩
  · rintro ⟨host, member, placed⟩
    obtain ⟨id, named⟩ := Option.isSome_iff_exists.mp (consistent.identified member)
    exact ⟨id, (consistent.index address id).mpr ⟨host, member, placed, named⟩⟩

private theorem handed_next (consistent : Consistent history t) {entry : Entry}
    (handed : ∀ id, entry.number? = some id → entry.2.object = entry.1.kept id) :
    ∀ other ∈ history ++ [entry], ∀ id, other.number? = some id → other.2.object = other.1.kept id := by
  intro other member
  rcases List.mem_append.mp member with old | new
  · exact consistent.handed other old
  · rw [List.mem_singleton.mp new]
    exact handed

/-- The next number is above those that were given out. -/
private theorem rising_next (consistent : Consistent history t) (entry : Entry)
    (numbered : entry.number? = some (t.lastId + 1)) :
    ((history ++ [entry]).filterMap Entry.number?).Pairwise (· < ·) ∧
      ∀ id ∈ (history ++ [entry]).filterMap Entry.number?, id ≤ t.lastId + 1 := by
  rw [List.filterMap_append, List.filterMap_cons_some numbered, List.filterMap_nil]
  constructor
  · refine List.pairwise_append.mpr ⟨consistent.rising, List.pairwise_singleton _ _, ?_⟩
    intro id old next new
    rw [List.mem_singleton.mp new]
    exact Int.lt_add_one_of_le (consistent.below id old)
  · intro id member
    rcases List.mem_append.mp member with old | new
    · exact Int.le_of_lt (Int.lt_add_one_of_le (consistent.below id old))
    · exact Int.le_of_eq (List.mem_singleton.mp new)

/-- An entry that gives out no number adds nothing. -/
private theorem consistent_unnumbered (consistent : Consistent history t) {entry : Entry}
    (unnumbered : entry.number? = none) (hosts : u.hosts = t.hosts) (index : u.byAddress = t.byAddress)
    (ports : u.ports = t.ports) (last : u.lastId = t.lastId) : Consistent (history ++ [entry]) u := by
  have noHost : entry.host? = none := by
    unfold Entry.host?
    rw [unnumbered]
    split <;> simp_all
  have noPort : entry.port? = none := by
    unfold Entry.port?
    rw [unnumbered]
    split <;> simp_all
  refine ⟨?_, ?_, ?_, handed_next consistent (by simp [unnumbered]), ?_, ?_, ?_⟩
  · rw [hosts, consistent.hosts, List.filterMap_append, List.filterMap_cons_none noHost, List.filterMap_nil,
      List.append_nil]
  · rw [hosts]
    exact consistent.addresses
  · rw [hosts, index]
    exact consistent.index
  · intro host
    have before := consistent.ports host
    rw [portGetByHost] at before ⊢
    rw [ports, before, List.filterMap_append, List.filterMap_cons_none noPort, List.filterMap_nil,
      List.append_nil]
  · rw [List.filterMap_append, List.filterMap_cons_none unnumbered, List.filterMap_nil, List.append_nil]
    exact consistent.rising
  · rw [List.filterMap_append, List.filterMap_cons_none unnumbered, List.filterMap_nil, List.append_nil, last]
    exact consistent.below

theorem consistent_step (consistent : Consistent history t) {call : Change} {reply : Reply}
    (served : Served t call reply u) : Consistent (history ++ [(call, reply)]) u := by
  cases served with
  | @hostAdded host unknown =>
    obtain ⟨rising, below⟩ := rising_next consistent (.hostAdd host, ⟨.ok (some (t.lastId + 1)), _⟩) rfl
    have absent : ∀ other ∈ t.hosts, other.address ≠ host.address := by
      intro other member same
      have known := (consistent.hostExists_iff host.address).mpr ⟨other, member, same⟩
      rw [unknown] at known
      cases known
    refine ⟨?_, ?_, ?_, handed_next consistent (by rintro id ⟨⟩; rfl), ?_, rising, below⟩
    · rw [List.filterMap_append, ← consistent.hosts]
      rfl
    · rw [List.map_append]
      refine List.nodup_append.mpr ⟨consistent.addresses, by simp, ?_⟩
      intro address old other new
      obtain ⟨before, member, rfl⟩ := List.mem_map.mp old
      rw [List.mem_singleton.mp new]
      exact absent before member
    · intro address id
      rw [Keyed.lookup_insert]
      split
      · rename_i same
        subst same
        constructor
        · rintro ⟨⟩
          exact ⟨_, List.mem_append_right _ List.mem_cons_self, rfl, rfl⟩
        · rintro ⟨other, member, placed, named⟩
          rcases List.mem_append.mp member with old | new
          · exact absurd placed (absent other old)
          · rw [List.mem_singleton.mp new] at named
            exact named
      · rename_i different
        rw [consistent.index]
        constructor
        · rintro ⟨other, member, found⟩
          exact ⟨other, List.mem_append_left _ member, found⟩
        · rintro ⟨other, member, placed, named⟩
          rcases List.mem_append.mp member with old | new
          · exact ⟨other, old, placed, named⟩
          · rw [List.mem_singleton.mp new] at placed
            exact absurd placed.symm different
    · intro other
      rw [List.filterMap_append, List.filter_append, ← consistent.ports other]
      exact (List.append_nil _).symm
  | @portAdded outcome host named =>
    obtain ⟨rising, below⟩ := rising_next consistent (.portAdd outcome, ⟨.ok (some (t.lastId + 1)), _⟩) rfl
    refine ⟨?_, consistent.addresses, consistent.index, handed_next consistent (by rintro id ⟨⟩; rfl), ?_,
      rising, below⟩
    · rw [List.filterMap_append, ← consistent.hosts]
      exact (List.append_nil _).symm
    · intro other
      have kept : Entry.port? (.portAdd outcome, ⟨.ok (some (t.lastId + 1)), .outcome outcome⟩) =
          some ⟨some (t.lastId + 1), host, outcome.port, outcome.tried, outcome.banner, outcome.error⟩ := by
        simp [Entry.port?, Entry.number?, named]
      rw [List.filterMap_append, List.filterMap_cons_some kept, List.filterMap_nil, List.filter_append,
        ← consistent.ports other, portGetByHost, Keyed.lookup_insert]
      by_cases same : other = host
      · simp [same]
      · simp [same, Ne.symm same, portGetByHost]
  | zoneAdded _ =>
    obtain ⟨rising, below⟩ := rising_next consistent (.zoneAdd _, ⟨.ok (some (t.lastId + 1)), _⟩) rfl
    refine ⟨?_, consistent.addresses, consistent.index, handed_next consistent (by rintro id ⟨⟩; rfl), ?_,
      rising, below⟩
    · rw [List.filterMap_append, ← consistent.hosts]
      exact (List.append_nil _).symm
    · intro other
      rw [List.filterMap_append, List.filter_append, ← consistent.ports other]
      exact (List.append_nil _).symm
  | zoneFinished _ => exact consistent_unnumbered consistent rfl rfl rfl rfl rfl
  | failed => exact consistent_unnumbered consistent rfl rfl rfl rfl rfl

theorem consistent_run (consistent : Consistent history t) (calls : List Change) :
    Consistent (history ++ (t.serveAll calls).1) (t.serveAll calls).2 := by
  induction calls generalizing t history with
  | nil => simpa [serveAll] using consistent
  | cons call rest ih =>
    have later := ih (consistent_step consistent (serve_served t call))
    simpa [serveAll] using later

/-- A call adds hosts behind the others, if it adds any. -/
private theorem serve_hosts {call : Change} {reply : Reply} (served : Served t call reply u) :
    t.hosts <+: u.hosts := by
  cases served with
  | hostAdded _ => exact List.prefix_append _ _
  | _ => exact List.prefix_refl _

theorem serveAll_hosts (t : Tables) (calls : List Change) : t.hosts <+: (t.serveAll calls).2.hosts := by
  induction calls generalizing t with
  | nil => exact List.prefix_refl _
  | cons call rest ih => exact (serve_hosts (serve_served t call)).trans (ih (t.serve call).2)

/-- A call that fails leaves the tables alone, and puts no number into what its caller has in hand. -/
theorem serve_failed {call : Change} {e : Error} (failed : (t.serve call).1.result = .error e) :
    (t.serve call).2 = t ∧ (t.serve call).1.object = call.left := by
  have served := serve_served t call
  generalize (t.serve call).1 = reply at served failed ⊢
  generalize (t.serve call).2 = u at served ⊢
  cases served with
  | failed => exact ⟨rfl, rfl⟩
  | _ => cases failed

end Tables

/-! ## Tables and stores -/

namespace Store

/-- Answers one call. -/
def serve (s : Store) : Change → Reply × Store
  | .hostAdd host =>
    match s.addHost host with
    | .ok (given, s) => (⟨.ok given.id, .host given⟩, s)
    | .error e => (⟨.error e, .host host⟩, s)
  | .portAdd outcome =>
    match s.addPort outcome with
    | .ok s => (⟨.ok (some s.lastId), .outcome outcome⟩, s)
    | .error e => (⟨.error e, .outcome outcome⟩, s)
  | .zoneAdd transfer =>
    match s.addZone transfer with
    | .ok (given, s) => (⟨.ok given.id, .transfer given⟩, s)
    | .error e => (⟨.error e, .transfer transfer⟩, s)
  | .zoneFinish transfer status now =>
    match s.finishZone transfer status now with
    | (finished, .ok s) => (⟨.ok none, .transfer finished⟩, s)
    | (finished, .error e) => (⟨.error e, .transfer finished⟩, s)

/-- Answers calls one after the other, and tells what came of each. -/
def serveAll (s : Store) : List Change → List (Change × Reply) × Store
  | [] => ([], s)
  | call :: rest =>
    let (reply, s) := s.serve call
    let (history, s) := s.serveAll rest
    ((call, reply) :: history, s)

variable {s : Store}

private theorem addHost_sound (sound : s.faults = []) (host : Host) :
    s.addHost host =
      if (s.hostAt? host.address).isSome then
        .error (.storage ("host " ++ host.address.text ++ " is already known"))
      else
        .ok ({ host with id := some (s.lastId + 1) }, { s with
          hosts := s.hosts ++ [{ host with id := some (s.lastId + 1) }], lastId := s.lastId + 1 }) := by
  rw [addHost, guard_sound sound, sound]
  cases (s.hostAt? host.address).isSome <;> rfl

private theorem addPort_unsaved (sound : s.faults = []) {outcome : ScanOutcome}
    (unsaved : outcome.host.id = none) :
    s.addPort outcome = .error (.storage ("cannot record port " ++ toString outcome.port.toNat ++
      " of unsaved host " ++ outcome.host.address.text)) := by
  rw [addPort, guard_sound sound, unsaved]
  rfl

private theorem replaceZone_unknown (sound : s.faults = []) {transfer : ZoneTransfer}
    (unknown : s.zoneNamed? transfer.zone = none) :
    s.replaceZone transfer = .error (.storage ("unknown zone " ++ transfer.zone)) := by
  rw [replaceZone, guard_sound sound, unknown]
  rfl

end Store

namespace Tables

variable {t u : Tables} {s : Store} {history : List Entry}

/-- A store that refuses nothing and keeps what the tables keep. -/
structure Mirrors (t : Tables) (s : Store) : Prop where
  sound : s.faults = []
  hosts : s.hosts = t.hosts
  ports : ∀ host, s.ports.filter (·.hostId = host) = t.portGetByHost host
  zones : ∀ zone, s.zoneNamed? zone = t.zoneGetByName zone
  last : s.lastId = t.lastId

theorem mirrors_empty : Mirrors empty Store.empty :=
  ⟨rfl, rfl, fun _ => rfl, fun _ => rfl, rfl⟩

/-- A store finds an address among its hosts where the tables ask their index. -/
theorem Mirrors.knows (mirrors : Mirrors t s) (consistent : Consistent history t) (address : Address) :
    (s.hostAt? address).isSome = t.hostExists address := by
  rw [Bool.eq_iff_iff, Store.hostAt?_isSome, consistent.hostExists_iff, Store.known, mirrors.hosts, List.mem_map]

theorem serve_mirrors (consistent : Consistent history t) (mirrors : Mirrors t s) (call : Change) :
    (s.serve call).1 = (t.serve call).1 ∧ Mirrors (t.serve call).2 (s.serve call).2 := by
  cases call with
  | hostAdd host =>
    have knows := mirrors.knows consistent host.address
    rw [serve, hostAdd_run, Store.serve, Store.addHost_sound mirrors.sound, knows, mirrors.last]
    cases t.hostExists host.address with
    | true => exact ⟨rfl, mirrors⟩
    | false =>
      refine ⟨rfl, mirrors.sound, ?_, mirrors.ports, mirrors.zones, rfl⟩
      exact congrArg (· ++ [{ host with id := some (t.lastId + 1) }]) mirrors.hosts
  | portAdd outcome =>
    rw [serve, portAdd_run, Store.serve]
    cases named : outcome.host.id with
    | none =>
      rw [Store.addPort_unsaved mirrors.sound named]
      exact ⟨rfl, mirrors⟩
    | some host =>
      rw [Store.addPort_spec mirrors.sound named, mirrors.last]
      refine ⟨rfl, mirrors.sound, mirrors.hosts, ?_, mirrors.zones, rfl⟩
      intro other
      dsimp only
      rw [List.filter_append, mirrors.ports other, portGetByHost, portGetByHost, Keyed.lookup_insert]
      by_cases same : other = host
      · simp [same, portGetByHost]
      · simp [same, Ne.symm same]
  | zoneAdd transfer =>
    have knows := mirrors.zones transfer.zone
    rw [serve, zoneAdd_run, Store.serve, Store.addZone_sound mirrors.sound, knows, mirrors.last]
    cases known : t.zoneGetByName transfer.zone with
    | some old => exact ⟨rfl, mirrors⟩
    | none =>
      rw [known] at knows
      refine ⟨rfl, mirrors.sound, mirrors.hosts, mirrors.ports, ?_, rfl⟩
      intro zone
      have unknown : s.zoneNamed? { transfer with id := some (t.lastId + 1) }.zone = none := knows
      have added := Store.zoneNamed_append
        (t := { s with zones := s.zones ++ [{ transfer with id := some (t.lastId + 1) }] }) zone unknown rfl
      rw [mirrors.zones] at added
      exact added.trans (Keyed.lookup_insert t.zones transfer.zone zone _).symm
  | zoneFinish transfer status now =>
    have knows : s.zoneNamed? (transfer.finish status now).zone = t.zoneGetByName transfer.zone :=
      mirrors.zones transfer.zone
    rw [serve, zoneFinish_run, Store.serve, Store.finishZone]
    cases known : t.zoneGetByName transfer.zone with
    | some old =>
      have there : (s.zoneNamed? (transfer.finish status now).zone).isSome := by
        rw [knows, known]
        rfl
      rw [Store.replaceZone_known mirrors.sound there]
      refine ⟨rfl, mirrors.sound, mirrors.hosts, mirrors.ports, ?_, mirrors.last⟩
      intro zone
      have replaced := Store.zoneNamed_replace zone there rfl
        (t := { s with zones := s.zones.map fun z =>
          if z.zone = (transfer.finish status now).zone then transfer.finish status now else z })
      rw [mirrors.zones] at replaced
      exact replaced.trans (Keyed.lookup_insert t.zones transfer.zone zone _).symm
    | none =>
      rw [known] at knows
      rw [Store.replaceZone_unknown mirrors.sound knows]
      exact ⟨rfl, mirrors⟩

theorem serveAll_mirrors (consistent : Consistent history t) (mirrors : Mirrors t s) (calls : List Change) :
    (s.serveAll calls).1 = (t.serveAll calls).1 ∧ Mirrors (t.serveAll calls).2 (s.serveAll calls).2 := by
  induction calls generalizing t s history with
  | nil => exact ⟨rfl, mirrors⟩
  | cons call rest ih =>
    obtain ⟨reply, next⟩ := serve_mirrors consistent mirrors call
    obtain ⟨replies, last⟩ := ih (consistent_step consistent (serve_served t call)) next
    exact ⟨by simp only [Store.serveAll, serveAll, reply, replies], last⟩

/-! ## The main theorem -/

/-- What holds of tables after some calls, whatever the calls were. -/
structure Orderly (history : List Entry) (t : Tables) : Prop extends Consistent history t where
  /-- Every host has a number. -/
  identified : ∀ host ∈ t.hosts, host.id.isSome
  /-- The index knows exactly the addresses of the hosts. -/
  known : ∀ address, t.hostExists address = true ↔ ∃ host ∈ t.hosts, host.address = address
  /-- The rows of a host are its own. -/
  owned : ∀ host, ∀ row ∈ t.portGetByHost host, row.hostId = host
  /-- A host is neither changed nor removed by what comes later. -/
  lasting : ∀ calls, t.hosts <+: (t.serveAll calls).2.hosts
  /-- A call that fails changes nothing but what a finished transfer says of itself. -/
  untouched : ∀ call e, (t.serve call).1.result = .error e →
    (t.serve call).2 = t ∧ (t.serve call).1.object = call.left

/-- **The tables stay consistent.** Whatever calls are made one after the other, index and hosts say the same, the
rows of a host are those that were added for it, numbers rise over all kinds of records, and a call that fails
leaves everything as it was. A store, which has no index, answers the same calls alike. -/
theorem tables_stay_consistent (calls : List Change) :
    let run := empty.serveAll calls
    Orderly run.1 run.2 ∧
      (Store.empty.serveAll calls).1 = run.1 ∧ Mirrors run.2 (Store.empty.serveAll calls).2 := by
  intro run
  have consistent : Consistent run.1 run.2 := by
    simpa using consistent_run consistent_empty calls
  refine ⟨⟨consistent, ?_, consistent.hostExists_iff, ?_, serveAll_hosts run.2, ?_⟩,
    serveAll_mirrors consistent_empty mirrors_empty calls⟩
  · intro host member
    exact consistent.identified member
  · intro host row member
    rw [consistent.ports] at member
    simpa using (List.mem_filter.mp member).2
  · intro call e failed
    exact serve_failed failed

end Tables
end HostSurvey
