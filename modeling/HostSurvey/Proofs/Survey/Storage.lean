import HostSurvey.Survey.Store
/-!
# What storage does

For each call that changes a store, what had to be so for it to go well, and what the store is then
(`addHost_spec`, `addPort_spec`, `addZone_spec`, `replaceZone_spec`). A store without faults refuses no call.
-/
namespace HostSurvey.Store

open Net

variable {s t : Store}

theorem guard_sound (sound : s.faults = []) (call : StoreCall) : s.guard call = .ok () := by
  simp [guard, sound]

/-- A call that goes well was not refused. -/
private theorem guard_passed {α : Type} {call : StoreCall} {rest : Unit → Except Error α} {a : α}
    (happened : (s.guard call >>= rest) = .ok a) : rest () = .ok a := by
  cases answer : s.guard call with
  | error e => simp [answer, bind, Except.bind] at happened
  | ok _ => simpa only [answer, bind, Except.bind] using happened

/-! ## Hosts -/

/-- A host is kept if its address is not known. It gets the next number. -/
theorem addHost_spec {host given : Host} (added : s.addHost host = .ok (given, t)) :
    s.hostAt? host.address = none ∧
      t = { s with hosts := s.hosts ++ [{ host with id := some (s.lastId + 1) }], lastId := s.lastId + 1 } := by
  have went := guard_passed added
  simp only [bind, Except.bind, pure, Except.pure] at went
  split at went
  · cases went
  · rename_i unknown
    cases went
    exact ⟨by simpa using unknown, rfl⟩

/-- The addresses of the stored hosts, in the order in which they came. -/
def known (s : Store) : List Address := s.hosts.map (·.address)

theorem hostAt?_isSome {address : Address} : (s.hostAt? address).isSome = true ↔ address ∈ s.known := by
  simp [hostAt?, known, List.find?_isSome]

/-- A store without faults tells which addresses are known. -/
theorem hasHost_sound (sound : s.faults = []) (address : Address) :
    s.hasHost address = .ok (decide (address ∈ s.known)) := by
  have found : (s.hostAt? address).isSome = decide (address ∈ s.known) := by
    rw [Bool.eq_iff_iff, hostAt?_isSome, decide_eq_true_eq]
  simp only [hasHost, guard_sound sound, found, sound, bind, Except.bind, pure, Except.pure]
  simp

/-- A store without faults does not refuse a host at an address that is not known. -/
theorem addHost_unknown (sound : s.faults = []) {host : Host} (unknown : host.address ∉ s.known) :
    s.addHost host = .ok ({ host with id := some (s.lastId + 1) }, { s with
      hosts := s.hosts ++ [{ host with id := some (s.lastId + 1) }], lastId := s.lastId + 1 }) := by
  have absent : ¬ (s.hostAt? host.address).isSome = true := mt hostAt?_isSome.mp unknown
  simp only [addHost, guard_sound sound, if_neg absent, bind, Except.bind, pure, Except.pure]
  simp [sound]

/-! ## Ports -/

/-- The pairs of host and port that storage has rows for. -/
def pairs (s : Store) : List (RecordId × UInt16) :=
  s.ports.map fun row => (row.hostId, row.port)

/-- The ports that storage has rows for, of one host. -/
theorem portsOf_mem {id : RecordId} {rows : List Port} (read : s.portsOf id = .ok rows) (port : UInt16) :
    port ∈ rows.map (·.port) ↔ (id, port) ∈ s.pairs := by
  have told := guard_passed read
  cases told
  simp only [pairs, List.mem_map, List.mem_filter, decide_eq_true_eq, Prod.mk.injEq]
  constructor
  · rintro ⟨row, ⟨member, host⟩, same⟩
    exact ⟨row, member, host, same⟩
  · rintro ⟨row, member, host, same⟩
    exact ⟨row, ⟨member, host⟩, same⟩

/-- What came of a try on a host with a number is kept, if storage refuses nothing. -/
theorem addPort_spec (sound : s.faults = []) {outcome : ScanOutcome} {id : RecordId}
    (named : outcome.host.id = some id) : s.addPort outcome = .ok { s with
      ports := s.ports ++ [⟨some (s.lastId + 1), id, outcome.port, outcome.tried, outcome.banner,
        outcome.error⟩]
      lastId := s.lastId + 1 } := by
  simp only [addPort, guard_sound sound, named, bind, Except.bind, pure, Except.pure]

/-! ## Transfers -/

/-- A transfer is kept if its zone is not known. It gets the next number. -/
theorem addZone_spec {transfer given : ZoneTransfer} (added : s.addZone transfer = .ok (given, t)) :
    s.zoneNamed? transfer.zone = none ∧
      (s.faults = [] → given = { transfer with id := some (s.lastId + 1) }) ∧
      t = { s with
        zones := s.zones ++ [{ transfer with id := some (s.lastId + 1) }], lastId := s.lastId + 1 } := by
  have went := guard_passed added
  simp only [bind, Except.bind, pure, Except.pure] at went
  split at went
  · cases went
  · rename_i unknown
    cases went
    exact ⟨by simpa using unknown, fun sound => by simp [sound], rfl⟩

/-- A store without faults refuses a transfer of a zone that is known, and no other. -/
theorem addZone_sound (sound : s.faults = []) (transfer : ZoneTransfer) :
    s.addZone transfer =
      if (s.zoneNamed? transfer.zone).isSome then
        .error (.storage ("zone " ++ transfer.zone ++ " was already attempted"))
      else
        .ok ({ transfer with id := some (s.lastId + 1) }, { s with
          zones := s.zones ++ [{ transfer with id := some (s.lastId + 1) }], lastId := s.lastId + 1 }) := by
  rw [addZone, guard_sound sound, sound]
  cases (s.zoneNamed? transfer.zone).isSome <;> rfl

/-- A store without faults tells the transfer of every zone. -/
theorem findZone_sound (sound : s.faults = []) (zone : String) : s.findZone zone = .ok (s.zoneNamed? zone) := by
  rw [findZone, guard_sound sound]
  rfl

/-- A transfer is put in the place of the one of its zone, if there is one. -/
theorem replaceZone_spec {transfer : ZoneTransfer} (replaced : s.replaceZone transfer = .ok t) :
    (s.zoneNamed? transfer.zone).isSome ∧
      t = { s with zones := s.zones.map fun z => if z.zone = transfer.zone then transfer else z } := by
  have went := guard_passed replaced
  simp only [pure, Except.pure] at went
  split at went
  · rename_i known
    cases went
    exact ⟨known, rfl⟩
  · cases went

/-- A store without faults does not refuse to replace what it has. -/
theorem replaceZone_known {transfer : ZoneTransfer} (sound : s.faults = [])
    (known : (s.zoneNamed? transfer.zone).isSome) : s.replaceZone transfer = .ok { s with
      zones := s.zones.map fun z => if z.zone = transfer.zone then transfer else z } := by
  simp only [replaceZone, guard_sound sound, known, if_true, bind, Except.bind, pure, Except.pure]

/-- Which transfer a zone has after one was added. -/
theorem zoneNamed_append {s t : Store} {transfer : ZoneTransfer} (zone : String)
    (unknown : s.zoneNamed? transfer.zone = none) (added : t.zones = s.zones ++ [transfer]) :
    t.zoneNamed? zone = if zone = transfer.zone then some transfer else s.zoneNamed? zone := by
  unfold zoneNamed? at unknown ⊢
  rw [added, List.find?_append]
  split
  · rename_i same
    subst same
    simp [unknown]
  · rename_i other
    simp [Ne.symm other]

/-- Which transfer a zone has after one was replaced. -/
theorem zoneNamed_replace {s t : Store} {transfer : ZoneTransfer} (zone : String)
    (known : (s.zoneNamed? transfer.zone).isSome)
    (replaced : t.zones = s.zones.map fun z => if z.zone = transfer.zone then transfer else z) :
    t.zoneNamed? zone = if zone = transfer.zone then some transfer else s.zoneNamed? zone := by
  unfold zoneNamed? at known ⊢
  have alike : (fun z : ZoneTransfer => decide (z.zone = zone)) ∘
      (fun z => if z.zone = transfer.zone then transfer else z) = fun z => decide (z.zone = zone) := by
    funext z
    simp only [Function.comp]
    split
    · rename_i same
      rw [same]
    · rfl
  rw [replaced, List.find?_map, alike]
  split
  · rename_i same
    subst same
    obtain ⟨old, found⟩ := Option.isSome_iff_exists.mp known
    have named : old.zone = transfer.zone := by simpa using List.find?_some found
    simp [found, named]
  · rename_i other
    cases found : s.zones.find? fun z => decide (z.zone = zone) with
    | none => rfl
    | some old =>
      have named : old.zone = zone := by simpa using List.find?_some found
      simp [named, other]

/-! ## Regular stores -/

/-- The numbers of all records. -/
def ids (s : Store) : List RecordId :=
  s.hosts.filterMap (·.id) ++ s.ports.filterMap (·.id) ++ s.zones.filterMap (·.id)

/-- A store without faults that gives out numbers in their order and has one transfer for each zone. -/
structure Regular (s : Store) : Prop where
  sound : s.faults = []
  zones : (s.zones.map (·.zone)).Nodup
  numbered : ∀ id ∈ s.ids, id ≤ s.lastId

theorem regular_empty : empty.Regular :=
  ⟨rfl, .nil, fun _ member => (List.not_mem_nil member).elim⟩

theorem next_id_fresh (regular : s.Regular) : s.lastId + 1 ∉ s.ids :=
  fun used => absurd (regular.numbered _ used) (Int.not_le.mpr (Int.lt_succ _))

private theorem numbered_next (regular : s.Regular) {id : RecordId}
    (known : id ∈ s.ids ∨ id = s.lastId + 1) : id ≤ s.lastId + 1 := by
  rcases known with old | rfl
  · exact Int.le_of_lt (Int.lt_add_one_of_le (regular.numbered id old))
  · exact Int.le_refl _

theorem regular_addHost {host given : Host} (regular : s.Regular) (added : s.addHost host = .ok (given, t)) :
    t.Regular := by
  obtain ⟨_, rfl⟩ := addHost_spec added
  refine ⟨regular.sound, regular.zones, ?_⟩
  intro id member
  apply numbered_next regular
  simp only [ids, List.filterMap_append, List.mem_append, List.filterMap_cons, List.filterMap_nil,
    List.mem_singleton] at member ⊢
  rcases member with ((hosts | new) | ports) | zones
  · exact .inl (.inl (.inl hosts))
  · exact .inr new
  · exact .inl (.inl (.inr ports))
  · exact .inl (.inr zones)

theorem regular_addZone {transfer given : ZoneTransfer} (regular : s.Regular)
    (added : s.addZone transfer = .ok (given, t)) : t.Regular := by
  obtain ⟨unknown, _, rfl⟩ := addZone_spec added
  refine ⟨regular.sound, ?_, ?_⟩
  · simp only [List.map_append, List.map_cons, List.map_nil]
    refine List.nodup_append.mpr ⟨regular.zones, by simp, ?_⟩
    intro zone old other new same
    obtain ⟨z, member, rfl⟩ := List.mem_map.mp old
    rw [List.mem_singleton.mp new] at same
    have absent := List.find?_eq_none.mp unknown z member
    simp [same] at absent
  · intro id member
    apply numbered_next regular
    simp only [ids, List.filterMap_append, List.mem_append, List.filterMap_cons, List.filterMap_nil,
      List.mem_singleton] at member ⊢
    rcases member with others | zones | new
    · exact .inl (.inl others)
    · exact .inl (.inr zones)
    · exact .inr new

/-- A transfer may be replaced by one whose number was given out. -/
theorem regular_replaceZone {transfer : ZoneTransfer} (regular : s.Regular)
    (numbered : ∀ id, transfer.id = some id → id ≤ s.lastId)
    (replaced : s.replaceZone transfer = .ok t) : t.Regular := by
  obtain ⟨_, rfl⟩ := replaceZone_spec replaced
  have names : ((s.zones.map fun z => if z.zone = transfer.zone then transfer else z).map (·.zone)) =
      s.zones.map (·.zone) := by
    rw [List.map_map]
    apply List.map_congr_left
    intro z _
    simp only [Function.comp]
    split
    · rename_i same
      exact same.symm
    · rfl
  refine ⟨regular.sound, names.symm ▸ regular.zones, ?_⟩
  intro id member
  have old := regular.numbered id
  simp only [ids, List.mem_append] at old member
  rcases member with others | zones
  · exact old (.inl others)
  · obtain ⟨z, inside, named⟩ := List.mem_filterMap.mp zones
    obtain ⟨before, was, rfl⟩ := List.mem_map.mp inside
    split at named
    · exact numbered id named
    · exact old (.inr (List.mem_filterMap.mpr ⟨before, was, named⟩))

end HostSurvey.Store
