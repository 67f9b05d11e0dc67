import HostSurvey.Proofs.Scan.Choice
import Mathlib.Data.List.Nodup
import Mathlib.Data.List.Perm.Subperm
/-!
# Planning one port after the other

Each time a port is planned for a host, it is marked, and a marked port is not planned again.

1. `untaken` are the candidates of a host that are neither stored nor busy nor marked. One planning takes one of
   them away, or finds none and changes nothing (`plan_taken`).
2. So many plannings take them all, each once, and then nothing comes any more (`planEach_taken`).
3. Only the marks of the host itself count (`planEach_congr`), and those of other hosts stay as they are
   (`planning_uses_up_a_host`).
-/
namespace HostSurvey.Scan

variable {host : Host} {id : RecordId} {stored busy order : List UInt16} {orders : List (List UInt16)}
  {flight others marked : InFlight} {port : UInt16}

/-! ## Marks -/

namespace InFlight

variable {pair other : RecordId × UInt16}

theorem mem_ports : port ∈ flight.ports id ↔ (id, port) ∈ flight := by
  simp [ports]

theorem mem_mark : other ∈ flight.mark pair ↔ other = pair ∨ other ∈ flight := by
  unfold mark
  split
  · rename_i held
    have held : pair ∈ flight := by simpa using held
    constructor
    · exact .inr
    · rintro (rfl | member)
      · exact held
      · exact member
  · simp [or_comm]

theorem mem_clear : other ∈ flight.clear pair ↔ other ∈ flight ∧ other ≠ pair := by
  simp [clear]

theorem mark_new (unmarked : pair ∉ flight) : flight.mark pair = flight ++ [pair] := by
  have absent : flight.contains pair = false := by simpa using unmarked
  simp only [mark, absent, Bool.false_eq_true, if_false]

end InFlight

/-! ## One planning -/

theorem plan_numbered (named : host.id = some id) : plan order host stored busy flight =
    match select order host (stored ++ busy ++ flight.ports id) with
    | none => (none, flight)
    | some port => (some port, flight.mark (id, port)) := by
  cases host
  cases named
  rfl

theorem plan_unnumbered (unnamed : host.id = none) : plan order host stored busy flight = (none, flight) := by
  simp only [plan, unnamed]

/-- If no port is planned, nothing changes. -/
theorem plan_nothing (planned : plan order host stored busy flight = (none, marked)) : marked = flight := by
  cases named : host.id with
  | none =>
    rw [plan_unnumbered named] at planned
    cases planned
    rfl
  | some id =>
    rw [plan_numbered named] at planned
    split at planned <;> cases planned
    rfl

/-- A port that is planned was neither noted nor told nor marked, and now it is marked. -/
theorem plan_chosen (planned : plan order host stored busy flight = (some port, marked)) :
    ∃ id, host.id = some id ∧ port ∉ stored ++ busy ++ flight.ports id ∧ marked = flight.mark (id, port) := by
  cases named : host.id with
  | none =>
    rw [plan_unnumbered named] at planned
    cases planned
  | some id =>
    rw [plan_numbered named] at planned
    split at planned <;> cases planned
    rename_i chosen
    exact ⟨id, rfl, select_untried chosen, rfl⟩

/-! ## Candidates that are left -/

/-- The candidates of a host that are neither stored nor busy nor marked. -/
def untaken (id : RecordId) (stored busy : List UInt16) (flight : InFlight) : List UInt16 :=
  candidatePorts.filter fun port => port ∉ stored ∧ port ∉ busy ∧ (id, port) ∉ flight

theorem mem_untaken : port ∈ untaken id stored busy flight ↔
    port ∈ candidatePorts ∧ port ∉ stored ∧ port ∉ busy ∧ (id, port) ∉ flight := by
  simp [untaken]

theorem untaken_nodup : (untaken id stored busy flight).Nodup :=
  List.Nodup.filter _ (by decide)

/-- A mark takes its port away from the candidates that are left. -/
theorem untaken_marked (port : UInt16) :
    untaken id stored busy (flight ++ [(id, port)]) = (untaken id stored busy flight).erase port := by
  rw [untaken_nodup.erase_eq_filter, untaken, untaken, List.filter_filter]
  refine List.filter_congr fun candidate _ => ?_
  by_cases same : candidate = port <;> simp [same]

/-- One planning takes away one candidate that is left, or finds none. -/
theorem plan_taken (named : host.id = some id) (shuffled : order.Perm candidatePorts) (stored busy : List UInt16)
    (flight : InFlight) :
    (∃ port ∈ untaken id stored busy flight,
      plan order host stored busy flight = (some port, flight ++ [(id, port)])) ∨
    (untaken id stored busy flight = [] ∧ plan order host stored busy flight = (none, flight)) := by
  rw [plan_numbered named]
  cases chosen : select order host (stored ++ busy ++ flight.ports id) with
  | some port =>
    have fresh := select_untried chosen
    simp only [List.mem_append, InFlight.mem_ports, not_or, and_assoc] at fresh
    refine .inl ⟨port, mem_untaken.mpr ⟨select_mem shuffled chosen, fresh⟩, ?_⟩
    rw [← InFlight.mark_new fresh.2.2]
  | none =>
    refine .inr ⟨List.eq_nil_iff_forall_not_mem.mpr fun port left => ?_, rfl⟩
    obtain ⟨candidate, fresh⟩ := mem_untaken.mp left
    have tried := (select_eq_none shuffled).mp chosen port candidate
    simp only [List.mem_append, InFlight.mem_ports] at tried
    tauto

/-! ## Many plannings -/

/-- Plans one port after the other, once for each order that chance puts the candidates in. What one planning
marks is marked for the next. -/
def planEach (host : Host) (stored busy : List UInt16) :
    List (List UInt16) → InFlight → List (Option UInt16) × InFlight
  | [], flight => ([], flight)
  | order :: orders, flight =>
    let (planned, flight) := plan order host stored busy flight
    let (later, flight) := planEach host stored busy orders flight
    (planned :: later, flight)

/-- What many plannings come to: some ports, each once, as many as there are left or as there are plannings, and
then nothing any more. -/
theorem planEach_taken (named : host.id = some id) (shuffled : ∀ order ∈ orders, order.Perm candidatePorts)
    (stored busy : List UInt16) (flight : InFlight) :
    ∃ ports : List UInt16, ports.Subperm (untaken id stored busy flight) ∧
      ports.length = min orders.length (untaken id stored busy flight).length ∧
      planEach host stored busy orders flight =
        (ports.map some ++ List.replicate (orders.length - ports.length) none,
          flight ++ ports.map fun port => (id, port)) := by
  induction orders generalizing flight with
  | nil => exact ⟨[], List.nil_subperm, by simp, by simp [planEach]⟩
  | cons order orders ih =>
    obtain ⟨first, rest⟩ := List.forall_mem_cons.mp shuffled
    rcases plan_taken named first stored busy flight with ⟨port, left, planned⟩ | ⟨empty, planned⟩
    · obtain ⟨ports, among, count, later⟩ := ih rest (flight ++ [(id, port)])
      rw [untaken_marked] at among count
      rw [List.length_erase_of_mem left] at count
      have some_left := List.length_pos_of_mem left
      refine ⟨port :: ports, ?_, ?_, ?_⟩
      · exact (List.subperm_cons port |>.mpr among).trans (List.perm_cons_erase left).symm.subperm
      · simp only [List.length_cons, count]
        omega
      · simp [planEach, planned, later]
    · obtain ⟨ports, among, count, later⟩ := ih rest flight
      rw [empty] at among
      obtain rfl := List.subperm_nil.mp among
      refine ⟨[], List.nil_subperm, by simp [empty], ?_⟩
      simp [planEach, planned, later, List.replicate_succ]

/-- Only the marks of the host itself count. -/
theorem plan_congr (named : host.id = some id) (shuffled : order.Perm candidatePorts) (stored busy : List UInt16)
    (same : ∀ port, (id, port) ∈ flight ↔ (id, port) ∈ others) :
    (plan order host stored busy flight).1 = (plan order host stored busy others).1 ∧
      ∀ port, (id, port) ∈ (plan order host stored busy flight).2 ↔
        (id, port) ∈ (plan order host stored busy others).2 := by
  have agree : select order host (stored ++ busy ++ flight.ports id) =
      select order host (stored ++ busy ++ others.ports id) :=
    select_congr shuffled fun port _ => by simp only [List.mem_append, InFlight.mem_ports, same]
  rw [plan_numbered named, plan_numbered named, agree]
  cases select order host (stored ++ busy ++ others.ports id) with
  | none => exact ⟨rfl, same⟩
  | some chosen => exact ⟨rfl, fun port => by simp only [InFlight.mem_mark, same]⟩

theorem planEach_congr (named : host.id = some id) (shuffled : ∀ order ∈ orders, order.Perm candidatePorts)
    (same : ∀ port, (id, port) ∈ flight ↔ (id, port) ∈ others) :
    (planEach host stored busy orders flight).1 = (planEach host stored busy orders others).1 := by
  induction orders generalizing flight others with
  | nil => rfl
  | cons order orders ih =>
    obtain ⟨first, rest⟩ := List.forall_mem_cons.mp shuffled
    obtain ⟨told, marks⟩ := plan_congr named first stored busy same
    simp only [planEach, told, ih rest marks]

theorem planEach_unnumbered (unnamed : host.id = none) :
    planEach host stored busy orders flight = (List.replicate orders.length none, flight) := by
  induction orders with
  | nil => rfl
  | cons order orders ih => simp only [planEach, plan_unnumbered unnamed, ih, List.length_cons, List.replicate_succ]

/-! ## The main theorem -/

/-- What is true of planning ports for a host with a number, once for each of some orders. -/
structure UsesUp (host : Host) (id : RecordId) (stored busy : List UInt16) (orders : List (List UInt16))
    (flight : InFlight) : Prop where
  /-- Ports come, each once, and all of them are left: as many as there are, if there are enough plannings. Then
  nothing comes any more. The marks of these ports come to those that were there. -/
  taken : ∃ ports : List UInt16, ports.Nodup ∧ ports ⊆ untaken id stored busy flight ∧
    ports.length = min orders.length (untaken id stored busy flight).length ∧
    planEach host stored busy orders flight =
      (ports.map some ++ List.replicate (orders.length - ports.length) none,
        flight ++ ports.map fun port => (id, port))
  /-- So enough plannings bring every port that is left. -/
  all : (untaken id stored busy flight).length ≤ orders.length →
    ∀ port, port ∈ candidatePorts → port ∉ stored → port ∉ busy → (id, port) ∉ flight →
      some port ∈ (planEach host stored busy orders flight).1
  /-- A single planning, whatever is marked by then, brings a port that is left and marks it. If none is left, it
  brings none and changes nothing. -/
  each : ∀ order, order.Perm candidatePorts → ∀ marks : InFlight,
    (∃ port ∈ untaken id stored busy marks,
      plan order host stored busy marks = (some port, marks ++ [(id, port)])) ∨
    (untaken id stored busy marks = [] ∧ plan order host stored busy marks = (none, marks))
  /-- The marks of other hosts stay as they are. -/
  others : ∀ other, other ≠ id →
    (planEach host stored busy orders flight).2.ports other = flight.ports other
  /-- They do not count: all marks that are the same for this host lead to the same ports. -/
  own : ∀ marks : InFlight, (∀ port, (id, port) ∈ flight ↔ (id, port) ∈ marks) →
    (planEach host stored busy orders flight).1 = (planEach host stored busy orders marks).1

/-- **Planning uses up a host.** Ports that are planned one after the other for a host with a number are the
candidates that are neither stored nor busy nor marked, each once, and then nothing comes, in whatever orders chance
puts the candidates. Only the pairs of these ports are marked by it. A host without a number gets no port. -/
theorem planning_uses_up_a_host (host : Host) (stored busy : List UInt16) (orders : List (List UInt16))
    (flight : InFlight) (shuffled : ∀ order ∈ orders, order.Perm candidatePorts) :
    (∀ id, host.id = some id → UsesUp host id stored busy orders flight) ∧
    (host.id = none →
      planEach host stored busy orders flight = (List.replicate orders.length none, flight)) := by
  refine ⟨fun id named => ?_, planEach_unnumbered⟩
  obtain ⟨ports, among, count, planned⟩ := planEach_taken named shuffled stored busy flight
  have distinct : ports.Nodup := by
    obtain ⟨_, reordered, inside⟩ := among
    exact reordered.nodup_iff.mp (untaken_nodup.sublist inside)
  refine ⟨?_, ?_, ?_, ?_, ?_⟩
  · exact ⟨ports, distinct, among.subset, count, planned⟩
  · intro enough port candidate notStored notBusy unmarked
    have everything : ports.Perm (untaken id stored busy flight) :=
      among.perm_of_length_le (by omega)
    have inside : port ∈ ports :=
      everything.mem_iff.mpr (mem_untaken.mpr ⟨candidate, notStored, notBusy, unmarked⟩)
    rw [planned]
    exact List.mem_append_left _ (List.mem_map_of_mem inside)
  · intro order any marks
    exact plan_taken named any stored busy marks
  · intro other apart
    rw [planned]
    simp [InFlight.ports, apart.symm]
  · intro marks same
    exact planEach_congr named shuffled same

private def mailHost : Host := ⟨some 1, .v4 0, "Mail.example.", .user, ⟨0, 0⟩⟩

private def sixOrders : List (List UInt16) :=
  [candidatePorts, candidatePorts, candidatePorts.reverse, candidatePorts, candidatePorts, candidatePorts.reverse]

/-- Five candidates are left: two that the name speaks for and three others. Port 80 is marked for another host. -/
theorem five_ports_are_left : (∀ order ∈ sixOrders, order.Perm candidatePorts) ∧
    UsesUp mailHost 1 [21, 22, 23, 53, 79, 110, 161, 631, 443] [1024, 4444, 2525] sixOrders
      [(2, 80), (1, 5353), (1, 8000)] ∧
    planEach mailHost [21, 22, 23, 53, 79, 110, 161, 631, 443] [1024, 4444, 2525] sixOrders
      [(2, 80), (1, 5353), (1, 8000)] =
        ([some 25, some 143, some 8081, some 80, some 8080, none],
          [(2, 80), (1, 5353), (1, 8000), (1, 25), (1, 143), (1, 8081), (1, 80), (1, 8080)]) := by
  have shuffled : ∀ order ∈ sixOrders, order.Perm candidatePorts := by
    simp [sixOrders, List.reverse_perm]
  exact ⟨shuffled, (planning_uses_up_a_host mailHost _ _ sixOrders _ shuffled).1 1 rfl, by decide⟩

end HostSurvey.Scan
