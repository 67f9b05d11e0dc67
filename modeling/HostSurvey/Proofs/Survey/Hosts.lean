import HostSurvey.Proofs.Survey.Course
import HostSurvey.Proofs.Survey.Storage
import Mathlib.Data.List.Induction
/-!
# Hosts in a crew

Whoever asks storage to keep a host, storage is the same for all. What one step does to the stored hosts is said once
(`step_hosts`): a host at an address that was not known is kept behind the others; one at a known address is refused,
and nothing changes; whatever else is asked leaves them alone. So hosts stay as they are and in their order
(`hosts_last`), and an address that was not known has become known through one of the exchanges (`became_known`).
-/
namespace HostSurvey

open Net Activity

/-- What a step does to the hosts of a store, and what it says of it. -/
inductive Hosting (before after : Store) : Option (Nat × Exchange) → Prop where
  /-- Nobody asks that a host be kept. -/
  | alone {said : Option (Nat × Exchange)} (same : after.hosts = before.hosts)
      (elsewhere : ∀ place host given, said ≠ some (place, ⟨.hostAdd host, given⟩)) : Hosting before after said
  | refused (place : Nat) (host : Host) (known : host.address ∈ before.known) (same : after = before) :
      Hosting before after (some (place, ⟨.hostAdd host,
        .error (.storage ("host " ++ host.address.text ++ " is already known"))⟩))
  | kept (place : Nat) (host : Host) (unknown : host.address ∉ before.known)
      (more : after.hosts = before.hosts ++ [{ host with id := some (before.lastId + 1) }]) :
      Hosting before after (some (place, ⟨.hostAdd host, .ok { host with id := some (before.lastId + 1) }⟩))

/-- A store without faults refuses a host at a known address. -/
theorem Store.addHost_known {s : Store} (sound : s.faults = []) {host : Host} (known : host.address ∈ s.known) :
    s.addHost host = .error (.storage ("host " ++ host.address.text ++ " is already known")) := by
  simp only [addHost, guard_sound sound, if_pos (hostAt?_isSome.mpr known)]
  rfl

/-! ## One step -/

section Steps
variable {w : World} {c : Crew}

private theorem storing_alone {α : Type} {result : Except Error (α × Store)}
    (same : ∀ pair, result = .ok pair → pair.2.hosts = w.store.hosts ∧ pair.2.faults = w.store.faults) :
    (w.storing result).2.store.hosts = w.store.hosts ∧ (w.storing result).2.store.faults = w.store.faults := by
  cases result with
  | error e => exact ⟨rfl, rfl⟩
  | ok pair => exact same pair rfl

/-- Whatever else is asked, the hosts stay as they are. -/
private theorem answer_otherwise {r : Request} (otherwise : ∀ host, r ≠ .hostAdd host) :
    (World.answer r w).2.store.hosts = w.store.hosts ∧ (World.answer r w).2.store.faults = w.store.faults := by
  cases r with
  | hostAdd host => exact absurd rfl (otherwise host)
  | zoneAdd transfer =>
    refine storing_alone fun pair added => ?_
    rw [(Store.addZone_spec added).2.2]
    exact ⟨rfl, rfl⟩
  | zoneFinish transfer status =>
    refine storing_alone fun pair finished => ?_
    dsimp only [Store.finishZone] at finished
    cases replaced : w.store.replaceZone (transfer.finish status w.now) with
    | error e =>
      rw [replaced] at finished
      cases finished
    | ok t =>
      rw [replaced] at finished
      cases finished
      rw [(Store.replaceZone_spec replaced).2]
      exact ⟨rfl, rfl⟩
  | cacheAdd key =>
    simp only [World.answer]
    split <;> exact ⟨rfl, rfl⟩
  | requestZone name =>
    simp only [World.answer]
    split <;> exact ⟨rfl, rfl⟩
  | _ => exact ⟨rfl, rfl⟩

private theorem answer_hosting (sound : w.store.faults = []) (place : Nat) (r : Request) :
    Hosting w.store (World.answer r w).2.store (some (place, ⟨r, (World.answer r w).1⟩)) ∧
      (World.answer r w).2.store.faults = [] := by
  by_cases adds : ∃ host, r = .hostAdd host
  · obtain ⟨host, rfl⟩ := adds
    by_cases known : host.address ∈ w.store.known
    · simp only [World.answer, World.storing, Store.addHost_known sound known]
      exact ⟨.refused place host known rfl, sound⟩
    · simp only [World.answer, World.storing, Store.addHost_unknown sound known]
      exact ⟨.kept place host known rfl, sound⟩
  · obtain ⟨same, faults⟩ := answer_otherwise (w := w) fun host same => adds ⟨host, same⟩
    refine ⟨.alone same ?_, faults.trans sound⟩
    rintro other host given said
    cases said
    exact adds ⟨host, rfl⟩

/-- What a step does to the hosts of a store without faults. -/
theorem step_hosts (sound : c.world.store.faults = []) (step : Crew.Step) :
    Hosting c.world.store (c.step step).world.store (c.exchange? step) ∧ (c.step step).world.store.faults = [] := by
  cases c.step_does step with
  | asks place r next _ _ said after =>
    rw [said, after]
    exact answer_hosting sound place r
  | idles silent _ outside =>
    obtain ⟨directory, servers, cache, now, outside⟩ := outside
    rw [silent, outside]
    exact ⟨.alone rfl (fun _ _ _ said => nomatch said), sound⟩

/-- A store without faults tells truly which addresses are known, and the same ones are known afterwards. -/
theorem exists_told (sound : c.world.store.faults = []) {step : Crew.Step} {place : Nat} {address : Address}
    {given : Except Error Bool} (said : c.exchange? step = some (place, ⟨.hostExists address, given⟩)) :
    given = .ok (decide (address ∈ c.world.store.known)) ∧
      (c.step step).world.store.known = c.world.store.known := by
  constructor
  · cases c.step_does step with
    | asks _ _ _ _ _ also _ =>
      cases also.symm.trans said
      exact Store.hasHost_sound sound address
    | idles silent _ _ => cases silent.symm.trans said
  · have hosting := (step_hosts sound step).1
    rw [said] at hosting
    cases hosting with
    | alone same _ => exact congrArg (List.map (·.address)) same

/-- Whether a host is kept or refused, its address is known afterwards. It is refused if it was known before. -/
theorem add_told (sound : c.world.store.faults = []) {step : Crew.Step} {place : Nat} {host : Host}
    {given : Except Error Host} (said : c.exchange? step = some (place, ⟨.hostAdd host, given⟩)) :
    host.address ∈ (c.step step).world.store.known ∧ ∀ e, given = .error e →
      host.address ∈ c.world.store.known ∧ e = .storage ("host " ++ host.address.text ++ " is already known") := by
  have hosting := (step_hosts sound step).1
  rw [said] at hosting
  cases hosting with
  | alone _ elsewhere => exact absurd rfl (elsewhere place host given)
  | refused _ _ known same =>
    refine ⟨same ▸ known, ?_⟩
    rintro e ⟨⟩
    exact ⟨known, rfl⟩
  | kept _ _ _ more =>
    refine ⟨?_, nofun⟩
    rw [Store.known, more, List.map_append]
    exact List.mem_append_right _ (List.mem_singleton.mpr rfl)

end Steps

/-! ## Many steps -/

section History
variable {c : Crew}

theorem history_sound (sound : c.world.store.faults = []) (history : List Crew.Step) :
    (c.follow history).world.store.faults = [] := by
  induction history using List.reverseRecOn with
  | nil => exact sound
  | append_singleton history step ih =>
    rw [Crew.follow_snoc]
    exact (step_hosts ih step).2

/-- Hosts stay as they are; others come behind them. -/
theorem hosts_last (sound : c.world.store.faults = []) (history : List Crew.Step) :
    c.world.store.hosts <+: (c.follow history).world.store.hosts := by
  induction history using List.reverseRecOn with
  | nil => exact List.prefix_refl _
  | append_singleton history step ih =>
    rw [Crew.follow_snoc]
    refine ih.trans ?_
    have hosting := (step_hosts (history_sound sound history) step).1
    generalize ((c.follow history).exchange? step) = said at hosting
    cases hosting with
    | alone same _ => exact same ▸ List.prefix_refl _
    | refused _ _ _ same => exact same ▸ List.prefix_refl _
    | kept _ _ _ more => exact more ▸ List.prefix_append _ _

theorem known_lasts (sound : c.world.store.faults = []) (history : List Crew.Step) {address : Address}
    (known : address ∈ c.world.store.known) : address ∈ (c.follow history).world.store.known :=
  ((hosts_last sound history).map (·.address)).subset known

/-- An address that has become known was that of a host which somebody gave to storage. -/
theorem became_known (sound : c.world.store.faults = []) (history : List Crew.Step) {address : Address}
    (known : address ∈ (c.follow history).world.store.known) :
    address ∈ c.world.store.known ∨ ∃ place host stored, host.address = address ∧
      (place, (⟨.hostAdd host, .ok stored⟩ : Exchange)) ∈ c.exchanges history := by
  induction history using List.reverseRecOn with
  | nil => exact .inl known
  | append_singleton history step ih =>
    have earlier : address ∈ (c.follow history).world.store.known →
        address ∈ c.world.store.known ∨ ∃ place host stored, host.address = address ∧
          (place, (⟨.hostAdd host, .ok stored⟩ : Exchange)) ∈ c.exchanges (history ++ [step]) := by
      intro before
      rcases ih before with old | ⟨place, host, stored, placed, asked⟩
      · exact .inl old
      · refine .inr ⟨place, host, stored, placed, ?_⟩
        rw [Crew.exchanges_snoc]
        exact List.mem_append_left _ asked
    have hosting := (step_hosts (history_sound sound history) step).1
    rw [Crew.follow_snoc] at known
    generalize saying : (c.follow history).exchange? step = said at hosting
    cases hosting with
    | alone same _ =>
      rw [Store.known, same] at known
      exact earlier known
    | refused _ _ _ same =>
      rw [same] at known
      exact earlier known
    | kept place host unknown more =>
      rw [Store.known, more, List.map_append] at known
      rcases List.mem_append.mp known with before | new
      · exact earlier before
      · let stored : Host := { host with id := some ((c.follow history).world.store.lastId + 1) }
        refine .inr ⟨place, host, stored, (List.mem_singleton.mp new).symm, ?_⟩
        rw [Crew.exchanges_snoc, saying]
        exact List.mem_append_right _ (List.mem_singleton.mpr rfl)

end History
end HostSurvey
