import HostSurvey.Generate.Generator
import HostSurvey.Proofs.Screen.Verdict
import HostSurvey.Proofs.Survey.Storage
import HostSurvey.Proofs.Transfer.Conduct
/-!
# No refused host is acquired

Hosts come from drawn addresses and from records of zones. All who look for hosts share one screen for names
and one for addresses, which change with every input that they refuse.

1. What a screen lets through fits none of the rules that it was made of (`Sieve.terms`), however the screens
   have been used before and by whom.
2. Each way to a host asks about the name of the host and about its address before it lets go of it. This is
   read off each activity, from the bottom up.
3. So no refused address is resolved, and no refused host is passed on or stored
   (`no_refused_host_is_acquired`).
-/
namespace HostSurvey

open Net Screen Pattern Transfer

/-- What two screens were made of, and how they try what comes. -/
structure Sieve where
  /-- The patterns for names. -/
  patterns : List Regex
  /-- The networks of addresses. -/
  networks : List Network
  /-- Which names fit a pattern, and which addresses lie in a network. -/
  tests : Tests

namespace Sieve

/-- The name fits none of the patterns. -/
def PassesName (sieve : Sieve) (name : String) : Prop :=
  ∀ pattern ∈ sieve.patterns, sieve.tests.fitsName pattern name = false

/-- The address is in none of the networks. -/
def PassesAddress (sieve : Sieve) (address : Address) : Prop :=
  ∀ network ∈ sieve.networks, sieve.tests.fitsAddress network address = false

/-- The host has a name that fits none of the patterns and an address in none of the networks. -/
def Passes (sieve : Sieve) (host : Host) : Prop :=
  sieve.PassesName host.name ∧ sieve.PassesAddress host.address

/-- A screen of the patterns, in whatever order, lets through just what fits none of them. -/
theorem checkName_eq_false {sieve : Sieve} {screen : NameScreen} (same : screen.rules.Perm sieve.patterns)
    (name : String) : (screen.check sieve.tests name).1 = false ↔ sieve.PassesName name :=
  RuleList.check_eq_false same

theorem checkAddress_eq_false {sieve : Sieve} {screen : AddressScreen} (same : screen.rules.Perm sieve.networks)
    (address : Address) : (screen.check sieve.tests address).1 = false ↔ sieve.PassesAddress address :=
  RuleList.check_eq_false same

/-- What may be asked of a world that sifts hosts: an address that is resolved, and a host that is passed on
or stored, have to pass. What is not screened out passes. -/
def terms (sieve : Sieve) : Terms where
  permits
    | .reverse address => sieve.PassesAddress address
    | .hostAdd host => sieve.Passes host
    | .sendHost host => sieve.Passes host
    | _ => True
  grants
    | .screenName name, refused => refused = false → sieve.PassesName name
    | .screenAddress address, refused => refused = false → sieve.PassesAddress address
    | _, _ => True

/-- A world whose screens still have their rules, and whose new hosts have passed. -/
structure Sifts (sieve : Sieve) (stored sent : List Host) (w : World) : Prop where
  /-- The screen for names has its patterns. -/
  names : w.names.rules.Perm sieve.patterns
  /-- The screen for addresses has its networks. -/
  addresses : w.addresses.rules.Perm sieve.networks
  /-- What comes is tried in the same way. -/
  tests : w.tests = sieve.tests
  /-- The stored hosts. -/
  store : ∀ host ∈ w.store.hosts, host ∈ stored ∨ sieve.Passes host
  /-- The hosts that were passed on. -/
  queue : ∀ host ∈ w.sentHosts, host ∈ sent ∨ sieve.Passes host

variable {sieve : Sieve} {stored sent : List Host} {w : World}

/-! ## The world -/

private theorem map_ok {α β : Type} {result : Except Error α} {f : α → β} {b : β}
    (mapped : result.map f = .ok b) : ∃ a, result = .ok a ∧ f a = b := by
  cases result with
  | error e => cases mapped
  | ok a =>
    cases mapped
    exact ⟨a, rfl, rfl⟩

/-- A store with the same hosts does as well. -/
private theorem sifts_stored {α : Type} (sifts : sieve.Sifts stored sent w)
    {result : Except Error (α × Store)} (same : ∀ a t, result = .ok (a, t) → t.hosts = w.store.hosts) :
    sieve.Sifts stored sent (w.storing result).2 := by
  cases result with
  | error e => exact sifts
  | ok pair =>
    refine ⟨sifts.names, sifts.addresses, sifts.tests, ?_, sifts.queue⟩
    show ∀ host ∈ pair.2.hosts, _
    rw [same pair.1 pair.2 rfl]
    exact sifts.store

/-- What is asked on these terms keeps them. -/
private theorem sifts_answer (sifts : sieve.Sifts stored sent w) {r : Request}
    (permitted : sieve.terms.permits r) : sieve.Sifts stored sent (World.answer r w).2 := by
  cases r with
  | screenName name =>
    exact ⟨(RuleList.check_rules w.names).trans sifts.names, sifts.addresses, sifts.tests, sifts.store, sifts.queue⟩
  | screenAddress address =>
    exact ⟨sifts.names, (RuleList.check_rules w.addresses).trans sifts.addresses, sifts.tests, sifts.store, sifts.queue⟩
  | hostAdd host =>
    simp only [World.answer, World.storing]
    cases added : w.store.addHost host with
    | error e => exact sifts
    | ok pair =>
      obtain ⟨_, more⟩ := Store.addHost_spec added
      refine ⟨sifts.names, sifts.addresses, sifts.tests, ?_, sifts.queue⟩
      intro other member
      have member : other ∈ pair.2.hosts := member
      rw [more] at member
      rcases List.mem_append.mp member with old | new
      · exact sifts.store other old
      · rw [List.mem_singleton.mp new]
        exact .inr permitted
  | sendHost host =>
    refine ⟨sifts.names, sifts.addresses, sifts.tests, sifts.store, ?_⟩
    intro other member
    rcases List.mem_append.mp member with old | new
    · exact sifts.queue other old
    · rw [List.mem_singleton.mp new]
      exact .inr permitted
  | zoneAdd transfer =>
    apply sifts_stored sifts
    intro given t added
    rw [(Store.addZone_spec added).2.2]
  | zoneFinish transfer status =>
    apply sifts_stored sifts
    intro given t finished
    obtain ⟨u, replaced, same⟩ := map_ok finished
    cases same
    rw [(Store.replaceZone_spec replaced).2]
  | cacheAdd key =>
    simp only [World.answer]
    split <;> exact ⟨sifts.names, sifts.addresses, sifts.tests, sifts.store, sifts.queue⟩
  | requestZone name =>
    simp only [World.answer]
    split <;> exact ⟨sifts.names, sifts.addresses, sifts.tests, sifts.store, sifts.queue⟩
  | traceBegin zone => exact ⟨sifts.names, sifts.addresses, sifts.tests, sifts.store, sifts.queue⟩
  | traceLine zone line => exact ⟨sifts.names, sifts.addresses, sifts.tests, sifts.store, sifts.queue⟩
  | traceRemove zone => exact ⟨sifts.names, sifts.addresses, sifts.tests, sifts.store, sifts.queue⟩
  | _ => exact sifts

/-- Worlds that sift uphold the terms. -/
theorem terms_upheld (sieve : Sieve) (stored sent : List Host) :
    sieve.terms.UpheldBy (sieve.Sifts stored sent) where
  granted w r sifts permitted := by
    cases r with
    | screenName name =>
      show (w.names.check w.tests name).1 = false → _
      rw [sifts.tests]
      exact (checkName_eq_false sifts.names name).mp
    | screenAddress address =>
      show (w.addresses.check w.tests address).1 = false → _
      rw [sifts.tests]
      exact (checkAddress_eq_false sifts.addresses address).mp
    | _ => trivial
  kept w r sifts permitted := sifts_answer sifts permitted
  outside w _ _ _ _ sifts := ⟨sifts.names, sifts.addresses, sifts.tests, sifts.store, sifts.queue⟩

/-! ## Drawn hosts -/

open Activity

section Generate
open Generate

private theorem seenBefore_observes (key : String) :
    (seenBefore key).Observes sieve.terms fun _ => True := by
  unfold seenBefore
  apply observes_ask trivial
  intro given _
  split
  · exact observes_pure trivial
  · apply observes_ask trivial
    exact fun _ _ => observes_pure trivial
  · exact observes_pure trivial

/-- An address that passes is looked into, and the host there passes if there is one. -/
private theorem generate_observes {address : Address} (passes : sieve.PassesAddress address) :
    (Generate.process address).Observes sieve.terms fun found => ∀ host, found = some host → sieve.Passes host := by
  unfold Generate.process
  apply observes_bind (seenBefore_observes _)
  intro seen _
  split
  · exact observes_pure fun _ none => nomatch none
  · apply observes_ask passes
    intro given _
    split
    · exact observes_pure fun _ none => nomatch none
    · exact observes_pure fun _ none => nomatch none
    · rename_i name more
      apply observes_ask trivial
      intro refused granted
      split
      · exact observes_pure fun _ none => nomatch none
      · rename_i passed
        apply observes_ask trivial
        intro now _
        apply observes_pure
        rintro host ⟨⟩
        exact ⟨granted (eq_false_of_ne_true passed), passes⟩

private theorem work_observes {address : Address} (passes : sieve.PassesAddress address) :
    (work address).Observes sieve.terms fun _ => True := by
  unfold work
  apply observes_bind (generate_observes passes)
  intro found passed
  split
  · exact observes_pure trivial
  · rename_i host
    exact ⟨passed host rfl, fun _ _ => trivial⟩

private theorem workThrough_observes (addresses : List Address) :
    (workThrough addresses).Observes sieve.terms fun _ => True := by
  induction addresses with
  | nil => exact observes_pure trivial
  | cons address rest ih =>
    unfold workThrough
    apply observes_ask trivial
    intro refused granted
    split
    · rename_i passed
      apply observes_bind (work_observes (granted (by simpa using passed)))
      exact fun _ _ => ih
    · exact ih

end Generate

/-! ## Zones -/

/-- Whoever gives a host to storage has asked both screens. -/
private theorem allow_transfers (sieve : Sieve) : sieve.terms.AllowTransfers where
  permitted r ordinary := by
    cases r with
    | reverse address => exact ordinary.elim
    | hostAdd host => exact ordinary.elim
    | sendHost host => exact ordinary.elim
    | _ => trivial
  passed host named placed := ⟨named rfl, placed rfl⟩

private theorem errand_observes (errand : Errand) :
    errand.activity.Observes sieve.terms fun _ => True := by
  have carries : ∀ transfer, (carryOut errand.dns errand.settings errand.arrange errand.id transfer).Observes
      sieve.terms fun _ => True := by
    intro transfer
    obtain ⟨rest, begins, observed⟩ := errand.perform_begins transfer.zone
    have performs : (errand.perform transfer.zone).Observes sieve.terms fun _ => True := by
      rw [begins]
      exact ⟨trivial, fun given _ => observed _ (allow_transfers sieve) given⟩
    apply observes_bind performs
    intro result _
    exact ⟨trivial, fun _ _ => observes_pure trivial⟩
  unfold Errand.activity process
  split
  · exact observes_pure trivial
  · apply observes_ask trivial
    intro known _
    split
    · exact observes_pure trivial
    · exact observes_pure trivial
    · apply observes_ask trivial
      intro now _
      apply observes_ask trivial
      intro added _
      split
      · exact observes_pure trivial
      · split
        · exact observes_pure trivial
        · exact carries _

end Sieve

/-! ## The main theorem -/

/-- What somebody who looks for hosts has to do. -/
inductive Job where
  /-- To look into drawn addresses. -/
  | draws (addresses : List Address)
  /-- To ask for the zone of a name. -/
  | zone (errand : Errand)

/-- What somebody does who has a job. -/
def Job.activity : Job → Activity Unit
  | .draws addresses => Generate.workThrough addresses
  | .zone errand => errand.activity

/-- The rules that the screens of a world are made of. -/
def World.sieve (w : World) : Sieve := ⟨w.names.rules, w.addresses.rules, w.tests⟩

/-- **No refused host is acquired.** Any number of jobs share the screens of a world. Their requests are
interleaved in any order; the name system, the servers and the cache answer what they like and change all the
time. Only addresses outside all networks are resolved. A host that is passed on or given to storage, and so
every new host that has come that way, has a name that fits none of the patterns and an address outside all
networks, as patterns and networks were at the beginning. -/
theorem no_refused_host_is_acquired (w : World) (jobs : List Job) (history : List Crew.Step) :
    let crew : Crew := ⟨w, jobs.map Job.activity⟩
    (∀ exchange ∈ crew.exchanges history, ∀ address, exchange.2.1 = .reverse address →
      w.sieve.PassesAddress address) ∧
    (∀ exchange ∈ crew.exchanges history, ∀ host,
      exchange.2.1 = .sendHost host ∨ exchange.2.1 = .hostAdd host → w.sieve.Passes host) ∧
    (∀ host ∈ (crew.follow history).world.sentHosts, host ∈ w.sentHosts ∨ w.sieve.Passes host) ∧
    ∀ host ∈ (crew.follow history).world.store.hosts, host ∈ w.store.hosts ∨ w.sieve.Passes host := by
  intro crew
  have upheld := w.sieve.terms_upheld w.store.hosts w.sentHosts
  have abides : crew.Abides w.sieve.terms (w.sieve.Sifts w.store.hosts w.sentHosts) := by
    refine ⟨⟨.refl _, .refl _, rfl, fun _ old => .inl old, fun _ old => .inl old⟩, ?_⟩
    intro activity member
    obtain ⟨job, _, rfl⟩ := List.mem_map.mp member
    cases job with
    | draws addresses => exact Sieve.workThrough_observes addresses
    | zone errand => exact Sieve.errand_observes errand
  have permitted := Crew.permitted_in_history upheld abides history
  have after := (Crew.abides_follow upheld abides history).world
  refine ⟨?_, ?_, after.queue, after.store⟩
  · intro exchange asked address same
    have allowed := permitted exchange asked
    rw [same] at allowed
    exact allowed
  · intro exchange asked host same
    have allowed := permitted exchange asked
    rcases same with sent | stored
    · rw [sent] at allowed
      exact allowed
    · rw [stored] at allowed
      exact allowed

end HostSurvey
