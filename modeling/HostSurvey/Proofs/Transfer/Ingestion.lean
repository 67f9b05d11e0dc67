import HostSurvey.Proofs.Survey.Acquisition
import HostSurvey.Proofs.Survey.Course
import Mathlib
/-!
# Records as a filter

What hosts become of records is told without the course of their ingestion.

1. A record names candidates: names with addresses, some of which are looked up (`candidates`). Candidates that a
   screen refuses are left out, and of those at one address the first one is taken, unless the address is known
   (`Sieve.newcomers`).
2. Each part of the ingestion keeps just the newcomers among its candidates (`Yields`), and two parts in a row those
   of both (`yields_bind`). The screens change all the time, but not in what they refuse, and time goes on.
3. So records in a row keep the newcomers among all their candidates. Which addresses are known then does not depend
   on the order of the records, and nothing new comes of the same records (`ingestion_is_a_filter`).
-/
namespace HostSurvey

open Net Dns Screen Activity

/-! ## Candidates -/

/-- A host that may come of a record. -/
structure Candidate where
  name : String
  address : Address
  source : HostSource
  deriving Repr, DecidableEq

/-- What is told of a host apart from its number and when it came. -/
def Host.candidate (host : Host) : Candidate := ⟨host.name, host.address, host.source⟩

/-- The first candidate at each address that is not known. -/
def firsts : List Address → List Candidate → List Candidate
  | _, [] => []
  | known, c :: rest => if c.address ∈ known then firsts known rest else c :: firsts (known ++ [c.address]) rest

theorem firsts_append (known : List Address) (first later : List Candidate) :
    firsts known (first ++ later) =
      firsts known first ++ firsts (known ++ (firsts known first).map (·.address)) later := by
  induction first generalizing known with
  | nil => simp [firsts]
  | cons c rest ih =>
    simp only [List.cons_append, firsts]
    by_cases old : c.address ∈ known
    · simp only [if_pos old, ih]
    · simp only [if_neg old, ih, List.cons_append, List.map_cons, List.append_assoc, List.nil_append]

theorem mem_firsts {known : List Address} {cs : List Candidate} {address : Address} :
    address ∈ known ++ (firsts known cs).map (·.address) ↔ address ∈ known ++ cs.map (·.address) := by
  induction cs generalizing known with
  | nil => simp [firsts]
  | cons c rest ih =>
    simp only [firsts]
    by_cases old : c.address ∈ known
    · rw [if_pos old, ih]
      simp only [List.mem_append, List.map_cons, List.mem_cons]
      grind
    · have onward := @ih (known ++ [c.address])
      rw [if_neg old]
      simpa only [List.append_assoc, List.map_cons, List.cons_append, List.nil_append] using onward

/-- Nothing is first where all is known. -/
theorem firsts_known {known : List Address} {cs : List Candidate} (old : ∀ c ∈ cs, c.address ∈ known) :
    firsts known cs = [] := by
  induction cs with
  | nil => rfl
  | cons c rest ih =>
    rw [firsts, if_pos (old c List.mem_cons_self)]
    exact ih fun other member => old other (List.mem_cons_of_mem c member)

namespace Sieve

instance (sieve : Sieve) (name : String) : Decidable (sieve.PassesName name) :=
  inferInstanceAs (Decidable (∀ pattern ∈ sieve.patterns, sieve.tests.fitsName pattern name = false))

instance (sieve : Sieve) (address : Address) : Decidable (sieve.PassesAddress address) :=
  inferInstanceAs (Decidable (∀ network ∈ sieve.networks, sieve.tests.fitsAddress network address = false))

/-- The candidates that neither screen refuses, at addresses that are not known, the first one at each. -/
def newcomers (sieve : Sieve) (known : List Address) (cs : List Candidate) : List Candidate :=
  firsts known (cs.filter fun c => sieve.PassesName c.name ∧ sieve.PassesAddress c.address)

end Sieve

namespace Transfer

/-- The candidates of a record. A name that cannot be looked up has no addresses. -/
def candidates (dns : Library) (look : String → Except Error (List Address)) (r : Record) : List Candidate :=
  let named (name : String) (source : HostSource) :=
    ((look name).toOption.getD []).map fun address => Candidate.mk name address source
  match r.data with
  | some (.address address) => [⟨dns.nameText r.owner, address, .address⟩]
  | some (.name target) => if r.type = .ns then named (dns.nameText target) .nameserver else []
  | some (.exchanger _ target) => named (dns.nameText target) .exchanger
  | _ => []

/-! ## A world in which time goes on -/

/-- Answers a request at the next moment of a clock. -/
def ticking (clock : Nat → Moment) (r : Request) (s : World × Nat) : r.Answer × (World × Nat) :=
  let (given, w) := World.answer r { s.1 with now := clock s.2 }
  (given, w, s.2 + 1)

/-- The world after records were ingested, while a clock showed the time. -/
def ingestAll (dns : Library) (clock : Nat → Moment) (records : List Record) (w : World) : World :=
  ((records.forM (ingest dns)).run (ticking clock) (w, 0)).2.2.1

/-- A world with screens that are made of the rules of a sieve, a name system and a store without faults. -/
structure Screened (sieve : Sieve) (look : String → Except Error (List Address)) (w : World) : Prop where
  names : w.names.rules.Perm sieve.patterns
  addresses : w.addresses.rules.Perm sieve.networks
  tests : w.tests = sieve.tests
  directory : w.directory.addresses = look
  sound : w.store.faults = []

/-- Of some candidates, a store keeps the newcomers. -/
def Keeps (sieve : Sieve) (cs : List Candidate) (s t : Store) : Prop :=
  ∃ hosts : List Host, hosts.map Host.candidate = sieve.newcomers s.known cs ∧
    t = { s with hosts := s.hosts ++ hosts, lastId := s.lastId + hosts.length }

/-- An activity keeps the newcomers among some candidates, whatever the time. -/
def Yields (sieve : Sieve) (look : String → Except Error (List Address)) (a : Activity Unit)
    (cs : List Candidate) : Prop :=
  ∀ clock w n, Screened sieve look w →
    let after := (a.run (ticking clock) (w, n)).2.2.1
    Screened sieve look after ∧ Keeps sieve cs w.store after.store

section
variable {dns : Library} {sieve : Sieve} {look : String → Except Error (List Address)} {s t u : Store}
  {cs ds : List Candidate}

theorem keeps_nothing (old : sieve.newcomers s.known cs = []) : Keeps sieve cs s s :=
  ⟨[], old.symm, by simp⟩

theorem keeps_append (first : Keeps sieve cs s t) (later : Keeps sieve ds t u) : Keeps sieve (cs ++ ds) s u := by
  obtain ⟨hosts, same, rfl⟩ := first
  obtain ⟨others, same', rfl⟩ := later
  refine ⟨hosts ++ others, ?_, ?_⟩
  · have addresses : hosts.map (·.address) = (sieve.newcomers s.known cs).map (·.address) := by
      rw [← same, List.map_map]
      rfl
    rw [List.map_append, same, same']
    -- The second part starts with the addresses of the first one among those that are known.
    simp only [Sieve.newcomers, Store.known, List.map_append, List.filter_append, firsts_append] at addresses ⊢
    rw [addresses]
  · simp only [List.append_assoc, List.length_append, Int.natCast_add, Int.add_assoc]

variable {a b : Activity Unit}

theorem yields_nothing (refused : ∀ c ∈ cs, ¬(sieve.PassesName c.name ∧ sieve.PassesAddress c.address)) :
    Yields sieve look (pure ()) cs := by
  intro clock w n screened
  refine ⟨screened, keeps_nothing ?_⟩
  have refusedAll : cs.filter (fun c => sieve.PassesName c.name ∧ sieve.PassesAddress c.address) = [] := by
    simpa [List.filter_eq_nil_iff] using refused
  rw [Sieve.newcomers, refusedAll]
  rfl

theorem yields_bind (first : Yields sieve look a cs) (later : Yields sieve look b ds) :
    Yields sieve look (a >>= fun _ => b) (cs ++ ds) := by
  intro clock w n screened
  obtain ⟨between, kept⟩ := first clock w n screened
  rw [run_bind]
  obtain ⟨after, keptLater⟩ := later clock _ (a.run (ticking clock) (w, n)).2.2.2 between
  exact ⟨after, keeps_append kept keptLater⟩

/-- A request that leaves storage as it is, and the screens with their rules. -/
theorem yields_request {r : Request} {next : r.Answer → Activity Unit}
    (quiet : ∀ clock w n, Screened sieve look w → Screened sieve look (ticking clock r (w, n)).2.1 ∧
      (ticking clock r (w, n)).2.1.store = w.store ∧ Yields sieve look (next (ticking clock r (w, n)).1) cs) :
    Yields sieve look (Activity.request r >>= next) cs := by
  intro clock w n screened
  obtain ⟨still, same, onward⟩ := quiet clock w n screened
  obtain ⟨after, kept⟩ := onward clock _ (ticking clock r (w, n)).2.2 still
  rw [same] at kept
  rw [run_request]
  exact ⟨after, kept⟩

/-- What the screen for names says is settled by the patterns. -/
theorem yields_screenName {name : String} {next : Bool → Activity Unit}
    (onward : ∀ refused, (refused = false ↔ sieve.PassesName name) → Yields sieve look (next refused) cs) :
    Yields sieve look (Activity.request (.screenName name) >>= next) cs := by
  refine yields_request fun clock w n screened => ?_
  have rules : (w.names.check w.tests name).2.rules.Perm sieve.patterns :=
    (RuleList.check_rules w.names).trans screened.names
  have passed : (w.names.check w.tests name).1 = false ↔ sieve.PassesName name := by
    rw [screened.tests, Sieve.checkName_eq_false screened.names]
  exact ⟨⟨rules, screened.addresses, screened.tests, screened.directory, screened.sound⟩, rfl, onward _ passed⟩

theorem yields_screenAddress {address : Address} {next : Bool → Activity Unit}
    (onward : ∀ refused, (refused = false ↔ sieve.PassesAddress address) → Yields sieve look (next refused) cs) :
    Yields sieve look (Activity.request (.screenAddress address) >>= next) cs := by
  refine yields_request fun clock w n screened => ?_
  have rules : (w.addresses.check w.tests address).2.rules.Perm sieve.networks :=
    (RuleList.check_rules w.addresses).trans screened.addresses
  have passed : (w.addresses.check w.tests address).1 = false ↔ sieve.PassesAddress address := by
    rw [screened.tests, Sieve.checkAddress_eq_false screened.addresses]
  exact ⟨⟨screened.names, rules, screened.tests, screened.directory, screened.sound⟩, rfl, onward _ passed⟩

theorem yields_addresses {name : String} {next : Except Error (List Address) → Activity Unit}
    (onward : Yields sieve look (next (look name)) cs) :
    Yields sieve look (Activity.request (.addresses name) >>= next) cs := by
  refine yields_request fun clock w n screened => ?_
  have found : (ticking clock (.addresses name) (w, n)).1 = look name := congrFun screened.directory name
  rw [found]
  exact ⟨⟨screened.names, screened.addresses, screened.tests, screened.directory, screened.sound⟩, rfl, onward⟩

/-! ## Parts of the ingestion -/

theorem yields_addIfNew {address : Address} {name : String} {source : HostSource}
    (passes : sieve.PassesName name ∧ sieve.PassesAddress address) :
    Yields sieve look (addIfNew address name source) [⟨name, address, source⟩] := by
  intro clock w n screened
  have answered : ticking clock (.hostExists address) (w, n) =
      (.ok (decide (address ∈ w.store.known)), { w with now := clock n }, n + 1) :=
    congrArg (·, { w with now := clock n }, n + 1) (Store.hasHost_sound screened.sound address)
  by_cases old : address ∈ w.store.known
  · have ran : ((addIfNew address name source).run (ticking clock) (w, n)).2.2.1 = { w with now := clock n } := by
      unfold addIfNew
      rw [run_request, answered]
      simp only [old, decide_true]
      rfl
    rw [ran]
    refine ⟨⟨screened.names, screened.addresses, screened.tests, screened.directory, screened.sound⟩, keeps_nothing ?_⟩
    simp [Sieve.newcomers, passes, firsts, old]
  -- The host bears the moment between the question whether it is known and its addition.
  · let host : Host := ⟨none, address, name, source, clock (n + 1)⟩
    let stored : Host := { host with id := some (w.store.lastId + 1) }
    let store : Store := { w.store with hosts := w.store.hosts ++ [stored], lastId := w.store.lastId + 1 }
    have added : w.store.addHost host = .ok (stored, store) := Store.addHost_unknown screened.sound old
    have kept : ticking clock (.hostAdd host) ({ w with now := clock (n + 1) }, n + 2) =
        (.ok stored, { w with now := clock (n + 2), store := store }, n + 3) := by
      simp only [ticking, World.answer, World.storing, added]
    have ran : ((addIfNew address name source).run (ticking clock) (w, n)).2.2.1 =
        { w with now := clock (n + 2), store := store } := by
      unfold addIfNew
      rw [run_request, answered]
      simp only [old, decide_false]
      exact congrArg (·.2.1) kept
    rw [ran]
    refine ⟨⟨screened.names, screened.addresses, screened.tests, screened.directory, screened.sound⟩, [stored], ?_, rfl⟩
    simp [Sieve.newcomers, passes, firsts, old, stored, host, Host.candidate]

theorem yields_addAddress (name : String) (address : Address) :
    Yields sieve look (addAddress name address) [⟨name, address, .address⟩] := by
  refine yields_screenName fun refused named => ?_
  cases refused with
  | true => exact yields_nothing (by simp_all)
  | false =>
    refine yields_screenAddress fun refused placed => ?_
    cases refused with
    | true => exact yields_nothing (by simp_all)
    | false => exact yields_addIfNew ⟨named.mp rfl, placed.mp rfl⟩

theorem yields_addEach {name : String} (named : sieve.PassesName name) (source : HostSource)
    (addresses : List Address) : Yields sieve look (addEach name source addresses)
      (addresses.map fun address => ⟨name, address, source⟩) := by
  induction addresses with
  | nil => exact yields_nothing (by simp)
  | cons address rest ih =>
    rw [List.map_cons, ← List.singleton_append]
    refine yields_screenAddress fun refused placed => ?_
    cases refused with
    | true =>
      have nothing : Yields sieve look (pure ()) [⟨name, address, source⟩] := yields_nothing (by simp_all)
      exact yields_bind nothing ih
    | false => exact yields_bind (yields_addIfNew ⟨named, placed.mp rfl⟩) ih

theorem yields_addNamed (name : String) (source : HostSource) : Yields sieve look (addNamed name source)
    (((look name).toOption.getD []).map fun address => ⟨name, address, source⟩) := by
  refine yields_screenName fun refused named => ?_
  cases refused with
  | true => exact yields_nothing (by simp_all)
  | false =>
    refine yields_addresses ?_
    cases look name with
    | error e => exact yields_nothing (by simp [Except.toOption])
    | ok addresses => exact yields_addEach (named.mp rfl) source addresses

theorem yields_ingest (r : Record) : Yields sieve look (ingest dns r) (candidates dns look r) := by
  unfold ingest candidates
  cases r.data with
  | none => exact yields_nothing (by simp)
  | some data =>
    cases data with
    | address address => exact yields_addAddress _ address
    | exchanger preference target => exact yields_addNamed (dns.nameText target) .exchanger
    | name target =>
      dsimp only
      split
      · exact yields_addNamed (dns.nameText target) .nameserver
      · exact yields_nothing (by simp)
    | _ => exact yields_nothing (by simp)

theorem yields_records (records : List Record) :
    Yields sieve look (records.forM (ingest dns)) (records.flatMap (candidates dns look)) := by
  induction records with
  | nil => exact yields_nothing (by simp)
  | cons r rest ih => exact yields_bind (yields_ingest r) ih

/-! ## The main theorem -/

/-- The known addresses afterwards are the old ones and those of the candidates that no screen refuses. -/
theorem keeps_known (kept : Keeps sieve cs s t) (address : Address) : address ∈ t.known ↔
    address ∈ s.known ∨ ∃ c ∈ cs, (sieve.PassesName c.name ∧ sieve.PassesAddress c.address) ∧ c.address = address := by
  obtain ⟨hosts, same, rfl⟩ := kept
  have addresses : hosts.map (·.address) = (sieve.newcomers s.known cs).map (·.address) := by
    rw [← same, List.map_map]
    rfl
  simp only [Store.known, List.map_append, addresses]
  exact mem_firsts.trans (by simp [and_assoc])

/-- What has been kept is not kept again. -/
theorem keeps_again (kept : Keeps sieve cs s t) (again : Keeps sieve cs t u) : u = t := by
  have old : sieve.newcomers t.known cs = [] := by
    refine firsts_known fun c member => ?_
    obtain ⟨candidate, passes⟩ := List.mem_filter.mp member
    exact (keeps_known kept c.address).mpr (.inr ⟨c, candidate, of_decide_eq_true passes, rfl⟩)
  obtain ⟨hosts, same, rfl⟩ := again
  rw [old, List.map_eq_nil_iff] at same
  simp [same]

end

/-- What the ingestion of records comes to. -/
structure FiltersRecords (dns : Library) (sieve : Sieve) (w : World) (records : List Record) : Prop where
  /-- Storage keeps the newcomers among the candidates of the records, behind the hosts that it has. Nothing else of
  it changes but the greatest number. -/
  hosts : ∀ clock, Keeps sieve (records.flatMap (candidates dns w.directory.addresses)) w.store
    (ingestAll dns clock records w).store
  untouched : ∀ clock, (ingestAll dns clock records w).store.ports = w.store.ports ∧
    (ingestAll dns clock records w).store.zones = w.store.zones
  /-- The order of the records makes no difference to which addresses are known. -/
  order : ∀ clock clock' others, records.Perm others → ∀ address,
    address ∈ (ingestAll dns clock records w).store.known ↔ address ∈ (ingestAll dns clock' others w).store.known
  /-- The same records once more change nothing in storage. -/
  again : ∀ clock clock', (ingestAll dns clock' records (ingestAll dns clock records w)).store =
    (ingestAll dns clock records w).store

/-- **Ingestion is a filter.** However names are shown and tried, whatever the screens were tried on before, whatever
storage has, and whatever the name system says or fails to say of a name: records in a row add those of their
candidates that neither screen refuses, each unless its address is known by then. -/
theorem ingestion_is_a_filter (dns : Library) {sieve : Sieve} {w : World} (names : w.names.rules.Perm sieve.patterns)
    (addresses : w.addresses.rules.Perm sieve.networks) (tests : w.tests = sieve.tests) (sound : w.store.faults = [])
    (records : List Record) :
    FiltersRecords dns sieve w records := by
  have screened : Screened sieve w.directory.addresses w := ⟨names, addresses, tests, rfl, sound⟩
  have kept : ∀ clock others, Keeps sieve (others.flatMap (candidates dns w.directory.addresses)) w.store
      (ingestAll dns clock others w).store := fun clock others => (yields_records others clock w 0 screened).2
  refine ⟨fun clock => kept clock records, ?_, ?_, ?_⟩
  · intro clock
    obtain ⟨hosts, _, after⟩ := kept clock records
    rw [after]
    exact ⟨rfl, rfl⟩
  · intro clock clock' others same address
    rw [keeps_known (kept clock records), keeps_known (kept clock' others)]
    simp only [(same.flatMap_right _).mem_iff]
  · intro clock clock'
    have ingested : Yields sieve w.directory.addresses (records.forM (ingest dns))
        (records.flatMap (candidates dns w.directory.addresses)) := yields_records records
    have after := (ingested clock w 0 screened).1
    exact keeps_again (kept clock records) (ingested clock' _ 0 after).2

/-- Names with an x or a y, and private addresses. -/
private def smallSieve : Sieve where
  patterns := [.set (.single 'x'), .set (.single 'y')]
  networks := [⟨.ofOctets [10, 0, 0, 0], 8⟩]
  tests := .standard

/-- The screen for names was tried on a name with a y, so that this pattern has come to stand in front. -/
private def smallWorld : World where
  names := (NameScreen.check .standard (.ofRules smallSieve.patterns) "y.").2
  addresses := .ofRules smallSieve.networks
  store := { Store.empty with hosts := [⟨some 1, .ofOctets [198, 51, 100, 1], "a.", .user, ⟨0, 0⟩⟩], lastId := 1 }
  cache := .empty
  directory := { Directory.empty with
    addresses := fun name => if name = "c." then
        .ok [.ofOctets [198, 51, 100, 2], .ofOctets [10, 0, 0, 1], .ofOctets [198, 51, 100, 2],
          .ofOctets [198, 51, 100, 3]]
      else .error .malformed }
  servers := fun _ => .refusing
  traces := .off
  now := ⟨0, 0⟩

/-- A known address, a refused name, a refused address, a name server with four addresses, one of its addresses
again, a mail exchanger that cannot be looked up, another name, and no data. -/
private def smallRecords : List Record := [
  ⟨⟨[[0x61]], by decide⟩, .a, .internet, 60, some (.address (.ofOctets [198, 51, 100, 1]))⟩,
  ⟨⟨[[0x78]], by decide⟩, .a, .internet, 60, some (.address (.ofOctets [198, 51, 100, 9]))⟩,
  ⟨⟨[[0x62]], by decide⟩, .a, .internet, 60, some (.address (.ofOctets [10, 0, 0, 9]))⟩,
  ⟨.root, .ns, .internet, 60, some (.name ⟨[[0x63]], by decide⟩)⟩,
  ⟨⟨[[0x64]], by decide⟩, .a, .internet, 60, some (.address (.ofOctets [198, 51, 100, 3]))⟩,
  ⟨.root, .mx, .internet, 60, some (.exchanger 10 ⟨[[0x65]], by decide⟩)⟩,
  ⟨.root, .ptr, .internet, 60, some (.name ⟨[[0x63]], by decide⟩)⟩,
  ⟨.root, .mx, .internet, 60, none⟩]

/-- Of all these records, one name with two addresses is new. -/
theorem two_new_hosts_among_eight_records :
    smallWorld.names.rules.Perm smallSieve.patterns ∧ smallWorld.addresses.rules.Perm smallSieve.networks ∧
      smallWorld.tests = smallSieve.tests ∧ smallWorld.store.faults = [] ∧
      FiltersRecords .standard smallSieve smallWorld smallRecords ∧
      ∀ clock, (ingestAll .standard clock smallRecords smallWorld).store.hosts.map Host.candidate =
        [⟨"a.", .ofOctets [198, 51, 100, 1], .user⟩, ⟨"c.", .ofOctets [198, 51, 100, 2], .nameserver⟩,
          ⟨"c.", .ofOctets [198, 51, 100, 3], .nameserver⟩] := by
  have names : smallWorld.names.rules.Perm smallSieve.patterns := RuleList.check_rules _
  have addresses : smallWorld.addresses.rules.Perm smallSieve.networks := .refl _
  have filters := ingestion_is_a_filter .standard names addresses rfl rfl smallRecords
  refine ⟨names, addresses, rfl, rfl, filters, ?_⟩
  intro clock
  obtain ⟨hosts, same, after⟩ := filters.hosts clock
  rw [after, List.map_append, same]
  cbv

end Transfer
end HostSurvey
