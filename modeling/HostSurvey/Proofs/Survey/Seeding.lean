import HostSurvey.Proofs.Survey.Hosts
import HostSurvey.Survey.Seeds
/-!
# What is kept of a seed

Whether an address is known is one request, and keeping a host there is another. So somebody else may give storage a
host at an address of a seed in between. Storage then refuses the host of the seed, which ends there, although it
passes over an address that was known when it asked.

1. What an activity has asked divides a history into what was before and what came after (`asked_at`).
2. By induction on the addresses of a seed: it leaves none behind that is not known, and it ends early only where
   somebody has overtaken it (`keepSeed_keeps`).
3. The main theorem says so of a seed in any crew. That a seed does leave out an address is shown behind it.
-/
namespace HostSurvey

open Net Activity

/-! ## Moments of a history -/

namespace Crew

variable {c : Crew} {place : Nat} {exchange : Exchange} {first after : List Step} {step : Step}

/-- The moment at which an activity has asked something. -/
theorem asked_at (asked : List Exchange) {later : List Exchange} {history : List Step}
    (course : heard place (c.exchanges history) = asked ++ exchange :: later) :
    ∃ first step after, history = first ++ step :: after ∧ heard place (c.exchanges first) = asked ∧
      (c.follow first).exchange? step = some (place, exchange) ∧
      heard place (((c.follow first).step step).exchanges after) = later := by
  induction history generalizing c asked with
  | nil => exact absurd course (by simp [exchanges, heard])
  | cons step rest ih =>
    rw [exchanges, heard_append] at course
    -- A step of the activity's own takes the first of its exchanges away, any other step takes none.
    have onward : ∀ {before : List Exchange}, heard place (c.exchange? step).toList ++ before = asked →
        heard place ((c.step step).exchanges rest) = before ++ exchange :: later →
        ∃ first now after, step :: rest = first ++ now :: after ∧ heard place (c.exchanges first) = asked ∧
          (c.follow first).exchange? now = some (place, exchange) ∧
          heard place (((c.follow first).step now).exchanges after) = later := by
      intro before joined course
      obtain ⟨first, now, after, rfl, earlier, said, others⟩ := ih before course
      refine ⟨step :: first, now, after, rfl, ?_, said, others⟩
      rw [exchanges, heard_append, earlier, joined]
    by_cases own : ∃ given, c.exchange? step = some (place, given)
    · obtain ⟨given, said⟩ := own
      have alone : heard place (c.exchange? step).toList = [given] := by simp [said, heard]
      rw [alone] at course
      cases asked with
      | nil =>
        cases course
        exact ⟨[], step, rest, rfl, rfl, said, rfl⟩
      | cons one before =>
        obtain ⟨rfl, others⟩ := List.cons.inj course
        exact onward (by rw [alone]; rfl) others
    · have silent : heard place (c.exchange? step).toList = [] := by
        refine List.eq_nil_iff_forall_not_mem.mpr fun given member => own ⟨given, ?_⟩
        exact Option.mem_toList.mp (mem_heard.mp member)
      rw [silent] at course
      exact onward (by rw [silent]; rfl) course

/-- What is asked in a history is what is asked before a moment, at it and after it. -/
theorem exchanges_at (said : (c.follow first).exchange? step = some (place, exchange)) :
    c.exchanges (first ++ step :: after) =
      c.exchanges first ++ (place, exchange) :: ((c.follow first).step step).exchanges after := by
  rw [exchanges_append, exchanges, said]
  rfl

theorem exchanges_later :
    ((c.follow first).step step).exchanges after <:+ c.exchanges (first ++ step :: after) := by
  rw [exchanges_append, exchanges]
  exact (List.suffix_append _ _).trans (List.suffix_append _ _)

theorem follow_at : c.follow (first ++ step :: after) = ((c.follow first).step step).follow after :=
  follow_append c first (step :: after)

end Crew

variable {c : Crew} {place : Nat}

/-! ## The end of a seed -/

/-- Storage said that an address is not known, and later it refused a host there. In between somebody else had given
it one. -/
def Overtaken (place : Nat) (address : Address) (log : List (Nat × Exchange)) : Prop :=
  ∃ before between after host fault,
    log = before ++ (place, ⟨.hostExists address, .ok false⟩) :: between ++
      (place, ⟨.hostAdd host, .error fault⟩) :: after ∧
    host.address = address ∧
    ∃ other newcomer stored, other ≠ place ∧ newcomer.address = address ∧
      (other, (⟨.hostAdd newcomer, .ok stored⟩ : Exchange)) ∈ between

/-- How a seed ends, by what was asked and which addresses are known. -/
inductive Seeded (place : Nat) (log : List (Nat × Exchange)) (asked : List Exchange) (known : List Address) :
    List Address → Except Error Unit → Prop where
  /-- All its addresses are known. -/
  | whole {addresses : List Address} (all : ∀ address ∈ addresses, address ∈ known) :
      Seeded place log asked known addresses (.ok ())
  /-- It was overtaken at an address. No host was kept for it at the others behind. -/
  | cut (before : List Address) (address : Address) (rest : List Address)
      (kept : ∀ other ∈ before ++ [address], other ∈ known) (overtaken : Overtaken place address log)
      (untried : ∀ host given, ⟨.hostAdd host, given⟩ ∈ asked → host.address ∈ before ++ [address]) :
      Seeded place log asked known (before ++ address :: rest)
        (.error (.storage ("host " ++ address.text ++ " is already known")))

section Ends
variable {address : Address} {addresses rest known : List Address} {asked : List Exchange} {name : String}
  {late log : List (Nat × Exchange)} {result : Except Error Unit}

private theorem Overtaken.of_suffix (overtaken : Overtaken place address late) (more : late <:+ log) :
    Overtaken place address log := by
  obtain ⟨earlier, rfl⟩ := more
  obtain ⟨before, between, after, host, fault, rfl, placed, others⟩ := overtaken
  exact ⟨earlier ++ before, between, after, host, fault, by simp, placed, others⟩

private theorem Seeded.of_suffix (seeded : Seeded place late asked known addresses result) (more : late <:+ log) :
    Seeded place log asked known addresses result := by
  cases seeded with
  | whole all => exact .whole all
  | cut before address behind kept overtaken untried =>
    exact .cut before address behind kept (overtaken.of_suffix more) untried

/-- A seed that goes on with the rest of its addresses ends as it does with the rest. -/
private theorem Seeded.of_rest (seeded : Seeded place log asked known rest result) (present : address ∈ known)
    (begun : List Exchange) (own : ∀ host given, ⟨.hostAdd host, given⟩ ∈ begun → host.address = address) :
    Seeded place log (begun ++ asked) known (address :: rest) result := by
  cases seeded with
  | whole all => exact .whole (List.forall_mem_cons.mpr ⟨present, all⟩)
  | cut before other behind kept overtaken untried =>
    refine .cut (address :: before) other behind ?_ overtaken ?_
    · exact List.forall_mem_cons.mpr ⟨present, kept⟩
    · intro host given member
      rcases List.mem_append.mp member with first | later
      · exact own host given first ▸ List.mem_cons_self
      · exact List.mem_cons_of_mem _ (untried host given later)

/-- Who is told that an address is not known, and is refused a host there later, has been overtaken. -/
private theorem overtaken_at {first between after : List Crew.Step} {step now : Crew.Step} {host : Host} {fault : Error}
    (sound : c.world.store.faults = [])
    (said : (c.follow first).exchange? step = some (place, ⟨.hostExists host.address, .ok false⟩))
    (refused : (((c.follow first).step step).follow between).exchange? now =
      some (place, ⟨.hostAdd host, .error fault⟩))
    (waited : ∀ newcomer given, (⟨.hostAdd newcomer, given⟩ : Exchange) ∉
      Crew.heard place (((c.follow first).step step).exchanges between)) :
    Overtaken place host.address (c.exchanges (first ++ step :: (between ++ now :: after))) := by
  obtain ⟨unknown, same⟩ := exists_told (history_sound sound first) said
  have soundly := (step_hosts (history_sound sound first) step).2
  have known := ((add_told (history_sound soundly between) refused).2 fault rfl).1
  obtain old | ⟨other, newcomer, stored, placed, member⟩ := became_known soundly between known
  · rw [same] at old
    cases unknown.trans (congrArg _ (decide_eq_true old))
  · let told := (c.follow first).step step
    refine ⟨c.exchanges first, told.exchanges between, ((told.follow between).step now).exchanges after, host, fault,
      ?_, rfl, other, newcomer, stored, ?_, placed, member⟩
    · rw [Crew.exchanges_at said, Crew.exchanges_at refused, List.append_assoc]
      rfl
    · rintro rfl
      exact waited newcomer _ (Crew.mem_heard.mpr member)

/-- A seed goes through its addresses until somebody overtakes it. -/
theorem keepSeed_keeps (sound : c.world.store.faults = []) {history : List Crew.Step} {later : List Exchange}
    (course : Crew.heard place (c.exchanges history) = asked ++ later)
    (ended : (keepSeed name addresses).Reaches asked (.done result)) :
    Seeded place (c.exchanges history) asked (c.follow history).world.store.known addresses result := by
  induction addresses generalizing c history asked with
  | nil =>
    obtain ⟨rfl, same⟩ := reaches_done ended
    cases same
    exact .whole nofun
  | cons address rest ih =>
    unfold keepSeed at ended
    obtain ⟨given, since, rfl, asking⟩ := ended_request ended
    obtain ⟨first, step, after, rfl, _, said, others⟩ := Crew.asked_at [] course
    obtain ⟨rfl, same⟩ := exists_told (history_sound sound first) said
    have soundly := (step_hosts (history_sound sound first) step).2
    -- What follows the answer is a history of the crew as it is then, so the induction goes over all crews.
    rw [Crew.follow_at]
    by_cases known : address ∈ (c.follow first).world.store.known
    · rw [decide_eq_true known] at asking ⊢
      have present := known_lasts soundly after (same ▸ known)
      have seeded := (ih soundly others asking).of_suffix Crew.exchanges_later
      exact seeded.of_rest present [⟨.hostExists address, .ok true⟩] (by simp)
    · rw [decide_eq_false known] at asking said ⊢
      obtain ⟨stamp, since, rfl, timing⟩ := ended_request asking
      obtain ⟨added, since, rfl, adding⟩ := ended_request timing
      obtain ⟨between, now, after, rfl, waited, told, behind⟩ := Crew.asked_at [⟨.now, stamp⟩] others
      obtain ⟨kept, refused⟩ := add_told (history_sound soundly between) told
      have last := (step_hosts (history_sound soundly between) now).2
      have present : address ∈ _ := known_lasts last after kept
      rw [Crew.follow_at]
      cases added with
      | ok stored =>
        have seeded := (ih last behind adding).of_suffix (Crew.exchanges_later.trans Crew.exchanges_later)
        refine seeded.of_rest present [⟨.hostExists address, .ok false⟩, ⟨.now, stamp⟩, ⟨.hostAdd _, .ok stored⟩] ?_
        simp +contextual
      | error fault =>
        obtain ⟨before, rfl⟩ := refused fault rfl
        obtain ⟨rfl, same⟩ := reaches_done adding
        cases same
        refine .cut [] address rest (by simpa using present) ?_ (by simp)
        refine overtaken_at sound said told fun newcomer given member => ?_
        rw [waited] at member
        cases List.mem_singleton.mp member

end Ends

/-! ## The main theorem -/

/-- How far a crew has come with a seed, and what is kept of it. -/
inductive Sowing (place : Nat) (name : String) (c : Crew) (history : List Crew.Step) : Prop where
  /-- The seed is still going on. -/
  | goesOn (rest : Activity (Except Error Unit)) (r : Request) (asks : rest.asks? = some r)
      (begun : (addSeed name).Reaches (Crew.heard place (c.exchanges history)) rest)
  /-- The name system did not tell its addresses. -/
  | unresolved (fault : Error) (later : List Exchange)
      (course : Crew.heard place (c.exchanges history) = ⟨.addresses name, .error fault⟩ :: later)
  | returned (addresses : List Address) (asked later : List Exchange) (result : Except Error Unit)
      (course : Crew.heard place (c.exchanges history) = ⟨.addresses name, .ok addresses⟩ :: asked ++ later)
      (ended : (addSeed name).Reaches (⟨.addresses name, .ok addresses⟩ :: asked) (.done result))
      (seeded : Seeded place (c.exchanges history) asked (c.follow history).world.store.known addresses result)

private theorem returned_sowing (sound : c.world.store.faults = []) {name : String} {history : List Crew.Step}
    {asked later : List Exchange} {result : Except Error Unit}
    (course : Crew.heard place (c.exchanges history) = asked ++ later)
    (ended : (addSeed name).Reaches asked (.done result)) : Sowing place name c history := by
  obtain ⟨given, since, rfl, looking⟩ := ended_request (r := .addresses name) ended
  cases given with
  | error fault => exact .unresolved fault _ course
  | ok addresses =>
    obtain ⟨first, step, after, rfl, _, _, others⟩ := Crew.asked_at [] course
    have soundly := (step_hosts (history_sound sound first) step).2
    have seeded := (keepSeed_keeps soundly others looking).of_suffix Crew.exchanges_later
    exact .returned addresses since later result course ended (Crew.follow_at ▸ seeded)

/-- **A seed is kept unless it is overtaken.** In a crew whose storage refuses nothing that is not known, somebody adds
a seed. Whatever the others do, and in whatever order all take their turns: when the seed has ended and its name has
addresses, each of them is known, or the seed was overtaken at one of them. Then all up to this one are known, the seed
says that this one is, and no host was kept for it behind. -/
theorem a_seed_is_kept_unless_overtaken (c : Crew) (sound : c.world.store.faults = []) (place : Nat) (name : String)
    (next : Except Error Unit → Activity Unit) (there : c.activities[place]? = some (addSeed name >>= next))
    (history : List Crew.Step) : Sowing place name c history := by
  obtain ⟨now, _, reached⟩ := Crew.reaches_in_history there history
  rcases reaches_bind reached with ⟨rest, begun, _⟩ | ⟨asked, later, result, course, ended, _⟩
  · cases rest with
    | done result => exact returned_sowing sound (List.append_nil _).symm begun
    | ask r next => exact .goesOn _ r rfl begun
  · exact returned_sowing sound course ended

/-- The addresses of a name. -/
private def twoAddresses : List Address := [.ofOctets [198, 252, 206, 16], .ofOctets [198, 252, 206, 17]]

/-- A seed is added, and beside it a drawn host at the first of its addresses is kept. -/
private def seedCrew : Crew where
  world :=
    { names := []
      addresses := []
      store := .empty
      cache := .empty
      directory := { Directory.empty with addresses := fun _ => .ok twoAddresses }
      servers := fun _ => .absent
      traces := .off
      now := ⟨0, 0⟩ }
  activities := [sow ["www.krylon.net"],
    forward [⟨none, .ofOctets [198, 252, 206, 16], "ns1.krylon.net.", .generated, ⟨0, 0⟩⟩]]

/-- The drawn host is kept before the seed asks for the address: the seed passes over it, and all addresses are
known. -/
theorem a_seed_passes_over_a_known_address :
    let history : List Crew.Step := [.turn 0, .turn 1, .turn 0, .turn 0, .turn 0, .turn 0]
    Sowing 0 "www.krylon.net" seedCrew history ∧ (seedCrew.follow history).world.store.known = twoAddresses :=
  ⟨a_seed_is_kept_unless_overtaken seedCrew rfl 0 "www.krylon.net" _ rfl _, by decide⟩

/-- The drawn host is kept when the seed has asked for the address already: the seed ends there, and its second address
is not known. -/
theorem an_overtaken_seed_leaves_out_an_address :
    let history : List Crew.Step := [.turn 0, .turn 0, .turn 1, .turn 0, .turn 0]
    seedCrew.world.store.faults = [] ∧
      (∃ asked fault,
        Crew.heard 0 (seedCrew.exchanges history) = ⟨.addresses "www.krylon.net", .ok twoAddresses⟩ :: asked ∧
        (addSeed "www.krylon.net").Reaches (⟨.addresses "www.krylon.net", .ok twoAddresses⟩ :: asked)
          (.done (.error fault))) ∧
      ¬∀ address ∈ twoAddresses, address ∈ (seedCrew.follow history).world.store.known := by
  let fault := Error.storage ("host " ++ (Address.ofOctets [198, 252, 206, 16]).text ++ " is already known")
  refine ⟨rfl, ⟨_, fault, rfl, ?_⟩, by decide⟩
  exact .on (.on (.on (.on .here)))

end HostSurvey
