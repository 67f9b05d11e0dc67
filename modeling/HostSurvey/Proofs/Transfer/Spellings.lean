import HostSurvey.Proofs.Transfer.Lifecycle
import Mathlib.Data.List.Dedup
import Mathlib.Data.List.Perm.Subperm
/-!
# The spellings of a zone

To the name system a zone is the same with capital letters and with small ones, and with a dot at its end and
without. Storage knows a zone by its text, and the texts come from the names of hosts, some of which have a dot at
the end.

1. A zone is known if it was known at first or an errand has claimed it (`history_knows`). An errand that is over
   was told that its zone is known, or has claimed it (`over_settles`).
2. Only the zone of a host's name is claimed, and only if it was not known at first (`claimed_cases`).
3. `perform` is begun for a zone that is claimed, sooner or later (`begun_claimed`, `claimed_begun`). So it is begun
   once for each spelling, not for each zone.
-/
namespace HostSurvey.Transfer

open Net Activity

/-! ## Spellings -/

/-- The labels that a text spells, with small letters. `label` is what the label at hand has so far, the last
character first. A dot ends a label, unless it is escaped, and nothing need follow the last dot. -/
def spelled (label : List Char) : List Char → List (List Char)
  | [] => if label = [] then [] else [label.reverse]
  | '.' :: rest => label.reverse :: spelled [] rest
  | '\\' :: c :: rest => spelled (c.toLower :: '\\' :: label) rest
  | c :: rest => spelled (c.toLower :: label) rest

/-- Two texts that spell the same zone. -/
def SameZone (zone other : String) : Prop :=
  spelled [] zone.toList = spelled [] other.toList

instance (zone other : String) : Decidable (SameZone zone other) := by
  unfold SameZone; infer_instance

/-- The texts of the hosts' zones that are not known, each once. -/
def spellings (w : World) (errands : List Errand) : List String :=
  ((errands.filterMap fun errand => zoneOf errand.name).filter fun zone =>
    (w.store.zoneNamed? zone).isNone).dedup

/-- The zone that `perform` is begun for in an exchange. -/
def begun? : Nat × Exchange → Option String
  | (_, ⟨.nameservers zone, _⟩) => some zone
  | _ => none

/-- The zones that `perform` is begun for, in their order. -/
def begunZones (log : List (Nat × Exchange)) : List String :=
  log.filterMap begun?

theorem begins_eq (zone : String) (exchange : Nat × Exchange) :
    begins zone exchange.2 = (begun? exchange == some zone) := by
  obtain ⟨place, r, given⟩ := exchange
  cases r with
  | nameservers other => exact (Bool.beq_eq_decide_eq _ _).symm
  | _ => rfl

/-! ## One errand -/

/-- What tells that a zone is known, or makes it known, if storage works. -/
def settles (zone : String) : Exchange → Prop
  | ⟨.zoneGet other, given⟩ => other = zone ∧ given ≠ .ok none
  | ⟨.zoneAdd transfer, _⟩ => transfer.zone = zone
  | _ => False

namespace Errand

variable {errand : Errand} {zone : String} {asked : List Exchange} {now : Activity Unit}

/-- An errand that is over was told about its zone. -/
theorem over_settles (reached : errand.activity.Reaches asked (.done ())) (own : zoneOf errand.name = some zone) :
    ∃ exchange ∈ asked, settles zone exchange := by
  unfold activity process at reached
  rw [own] at reached
  obtain ⟨known, later, rfl, knowing⟩ := ended_request reached
  split at knowing
  · exact ⟨_, List.mem_cons_self, rfl, nofun⟩
  · exact ⟨_, List.mem_cons_self, rfl, nofun⟩
  · obtain ⟨start, later, rfl, starting⟩ := ended_request knowing
    obtain ⟨added, later, rfl, _⟩ := ended_request starting
    exact ⟨_, List.mem_cons_of_mem _ (List.mem_cons_of_mem _ List.mem_cons_self), rfl⟩

/-- The terms that permit to store transfers of one zone at most. -/
def ownZone (zone : Option String) : Terms :=
  ⟨fun r => ∀ transfer, r = .zoneAdd transfer → zone = some transfer.zone, fun _ _ => True⟩

theorem ownZone_allows (zone : Option String) : (ownZone zone).AllowTransfers where
  permitted r ofTransfer := by
    rintro transfer rfl
    exact ofTransfer.elim
  passed _ _ _ := nofun

private theorem activity_observes (errand : Errand) :
    errand.activity.Observes (ownZone (zoneOf errand.name)) fun _ => True := by
  unfold activity process
  split
  · exact observes_pure trivial
  · rename_i zone own
    refine observes_ask nofun fun known _ => ?_
    split
    · exact observes_pure trivial
    · exact observes_pure trivial
    · refine observes_ask nofun fun start _ => ?_
      refine observes_ask (by rintro transfer ⟨⟩; exact own) fun added _ => ?_
      cases added with
      | error fault => exact observes_pure trivial
      | ok stored =>
        dsimp only
        split
        · exact observes_pure trivial
        · obtain ⟨rest, first, observed⟩ := errand.perform_begins stored.zone
          have performs : (errand.perform stored.zone).Observes (ownZone (zoneOf errand.name)) fun _ => True := by
            rw [first]
            exact ⟨nofun, fun given _ => observed _ (ownZone_allows _) given⟩
          exact observes_bind performs fun result _ => ⟨nofun, fun _ _ => trivial⟩

/-- An errand stores a transfer of its own zone. -/
theorem adds_own {transfer : ZoneTransfer} {given : Except Error ZoneTransfer}
    (reached : errand.activity.Reaches asked now) (member : ⟨.zoneAdd transfer, given⟩ ∈ asked) :
    zoneOf errand.name = some transfer.zone :=
  (reaches_observes (fun _ _ => trivial) errand.activity_observes reached).1 _ member transfer rfl

/-- An errand that has claimed a zone is over when it has asked for the zone, if the record got a number. -/
theorem claimed_begins (stage : errand.Stage asked (.done ())) {transfer stored : ZoneTransfer}
    (numbered : stored.id.isSome) (member : ⟨.zoneAdd transfer, .ok stored⟩ ∈ asked) :
    ∃ given, ⟨.nameservers stored.zone, given⟩ ∈ asked := by
  have opened : ∀ name start kept, (⟨.zoneAdd transfer, .ok stored⟩ : Exchange) ∈ opening name start kept →
      kept = stored := by
    intro name start kept inside
    simp [opening] at inside
    exact inside.2.symm
  cases stage with
  | before heard next =>
    rcases heard _ member with plain | ⟨_, _, same⟩
    · exact plain.elim
    · cases same
  | unnumbered name start kept id heard closed =>
    cases opened _ _ _ (heard ▸ member)
    rw [id] at numbered
    cases numbered
  | during name start kept since rest heard performing next => cases rest <;> cases next
  | after name start kept since result answer heard performed closed =>
    rcases performing_asks performed with ⟨_, asks⟩ | ⟨given, later, rfl, plain, _⟩
    · cases asks
    · have same : kept = stored := by
        rcases List.mem_append.mp (heard ▸ member) with first | others
        · exact opened _ _ _ first
        · rcases List.mem_append.mp others with asking | last
          · rcases List.mem_cons.mp asking with same | behind
            · cases same
            · exact (plain _ behind).elim
          · cases List.mem_singleton.mp last
      subst same
      exact ⟨given, by rw [heard]; simp⟩

end Errand

/-! ## What is known -/

section Known
variable {w : World} {errands : List Errand} {history : List Crew.Step} {zone : String}

/-- Storage that works has told the truth about the zone, or has a transfer of it now. -/
theorem settled_known (regular : w.store.Regular) {r : Request} (settled : settles zone ⟨r, (World.answer r w).1⟩) :
    ((World.answer r w).2.store.zoneNamed? zone).isSome := by
  cases r with
  | zoneGet other =>
    obtain ⟨rfl, told⟩ := settled
    refine Option.isSome_iff_ne_none.mpr fun unknown => told ?_
    exact (Store.findZone_sound regular.sound other).trans (congrArg _ unknown)
  | zoneAdd transfer =>
    cases settled
    rcases answer_zoneAdd transfer regular with ⟨known, fault, refused⟩ | ⟨unknown, t, kept, zones, _⟩
    · rw [refused]
      exact known
    · rw [kept, Store.zoneNamed_append transfer.zone (by exact unknown) zones]
      simp
  | _ => exact settled.elim

/-- In a step a zone becomes known if it is claimed, and not otherwise. -/
theorem turn_knows {log : List (Nat × Exchange)} {before after : World} {said : Option (Nat × Exchange)}
    (turn : Turn errands log before after said) (zone : String) :
    (after.store.zoneNamed? zone).isSome ↔
      (before.store.zoneNamed? zone).isSome ∨ zone ∈ said.toList.filterMap claim? := by
  cases turn with
  | stays zones regular claimless endless =>
    have none : said.toList.filterMap claim? = [] := by
      refine List.filterMap_eq_nil_iff.mpr fun exchange member => ?_
      exact claimless exchange (Option.mem_toList.mp member)
    have same : after.store.zoneNamed? zone = before.store.zoneNamed? zone := by
      unfold Store.zoneNamed?
      rw [zones]
    simp [none, same]
  | stores place other start stored unknown record saying zones regular =>
    have named : stored.zone = other := by rw [record]
    have kept := Store.zoneNamed_append zone (named.symm ▸ unknown) zones
    rw [kept, saying]
    by_cases same : zone = stored.zone
    · simp [claim?, same]
    · simp [claim?, same]
  | ends place errand own other start stored since result heard performed current saying zones regular =>
    rw [ends_lookUp current zones zone, saying]
    by_cases same : zone = stored.zone
    · simp [claim?, same, current]
    · simp [claim?, same]

/-- A zone is known if it was known at first or an errand has claimed it. -/
theorem history_knows (errands : List Errand) (regular : w.store.Regular) (history : List Crew.Step) (zone : String) :
    (((party w errands).follow history).world.store.zoneNamed? zone).isSome ↔
      (w.store.zoneNamed? zone).isSome ∨ zone ∈ ((party w errands).exchanges history).filterMap claim? := by
  induction history using List.reverseRecOn with
  | nil => simp [party, Crew.follow, Crew.exchanges]
  | append_singleton history step ih =>
    have next := turn_knows (step_turns (ledger_history errands regular history) step) zone
    rw [Crew.exchanges_snoc, Crew.follow_snoc, next, ih, List.filterMap_append, List.mem_append, or_assoc]

/-- Whoever was told about a zone by storage that works knows that it is known. -/
theorem settled_history (regular : w.store.Regular) {place : Nat} {exchange : Exchange}
    (settled : settles zone exchange) (member : (place, exchange) ∈ (party w errands).exchanges history) :
    (((party w errands).follow history).world.store.zoneNamed? zone).isSome := by
  induction history using List.reverseRecOn with
  | nil => cases member
  | append_singleton history step ih =>
    have ledger := ledger_history errands regular history
    rw [Crew.follow_snoc]
    rw [Crew.exchanges_snoc] at member
    rcases List.mem_append.mp member with old | new
    · exact (turn_knows (step_turns ledger step) zone).mpr (.inl (ih old))
    · cases ((party w errands).follow history).step_does step with
      | asks other r next _ there said after =>
        cases said.symm.trans (Option.mem_toList.mp new)
        rw [after]
        exact settled_known ledger.regular settled
      | idles silent _ _ => cases silent.symm.trans (Option.mem_toList.mp new)

end Known

/-! ## Claims and beginnings -/

section Claims
variable {w : World} {errands : List Errand} {history : List Crew.Step} {zone : String}

theorem mem_claimed {log : List (Nat × Exchange)} :
    zone ∈ log.filterMap claim? ↔
      ∃ place transfer stored, (place, ⟨.zoneAdd transfer, .ok stored⟩) ∈ log ∧ stored.zone = zone := by
  rw [List.mem_filterMap]
  constructor
  · rintro ⟨⟨place, r, given⟩, member, claimed⟩
    unfold claim? at claimed
    split at claimed
    · rename_i shape
      cases shape
      exact ⟨place, _, _, member, Option.some.inj claimed⟩
    · cases claimed
  · rintro ⟨place, transfer, stored, member, rfl⟩
    exact ⟨_, member, rfl⟩

theorem mem_begun {log : List (Nat × Exchange)} :
    zone ∈ begunZones log ↔ ∃ place given, (place, ⟨.nameservers zone, given⟩) ∈ log := by
  rw [begunZones, List.mem_filterMap]
  constructor
  · rintro ⟨⟨place, r, given⟩, member, first⟩
    unfold begun? at first
    split at first
    · rename_i shape
      cases shape
      cases first
      exact ⟨place, _, member⟩
    · cases first
  · rintro ⟨place, given, member⟩
    exact ⟨_, member, rfl⟩

private theorem claimed_unknown (regular : w.store.Regular)
    (claimed : zone ∈ ((party w errands).exchanges history).filterMap claim?) :
    (w.store.zoneNamed? zone).isNone := by
  induction history using List.reverseRecOn with
  | nil => cases claimed
  | append_singleton history step ih =>
    rw [Crew.exchanges_snoc, List.filterMap_append] at claimed
    rcases List.mem_append.mp claimed with old | new
    · exact ih old
    · cases step_turns (ledger_history errands regular history) step with
      | stays _ _ claimless _ =>
        obtain ⟨exchange, member, named⟩ := List.mem_filterMap.mp new
        cases (claimless exchange (Option.mem_toList.mp member)).symm.trans named
      | stores place other start stored unknown record saying _ _ =>
        have same : zone = other := by simpa [saying, claim?, record] using new
        subst same
        by_contra known
        have still := (history_knows errands regular history zone).mpr 
          (.inl (Option.isSome_iff_ne_none.mpr (by simpa using known)))
        rw [unknown] at still
        cases still
      | ends _ _ _ _ _ _ _ _ _ _ _ saying _ _ => simp [saying, claim?] at new

/-- What is claimed was not known at first, and is the zone of some host. -/
theorem claimed_cases (regular : w.store.Regular)
    (claimed : zone ∈ ((party w errands).exchanges history).filterMap claim?) :
    (w.store.zoneNamed? zone).isNone ∧ zone ∈ errands.filterMap fun errand => zoneOf errand.name := by
  refine ⟨claimed_unknown regular claimed, ?_⟩
  obtain ⟨place, transfer, stored, member, rfl⟩ := mem_claimed.mp claimed
  obtain ⟨⟨id, rfl⟩, _⟩ := (ledger_history errands regular history).stored _ _ _ member
  obtain ⟨errand, now, own, _, inside, reached⟩ := heard_reaches member
  have named : zoneOf errand.name = some transfer.zone := Errand.adds_own reached inside
  exact List.mem_filterMap.mpr ⟨errand, List.mem_of_getElem? own, named⟩

/-- A zone that is asked for was claimed. -/
theorem begun_claimed (first : zone ∈ begunZones ((party w errands).exchanges history)) :
    zone ∈ ((party w errands).exchanges history).filterMap claim? := by
  obtain ⟨place, given, member⟩ := mem_begun.mp first
  obtain ⟨errand, now, _, inside, stage⟩ := heard_stage member
  have some_ : 0 < (Crew.heard place ((party w errands).exchanges history)).countP (begins zone) :=
    List.countP_pos_iff.mpr ⟨_, inside, by simp [begins]⟩
  obtain ⟨exchange, heard, claimed⟩ :=
    List.countP_pos_iff.mp (Nat.lt_of_lt_of_le some_ (Errand.begins_le_claims stage zone))
  rw [claims_eq zone (place, exchange)] at claimed
  exact List.mem_filterMap.mpr ⟨_, Crew.mem_heard.mp heard, eq_of_beq claimed⟩

private theorem over_done {c : Crew} {place : Nat} {now : Activity Unit} (finished : c.isOver = true)
    (there : c.activities[place]? = some now) : now = .done () := by
  have closed := List.all_eq_true.mp finished now (List.mem_of_getElem? there)
  cases now with
  | done value => rfl
  | ask r next => cases closed

/-- When all are over, what was claimed was asked for. -/
theorem claimed_begun (regular : w.store.Regular) (finished : ((party w errands).follow history).isOver = true)
    (claimed : zone ∈ ((party w errands).exchanges history).filterMap claim?) :
    zone ∈ begunZones ((party w errands).exchanges history) := by
  obtain ⟨place, transfer, stored, member, rfl⟩ := mem_claimed.mp claimed
  obtain ⟨⟨id, numbered⟩, _⟩ := (ledger_history errands regular history).stored _ _ _ member
  obtain ⟨errand, now, goesOn, inside, stage⟩ := heard_stage member
  cases over_done finished goesOn
  obtain ⟨given, asked⟩ := Errand.claimed_begins stage (by rw [numbered]; rfl) inside
  exact mem_begun.mpr ⟨place, given, Crew.mem_heard.mp asked⟩

/-- When all are over, the zones of all hosts are known. -/
theorem over_knows (regular : w.store.Regular) (finished : ((party w errands).follow history).isOver = true)
    (own : zone ∈ errands.filterMap fun errand => zoneOf errand.name) :
    (((party w errands).follow history).world.store.zoneNamed? zone).isSome := by
  obtain ⟨errand, member, named⟩ := List.mem_filterMap.mp own
  obtain ⟨place, inside, there⟩ := List.getElem_of_mem member
  obtain ⟨same, now, also, goesOn, reached⟩ := party_reaches inside history
  cases over_done finished goesOn
  have one : errand = same := by simpa [List.getElem?_eq_getElem inside, there] using also
  subst one
  obtain ⟨exchange, heard, settled⟩ := Errand.over_settles reached named
  exact settled_history regular settled (Crew.mem_heard.mp heard)

end Claims

/-! ## The main theorem -/

/-- For which zones `perform` is begun in a history. -/
structure AskedBySpelling (w : World) (errands : List Errand) (history : List Crew.Step) : Prop where
  /-- For no text twice, and only for the texts of the hosts' zones that are not known. -/
  once : (begunZones ((party w errands).exchanges history)).Subperm (spellings w errands)
  /-- For all of them, when all errands are over. -/
  all : ((party w errands).follow history).isOver = true →
    (begunZones ((party w errands).exchanges history)).Perm (spellings w errands)
  /-- So for one zone as often as there are spellings of it. -/
  each : ((party w errands).follow history).isOver = true → ∀ zone,
    (begunZones ((party w errands).exchanges history)).countP (SameZone zone) =
      (spellings w errands).countP (SameZone zone)
  /-- If all names spell a zone alike, no two are the same zone. -/
  agreed : (∀ one ∈ spellings w errands, ∀ other ∈ spellings w errands, SameZone one other → one = other) →
    (begunZones ((party w errands).exchanges history)).Pairwise fun one other => ¬SameZone one other

/-- **A zone is asked for once for each of its spellings.** Any number of errands are done in one world, with their
requests interleaved in any order. `perform` is begun once for each text that the names of hosts have for a zone, if
storage does not know this text. It is begun once for each zone if the names agree in how they spell it. -/
theorem each_spelling_is_asked_for_once (w : World) (regular : w.store.Regular) (errands : List Errand)
    (history : List Crew.Step) : AskedBySpelling w errands history := by
  have texts : ∀ zone, zone ∈ spellings w errands ↔
      (zone ∈ errands.filterMap fun errand => zoneOf errand.name) ∧ (w.store.zoneNamed? zone).isNone := by
    intro zone
    rw [spellings, List.mem_dedup, List.mem_filter]
  have different : (spellings w errands).Nodup := List.nodup_dedup _
  have distinct : (begunZones ((party w errands).exchanges history)).Nodup := by
    refine List.nodup_iff_count_le_one.mpr fun zone => ?_
    have once : ((party w errands).exchanges history).countP (fun exchange => begins zone exchange.2) ≤ 1 :=
      begun_once regular zone
    rw [begunZones, List.count_filterMap]
    simpa only [begins_eq] using once
  have only : begunZones ((party w errands).exchanges history) ⊆ spellings w errands := by
    intro zone first
    obtain ⟨unknown, own⟩ := claimed_cases regular (begun_claimed first)
    exact (texts zone).mpr ⟨own, unknown⟩
  have all : ((party w errands).follow history).isOver = true →
      (begunZones ((party w errands).exchanges history)).Perm (spellings w errands) := by
    intro finished
    refine (List.perm_ext_iff_of_nodup distinct different).mpr fun zone => ⟨fun first => only first, fun text => ?_⟩
    obtain ⟨own, unknown⟩ := (texts zone).mp text
    refine claimed_begun regular finished ?_
    refine ((history_knows errands regular history zone).mp (over_knows regular finished own)).resolve_left ?_
    simpa using unknown
  refine ⟨List.subperm_of_subset distinct only, all, ?_, fun agreed => ?_⟩
  · exact fun finished zone => (all finished).countP_eq _
  · refine distinct.imp_of_mem fun first second apart same => ?_
    exact apart (agreed _ (only first) _ (only second) same)

/-- Two hosts of one zone, one of them with a dot at the end of its name and with a capital letter. -/
private def twoHosts : List Errand := [errandFor "www.kernel.org", errandFor "git.Kernel.org."]

/-- One errand is done after the other. -/
private def oneByOne : List Crew.Step := List.replicate 5 (.turn 0) ++ List.replicate 5 (.turn 1)

theorem two_hosts_with_two_spellings : quietWorld.store.Regular ∧ AskedBySpelling quietWorld twoHosts oneByOne :=
  ⟨Store.regular_empty, each_spelling_is_asked_for_once quietWorld Store.regular_empty twoHosts oneByOne⟩

/-- So `perform` is begun for both hosts, although they are in one zone. -/
theorem one_zone_is_asked_for_twice :
    zoneOf "www.kernel.org" = some "kernel.org" ∧ zoneOf "git.Kernel.org." = some "Kernel.org." ∧
      SameZone "kernel.org" "Kernel.org." ∧
      begunZones ((party quietWorld twoHosts).exchanges oneByOne) = ["kernel.org", "Kernel.org."] ∧
      ((party quietWorld twoHosts).follow oneByOne).isOver = true :=
  ⟨rfl, rfl, by decide, rfl, rfl⟩

end HostSurvey.Transfer
