import HostSurvey.Proofs.Survey.Storage
import HostSurvey.Proofs.Transfer.Stages
import Mathlib.Data.List.Induction
import Mathlib.Data.List.Nodup
/-!
# The life of a transfer

Any number of errands in one world, with their requests interleaved in any order. Two errands may both find
that a zone was never asked for, and both try to store a transfer of it.

1. Storage takes only one of them. So at most one errand claims a zone, and the others are over when they
   are refused (`Ledger.once`).
2. Only the errand that has claimed a zone asks for it and notes how that ended. Until then the record is the
   one that was stored (`Ledger.unchanged`).
3. `step_turns` lists what one step does to the records, and `zone_lives_once` puts the steps together.
-/
namespace HostSurvey.Transfer

open Net Activity

/-- A world in which errands are done. -/
def party (w : World) (errands : List Errand) : Crew := ⟨w, errands.map Errand.activity⟩

/-- The zone of the transfer that was stored in an exchange. -/
def claim? : Nat × Exchange → Option String
  | (_, ⟨.zoneAdd _, .ok stored⟩) => some stored.zone
  | _ => none

theorem claims_eq (zone : String) (exchange : Nat × Exchange) :
    claims zone exchange.2 = (claim? exchange == some zone) := by
  obtain ⟨place, r, given⟩ := exchange
  cases r with
  | zoneAdd transfer =>
    cases given with
    | error fault => rfl
    | ok stored => exact (Bool.beq_eq_decide_eq _ _).symm
  | _ => rfl

/-! ## What an answer does to the records -/

/-- An answer to anything else leaves the records of transfers alone. -/
theorem answer_elsewhere {w : World} {r : Request}
    (elsewhere : r.IsPlain ∨ ∃ zone, r = .nameservers zone) (regular : w.store.Regular) :
    (World.answer r w).2.store.zones = w.store.zones ∧ (World.answer r w).2.store.Regular := by
  cases r with
  | zoneAdd transfer =>
    rcases elsewhere with plain | ⟨zone, same⟩
    · exact plain.elim
    · cases same
  | zoneFinish transfer status =>
    rcases elsewhere with plain | ⟨zone, same⟩
    · exact plain.elim
    · cases same
  | hostAdd host =>
    simp only [World.answer, World.storing]
    cases added : w.store.addHost host with
    | error e => exact ⟨rfl, regular⟩
    | ok pair =>
      obtain ⟨given, t⟩ := pair
      have same : t.zones = w.store.zones := by rw [(Store.addHost_spec added).2]
      exact ⟨same, Store.regular_addHost regular added⟩
  | cacheAdd key =>
    simp only [World.answer]
    split <;> exact ⟨rfl, regular⟩
  | requestZone name =>
    simp only [World.answer]
    split <;> exact ⟨rfl, regular⟩
  | _ => exact ⟨rfl, regular⟩

/-- A transfer is stored if its zone is not known, and refused otherwise. -/
theorem answer_zoneAdd {w : World} (transfer : ZoneTransfer) (regular : w.store.Regular) :
    (w.store.zoneNamed? transfer.zone).isSome ∧ (∃ fault, World.answer (.zoneAdd transfer) w = (.error fault, w)) ∨
      w.store.zoneNamed? transfer.zone = none ∧ ∃ t,
        World.answer (.zoneAdd transfer) w =
          (.ok { transfer with id := some (w.store.lastId + 1) }, { w with store := t }) ∧
        t.zones = w.store.zones ++ [{ transfer with id := some (w.store.lastId + 1) }] ∧ t.Regular := by
  simp only [World.answer, World.storing]
  cases added : w.store.addZone transfer with
  | error fault =>
    refine .inl ⟨?_, fault, rfl⟩
    by_contra unknown
    rw [Store.addZone_sound regular.sound, if_neg unknown] at added
    cases added
  | ok pair =>
    obtain ⟨given, t⟩ := pair
    obtain ⟨unknown, own, more⟩ := Store.addZone_spec added
    refine .inr ⟨unknown, t, ?_, by rw [more], Store.regular_addZone regular added⟩
    rw [own regular.sound]

/-- The end of a transfer whose zone is known is noted. -/
theorem answer_zoneFinish {w : World} {transfer : ZoneTransfer} (status : ZoneStatus)
    (regular : w.store.Regular) (known : (w.store.zoneNamed? transfer.zone).isSome)
    (numbered : ∀ id, transfer.id = some id → id ≤ w.store.lastId) :
    ∃ t, World.answer (.zoneFinish transfer status) w = (.ok (), { w with store := t }) ∧
      (t.zones = w.store.zones.map fun z =>
        if z.zone = transfer.zone then transfer.finish status w.now else z) ∧ t.Regular := by
  have present : (w.store.zoneNamed? (transfer.finish status w.now).zone).isSome := known
  have replaced := Store.replaceZone_known regular.sound present
  have same : ∀ id, (transfer.finish status w.now).id = some id → id ≤ w.store.lastId := numbered
  have went : (w.store.finishZone transfer status w.now).2 = w.store.replaceZone (transfer.finish status w.now) :=
    rfl
  refine ⟨_, ?_, rfl, Store.regular_replaceZone regular same replaced⟩
  simp only [World.answer, went, replaced]
  rfl

/-! ## Errands of a party -/

section Party
variable {w : World} {errands : List Errand} {history : List Crew.Step} {place : Nat} {now : Activity Unit}

/-- Every activity of a party is an errand that has come as far as what it asked leads it. -/
theorem party_reaches (inside : place < errands.length) (history : List Crew.Step) :
    ∃ errand now, errands[place]? = some errand ∧
      ((party w errands).follow history).activities[place]? = some now ∧
      errand.activity.Reaches (Crew.heard place ((party w errands).exchanges history)) now := by
  have own := List.getElem?_eq_getElem inside
  have there : (party w errands).activities[place]? = some errands[place].activity := by
    simp only [party, List.getElem?_map, own, Option.map_some]
  obtain ⟨now, goesOn, reached⟩ := Crew.reaches_in_history there history
  exact ⟨errands[place], now, own, goesOn, reached⟩

/-- Every activity of a party is an errand at one of its stages. -/
theorem party_stage (inside : place < errands.length) (history : List Crew.Step) :
    ∃ errand now, errands[place]? = some errand ∧
      ((party w errands).follow history).activities[place]? = some now ∧
      errand.Stage (Crew.heard place ((party w errands).exchanges history)) now := by
  obtain ⟨errand, now, own, goesOn, reached⟩ := party_reaches inside history
  exact ⟨errand, now, own, goesOn, Errand.activity_stage reached⟩

theorem there_stage (there : ((party w errands).follow history).activities[place]? = some now) :
    ∃ errand, errands[place]? = some errand ∧
      errand.Stage (Crew.heard place ((party w errands).exchanges history)) now := by
  have inside := (List.getElem?_eq_some_iff.mp there).1
  rw [Crew.follow_length] at inside
  have inside : place < errands.length := by simpa [party] using inside
  obtain ⟨errand, also, own, goesOn, stage⟩ := party_stage inside history
  cases there.symm.trans goesOn
  exact ⟨errand, own, stage⟩

/-- Whatever is asked, an errand has asked it on its way. -/
theorem heard_reaches {exchange : Exchange} (member : (place, exchange) ∈ (party w errands).exchanges history) :
    ∃ (errand : Errand) (now : Activity Unit), errands[place]? = some errand ∧
      ((party w errands).follow history).activities[place]? = some now ∧
      exchange ∈ Crew.heard place ((party w errands).exchanges history) ∧
      errand.activity.Reaches (Crew.heard place ((party w errands).exchanges history)) now := by
  have inside : place < errands.length := by
    simpa [party] using Crew.exchanges_place history _ member
  obtain ⟨errand, now, own, goesOn, reached⟩ := party_reaches inside history
  exact ⟨errand, now, own, goesOn, Crew.mem_heard.mpr member, reached⟩

theorem heard_stage {exchange : Exchange} (member : (place, exchange) ∈ (party w errands).exchanges history) :
    ∃ (errand : Errand) (now : Activity Unit),
      ((party w errands).follow history).activities[place]? = some now ∧
      exchange ∈ Crew.heard place ((party w errands).exchanges history) ∧
      errand.Stage (Crew.heard place ((party w errands).exchanges history)) now := by
  obtain ⟨errand, now, _, goesOn, inside, reached⟩ := heard_reaches member
  exact ⟨errand, now, goesOn, inside, Errand.activity_stage reached⟩

end Party

/-! ## Records and what was asked -/

/-- How the records of transfers go with what was asked. -/
structure Ledger (log : List (Nat × Exchange)) (s : Store) : Prop where
  regular : s.Regular
  /-- What was stored has a number, and its zone is known. -/
  stored : ∀ place transfer stored, (place, ⟨.zoneAdd transfer, .ok stored⟩) ∈ log →
    (∃ id, stored = { transfer with id := some id }) ∧ (s.zoneNamed? stored.zone).isSome
  /-- No zone is claimed twice. -/
  once : (log.filterMap claim?).Nodup
  /-- As long as no end is noted, the record is the one that was stored. -/
  unchanged : ∀ place transfer stored, (place, ⟨.zoneAdd transfer, .ok stored⟩) ∈ log →
    (∀ finisher other status given, (finisher, ⟨.zoneFinish other status, given⟩) ∈ log →
      other.zone ≠ stored.zone) → s.zoneNamed? stored.zone = some stored

private theorem eq_of_nodup_filterMap {α β : Type} {f : α → Option β} {list : List α} {a b : α} {value : β}
    (distinct : (list.filterMap f).Nodup) (one : a ∈ list) (other : b ∈ list) (left : f a = some value)
    (right : f b = some value) : a = b := by
  induction list with
  | nil => cases one
  | cons first rest ih =>
    have later : ∀ x ∈ rest, f x = some value → f first ≠ some value := by
      intro x member named same
      rw [List.filterMap_cons_some same] at distinct
      exact (List.nodup_cons.mp distinct).1 (List.mem_filterMap.mpr ⟨x, member, named⟩)
    have shorter : (rest.filterMap f).Nodup := by
      cases named : f first with
      | none => rwa [List.filterMap_cons_none named] at distinct
      | some value =>
        rw [List.filterMap_cons_some named] at distinct
        exact (List.nodup_cons.mp distinct).2
    rcases List.mem_cons.mp one with rfl | before <;> rcases List.mem_cons.mp other with rfl | behind
    · rfl
    · exact absurd left (later b behind right)
    · exact absurd right (later a before left)
    · exact ih shorter before behind

/-- A zone is claimed at one place, and by one transfer. -/
theorem claimed_once {log : List (Nat × Exchange)} {s : Store} (ledger : Ledger log s) {one other : Nat}
    {transfer another stored kept : ZoneTransfer}
    (first : (one, ⟨.zoneAdd transfer, .ok stored⟩) ∈ log)
    (second : (other, ⟨.zoneAdd another, .ok kept⟩) ∈ log) (same : kept.zone = stored.zone) :
    one = other ∧ stored = kept := by
  have claimed : claim? (one, ⟨.zoneAdd transfer, .ok stored⟩) = some stored.zone := rfl
  have also : claim? (other, ⟨.zoneAdd another, .ok kept⟩) = some stored.zone := congrArg some same
  cases eq_of_nodup_filterMap ledger.once first second claimed also
  exact ⟨rfl, rfl⟩

/-! ## What a step does to the records -/

/-- What a step of a party does to the records, by what was asked before and in this step. -/
inductive Turn (errands : List Errand) (log : List (Nat × Exchange)) (before after : World)
    (said : Option (Nat × Exchange)) : Prop where
  /-- The records stay as they are. -/
  | stays (zones : after.store.zones = before.store.zones) (regular : after.store.Regular)
      (claimless : ∀ exchange, said = some exchange → claim? exchange = none)
      (endless : ∀ place transfer status given, said ≠ some (place, ⟨.zoneFinish transfer status, given⟩))
  /-- A transfer is stored. -/
  | stores (place : Nat) (zone : String) (start : Moment) (stored : ZoneTransfer)
      (unknown : before.store.zoneNamed? zone = none)
      (record : stored = ⟨some (before.store.lastId + 1), zone, start, none, .unfinished⟩)
      (saying : said = some (place, ⟨.zoneAdd (.begin zone start), .ok stored⟩))
      (zones : after.store.zones = before.store.zones ++ [stored]) (regular : after.store.Regular)
  /-- The end of a transfer is noted, by the errand that it was stored for. -/
  | ends (place : Nat) (errand : Errand) (own : errands[place]? = some errand) (zone : String) (start : Moment)
      (stored : ZoneTransfer) (since : List Exchange) (result : Except Error Nat)
      (heard : Crew.heard place log = opening zone start stored ++ since)
      (performed : (errand.perform stored.zone).Reaches since (.done result))
      (current : before.store.zoneNamed? stored.zone = some stored)
      (saying : said = some (place, ⟨.zoneFinish stored (statusOf result), .ok ()⟩))
      (zones : after.store.zones = before.store.zones.map fun z =>
        if z.zone = stored.zone then stored.finish (statusOf result) before.now else z)
      (regular : after.store.Regular)

section Steps
variable {w : World} {errands : List Errand} {history : List Crew.Step} {log : List (Nat × Exchange)}
  {place : Nat}

private theorem elsewhere_turns {r : Request} (elsewhere : r.IsPlain ∨ ∃ zone, r = .nameservers zone)
    (regular : w.store.Regular) :
    Turn errands log w (World.answer r w).2 (some (place, ⟨r, (World.answer r w).1⟩)) := by
  obtain ⟨zones, still⟩ := answer_elsewhere elsewhere regular
  refine .stays zones still ?_ ?_
  · rintro exchange ⟨⟩
    cases r with
    | zoneAdd transfer =>
      rcases elsewhere with plain | ⟨zone, same⟩
      · exact plain.elim
      · cases same
    | _ => rfl
  · rintro finisher transfer status given ⟨⟩
    rcases elsewhere with plain | ⟨zone, same⟩
    · exact plain.elim
    · cases same

private theorem zoneAdd_turns (zone : String) (start : Moment) (regular : w.store.Regular) :
    Turn errands log w (World.answer (.zoneAdd (.begin zone start)) w).2
      (some (place, ⟨.zoneAdd (.begin zone start), (World.answer (.zoneAdd (.begin zone start)) w).1⟩)) := by
  rcases answer_zoneAdd (.begin zone start) regular with ⟨_, fault, refused⟩ | ⟨unknown, t, kept, zones, still⟩
  · rw [refused]
    refine .stays rfl regular ?_ ?_
    · rintro exchange ⟨⟩
      rfl
    · rintro finisher transfer status given ⟨⟩
  · rw [kept]
    exact .stores place zone start _ unknown rfl rfl zones still

/-- When an errand is about to note the end of its transfer, the record is still the one that was stored. -/
private theorem unchanged_record
    (ledger : Ledger ((party w errands).exchanges history) ((party w errands).follow history).world.store)
    {now : Activity Unit} {zone : String} {start : Moment} {stored : ZoneTransfer} {since : List Exchange}
    (there : ((party w errands).follow history).activities[place]? = some now) (going : now ≠ .done ())
    (heard : Crew.heard place ((party w errands).exchanges history) = opening zone start stored ++ since) :
    ((party w errands).follow history).world.store.zoneNamed? stored.zone = some stored := by
  have claimed : (place, ⟨.zoneAdd (.begin zone start), .ok stored⟩) ∈ (party w errands).exchanges history :=
    Crew.mem_heard.mp (by rw [heard]; simp [opening])
  apply ledger.unchanged place _ stored claimed
  -- Whoever has noted the end of a transfer of this zone would have claimed it too, and be over.
  intro finisher other status given noted same
  obtain ⟨errand, finished, elsewhere, inside, stage⟩ := heard_stage noted
  obtain ⟨⟨another, kept⟩, closed⟩ := Errand.finish_heard stage inside
  obtain ⟨rfl, _⟩ := claimed_once ledger claimed (Crew.mem_heard.mp kept) same
  cases there.symm.trans elsewhere
  exact going closed

/-- A step of a party does one of these things to the records. -/
theorem step_turns
    (ledger : Ledger ((party w errands).exchanges history) ((party w errands).follow history).world.store)
    (step : Crew.Step) :
    Turn errands ((party w errands).exchanges history) ((party w errands).follow history).world
      (((party w errands).follow history).step step).world
      (((party w errands).follow history).exchange? step) := by
  have regular := ledger.regular
  cases ((party w errands).follow history).step_does step with
  | idles silent same outside =>
    obtain ⟨directory, servers, cache, now, outside⟩ := outside
    rw [silent, outside]
    exact .stays rfl regular (fun _ said => nomatch said) (fun _ _ _ _ said => nomatch said)
  | asks place r next _ there said after =>
    obtain ⟨errand, own, stage⟩ := there_stage there
    rw [after, said]
    rcases Errand.asks_cases stage rfl with plain | naming | ⟨zone, start, rfl⟩ |
      ⟨zone, start, stored, since, result, rfl, heard, performed⟩
    · exact elsewhere_turns (.inl plain) regular
    · exact elsewhere_turns (.inr naming) regular
    · exact zoneAdd_turns zone start regular
    · have current := unchanged_record ledger there (fun closed => nomatch closed) heard
      have inside : stored ∈ ((party w errands).follow history).world.store.zones :=
        List.mem_of_find?_eq_some current
      obtain ⟨t, noted, zones, still⟩ := answer_zoneFinish (statusOf result) regular (by rw [current]; rfl)
        fun id named => regular.numbered id
          (List.mem_append_right _ (List.mem_filterMap.mpr ⟨stored, inside, named⟩))
      rw [noted]
      exact .ends place errand own zone start stored since result heard performed current rfl zones still

/-- The records after the end of a transfer was noted. -/
theorem ends_lookUp {s t : Store} {stored : ZoneTransfer} {status : ZoneStatus} {now : Moment}
    (current : s.zoneNamed? stored.zone = some stored)
    (zones : t.zones = s.zones.map fun z => if z.zone = stored.zone then stored.finish status now else z)
    (zone : String) :
    t.zoneNamed? zone = if zone = stored.zone then some (stored.finish status now) else s.zoneNamed? zone := by
  have known : (s.zoneNamed? (stored.finish status now).zone).isSome := by
    rw [show (stored.finish status now).zone = stored.zone from rfl, current]
    rfl
  exact Store.zoneNamed_replace zone known zones

/-- A step that claims nothing may change only the records whose end it notes. -/
private theorem ledger_claimless {s t : Store} {said : Option (Nat × Exchange)} (ledger : Ledger log s)
    (regular : t.Regular) (claimless : ∀ exchange, said = some exchange → claim? exchange = none)
    (known : ∀ zone, (s.zoneNamed? zone).isSome → (t.zoneNamed? zone).isSome)
    (kept : ∀ zone, (∀ finisher other status given,
      said = some (finisher, ⟨.zoneFinish other status, given⟩) → other.zone ≠ zone) →
        t.zoneNamed? zone = s.zoneNamed? zone) : Ledger (log ++ said.toList) t := by
  have earlier : ∀ keeper transfer stored, (keeper, ⟨.zoneAdd transfer, .ok stored⟩) ∈ log ++ said.toList →
      (keeper, ⟨.zoneAdd transfer, .ok stored⟩) ∈ log := by
    intro keeper transfer stored member
    rcases List.mem_append.mp member with old | new
    · exact old
    · cases claimless _ (Option.mem_toList.mp new)
  refine ⟨regular, ?_, ?_, ?_⟩
  · intro keeper transfer stored member
    obtain ⟨numbered, there⟩ := ledger.stored keeper transfer stored (earlier _ _ _ member)
    exact ⟨numbered, known _ there⟩
  · have none : said.toList.filterMap claim? = [] := by
      cases said with
      | none => rfl
      | some exchange => simp [claimless exchange rfl]
    rw [List.filterMap_append, none, List.append_nil]
    exact ledger.once
  · intro keeper transfer stored member unfinished
    have same := kept stored.zone fun finisher other status given noted =>
      unfinished finisher other status given (List.mem_append_right _ (Option.mem_toList.mpr noted))
    rw [same]
    exact ledger.unchanged keeper transfer stored (earlier _ _ _ member) fun finisher other status given noted =>
      unfinished finisher other status given (List.mem_append_left _ noted)

/-- A step that stores a transfer claims a zone that nobody has claimed. -/
private theorem ledger_claims {s t : Store} {transfer stored : ZoneTransfer} (ledger : Ledger log s)
    (regular : t.Regular) (numbered : ∃ id, stored = { transfer with id := some id })
    (unknown : s.zoneNamed? stored.zone = none) (zones : t.zones = s.zones ++ [stored]) :
    Ledger (log ++ [(place, ⟨.zoneAdd transfer, .ok stored⟩)]) t := by
  have lookUp := fun zone => Store.zoneNamed_append zone unknown zones
  have older : ∀ keeper another kept, (keeper, ⟨.zoneAdd another, .ok kept⟩) ∈ log →
      kept.zone ≠ stored.zone := by
    intro keeper another kept old same
    have known := (ledger.stored keeper another kept old).2
    rw [same, unknown] at known
    cases known
  refine ⟨regular, ?_, ?_, ?_⟩
  · intro keeper another kept member
    rcases List.mem_append.mp member with old | new
    · obtain ⟨also, known⟩ := ledger.stored keeper another kept old
      rw [lookUp, if_neg (older _ _ _ old)]
      exact ⟨also, known⟩
    · cases List.mem_singleton.mp new
      rw [lookUp, if_pos rfl]
      exact ⟨numbered, rfl⟩
  · rw [List.filterMap_append]
    refine List.nodup_append.mpr ⟨ledger.once, by simp [claim?], ?_⟩
    intro claimed member zone own same
    have own : zone = stored.zone := by simpa [claim?] using own
    obtain ⟨⟨keeper, r, given⟩, inside, named⟩ := List.mem_filterMap.mp member
    unfold claim? at named
    split at named
    · rename_i shape
      cases shape
      cases named
      exact older _ _ _ inside (same.trans own)
    · cases named
  · intro keeper another kept member unfinished
    rcases List.mem_append.mp member with old | new
    · rw [lookUp, if_neg (older _ _ _ old)]
      exact ledger.unchanged keeper another kept old fun finisher other status given noted =>
        unfinished finisher other status given (List.mem_append_left _ noted)
    · cases List.mem_singleton.mp new
      rw [lookUp, if_pos rfl]

private theorem ledger_turn {after : World} {said : Option (Nat × Exchange)} (ledger : Ledger log w.store)
    (turn : Turn errands log w after said) : Ledger (log ++ said.toList) after.store := by
  cases turn with
  | stays zones regular claimless endless =>
    have same : ∀ zone, after.store.zoneNamed? zone = w.store.zoneNamed? zone := by
      intro zone
      unfold Store.zoneNamed?
      rw [zones]
    apply ledger_claimless ledger regular claimless
    · intro zone known
      rw [same]
      exact known
    · exact fun zone _ => same zone
  | stores place zone start stored unknown record saying zones regular =>
    have named : stored.zone = zone := by rw [record]
    subst saying
    exact ledger_claims ledger regular ⟨_, record⟩ (named.symm ▸ unknown) zones
  | ends place errand own zone start stored since result heard performed current saying zones regular =>
    have lookUp := ends_lookUp current zones
    apply ledger_claimless ledger regular
    · intro exchange said
      cases saying.symm.trans said
      rfl
    · intro zone known
      rw [lookUp]
      split
      · rfl
      · exact known
    · intro zone noted
      rw [lookUp, if_neg]
      exact fun same => noted place stored _ _ saying same.symm

/-- In every history the records go with what was asked. -/
theorem ledger_history (errands : List Errand) (regular : w.store.Regular) (history : List Crew.Step) :
    Ledger ((party w errands).exchanges history) ((party w errands).follow history).world.store := by
  induction history using List.reverseRecOn with
  | nil =>
    exact ⟨regular, fun _ _ _ member => (List.not_mem_nil member).elim, List.nodup_nil,
      fun _ _ _ member => (List.not_mem_nil member).elim⟩
  | append_singleton history step ih =>
    have after := ledger_turn ih (step_turns ih step)
    rw [Crew.exchanges_snoc, Crew.follow_snoc]
    exact after

end Steps

/-! ## The main theorem -/

/-- What becomes of the record of a zone in one step, by what was asked before. -/
inductive Develops (errands : List Errand) (log : List (Nat × Exchange)) (before after : World)
    (zone : String) : Prop where
  | stays (same : after.store.zoneNamed? zone = before.store.zoneNamed? zone)
  /-- There was none, and now there is one of a transfer that has begun, with a number that no record had. -/
  | created (id : RecordId) (start : Moment) (unknown : before.store.zoneNamed? zone = none)
      (fresh : id ∉ before.store.ids)
      (record : after.store.zoneNamed? zone = some ⟨some id, zone, start, none, .unfinished⟩)
  /-- It was the one that an errand had stored before it asked for the zone. What it asked since then made
  `perform` end with a result, and according to this result the transfer is now over. -/
  | concluded (place : Nat) (errand : Errand) (own : errands[place]? = some errand) (id : RecordId)
      (start : Moment) (since : List Exchange) (result : Except Error Nat)
      (heard : Crew.heard place log = opening zone start ⟨some id, zone, start, none, .unfinished⟩ ++ since)
      (performed : (errand.perform zone).Reaches since (.done result))
      (was : before.store.zoneNamed? zone = some ⟨some id, zone, start, none, .unfinished⟩)
      (record : after.store.zoneNamed? zone = some ⟨some id, zone, start, some before.now, statusOf result⟩)

/-- What is true of the zones of a party after a history. -/
structure LivesOnce (w : World) (errands : List Errand) (history : List Crew.Step) : Prop where
  /-- No zone is asked for twice. -/
  begun : ∀ zone, ((party w errands).exchanges history).countP (fun exchange => begins zone exchange.2) ≤ 1
  /-- What becomes of a record in a further step. -/
  develops : ∀ step zone, Develops errands ((party w errands).exchanges history)
    ((party w errands).follow history).world ((party w errands).follow (history ++ [step])).world zone
  /-- An errand for which `perform` has ended with a result notes this in its next turn. -/
  answered : ∀ place errand before since zone result, errands[place]? = some errand →
    Crew.heard place ((party w errands).exchanges history) = before ++ since →
    (errand.perform zone).Reaches since (.done result) →
      ∃ record, record.status = .unfinished ∧
        ((party w errands).follow history).world.store.zoneNamed? zone = some record ∧
        ((party w errands).follow (history ++ [.turn place])).world.store.zoneNamed? zone =
          some (record.finish (statusOf result) ((party w errands).follow history).world.now)
  /-- Later on a record is the same, or it was of a transfer that was not over, and that one is over. -/
  lasts : ∀ later zone record, ((party w errands).follow history).world.store.zoneNamed? zone = some record →
    ((party w errands).follow (history ++ later)).world.store.zoneNamed? zone = some record ∨
      record.status = .unfinished ∧ record.ended = none ∧ ∃ result now,
        ((party w errands).follow (history ++ later)).world.store.zoneNamed? zone =
          some (record.finish (statusOf result) now)

section Main
variable {w : World} {errands : List Errand} {history : List Crew.Step}

/-- Claims of a zone are counted by the beginnings that follow them. -/
theorem begun_once (regular : w.store.Regular) (zone : String) :
    ((party w errands).exchanges history).countP (fun exchange => begins zone exchange.2) ≤ 1 := by
  have ledger := ledger_history errands regular history
  have each : ∀ place, (Crew.heard place ((party w errands).exchanges history)).countP (begins zone) ≤
      (Crew.heard place ((party w errands).exchanges history)).countP (claims zone) := by
    intro place
    by_cases inside : place < errands.length
    · obtain ⟨errand, now, _, _, stage⟩ := party_stage inside history
      exact Errand.begins_le_claims stage zone
    · have silent : Crew.heard place ((party w errands).exchanges history) = [] := by
        refine List.eq_nil_iff_forall_not_mem.mpr fun exchange member => inside ?_
        simpa [party] using Crew.exchanges_place history _ (Crew.mem_heard.mp member)
      rw [silent]
      exact Nat.le_refl 0
  calc ((party w errands).exchanges history).countP (fun exchange => begins zone exchange.2)
      ≤ ((party w errands).exchanges history).countP (fun exchange => claims zone exchange.2) :=
        Crew.countP_le_of_heard _ each
    _ = (((party w errands).exchanges history).filterMap claim?).count zone := by
        simp only [claims_eq, List.count_filterMap]
    _ ≤ 1 := List.nodup_iff_count_le_one.mp ledger.once zone

private theorem develops_next (regular : w.store.Regular) (history : List Crew.Step) (step : Crew.Step)
    (zone : String) :
    Develops errands ((party w errands).exchanges history) ((party w errands).follow history).world
      ((party w errands).follow (history ++ [step])).world zone := by
  have ledger := ledger_history errands regular history
  rw [Crew.follow_snoc]
  cases step_turns ledger step with
  | stays zones _ _ _ =>
    refine .stays ?_
    unfold Store.zoneNamed?
    rw [zones]
  | stores place named start stored unknown record _ zones _ =>
    subst record
    have lookUp := Store.zoneNamed_append zone unknown zones
    by_cases same : zone = named
    · subst same
      rw [if_pos rfl] at lookUp
      exact .created _ start unknown (Store.next_id_fresh ledger.regular) lookUp
    · rw [if_neg same] at lookUp
      exact .stays lookUp
  | ends place errand own named start stored since result heard performed current _ zones _ =>
    have lookUp := ends_lookUp current zones zone
    by_cases same : zone = stored.zone
    · subst same
      rw [if_pos rfl] at lookUp
      have claimed : (place, ⟨.zoneAdd (.begin named start), .ok stored⟩) ∈ (party w errands).exchanges history :=
        Crew.mem_heard.mp (by rw [heard]; simp [opening])
      obtain ⟨⟨id, rfl⟩, _⟩ := ledger.stored _ _ _ claimed
      exact .concluded place errand own id start since result heard performed current lookUp
    · rw [if_neg same] at lookUp
      exact .stays lookUp

private theorem answered_next (regular : w.store.Regular) {place : Nat} {errand : Errand}
    {before since : List Exchange} {zone : String} {result : Except Error Nat}
    (own : errands[place]? = some errand)
    (heard : Crew.heard place ((party w errands).exchanges history) = before ++ since)
    (performed : (errand.perform zone).Reaches since (.done result)) :
    ∃ record, record.status = .unfinished ∧
      ((party w errands).follow history).world.store.zoneNamed? zone = some record ∧
      ((party w errands).follow (history ++ [.turn place])).world.store.zoneNamed? zone =
        some (record.finish (statusOf result) ((party w errands).follow history).world.now) := by
  have ledger := ledger_history errands regular history
  obtain ⟨same, now, also, there, stage⟩ :=
    party_stage (w := w) (List.getElem?_eq_some_iff.mp own).1 history
  cases own.symm.trans also
  rw [heard] at stage
  obtain ⟨name, start, stored, rfl, rfl, rfl⟩ := Errand.performed_stage stage performed
  have claimed : (place, ⟨.zoneAdd (.begin name start), .ok stored⟩) ∈ (party w errands).exchanges history :=
    Crew.mem_heard.mp (by rw [heard]; simp [opening])
  obtain ⟨⟨id, record⟩, _⟩ := ledger.stored _ _ _ claimed
  have asking : ∃ given, ((party w errands).follow history).exchange? (.turn place) =
      some (place, ⟨.zoneFinish stored (statusOf result), given⟩) := by
    refine ⟨(World.answer (.zoneFinish stored (statusOf result)) ((party w errands).follow history).world).1, ?_⟩
    simp only [Crew.exchange?, there]
    rfl
  obtain ⟨given, asking⟩ := asking
  rw [Crew.follow_snoc]
  cases step_turns ledger (.turn place) with
  | stays _ _ _ endless => exact absurd asking (endless _ _ _ _)
  | stores _ _ _ _ _ _ saying _ _ => cases saying.symm.trans asking
  | ends other errand _ _ _ noted _ ended _ _ current saying zones _ =>
    have lookUp := ends_lookUp current zones noted.zone
    rw [if_pos rfl] at lookUp
    obtain ⟨rfl, status⟩ : noted = stored ∧ statusOf ended = statusOf result := by
      have alike := saying.symm.trans asking
      simp only [Option.some.injEq, Prod.mk.injEq, Sigma.mk.injEq, Request.zoneFinish.injEq] at alike
      exact alike.2.1
    exact ⟨noted, by rw [record]; rfl, current, status ▸ lookUp⟩

private theorem lasts_later (regular : w.store.Regular) (later : List Crew.Step) {zone : String}
    {record : ZoneTransfer}
    (there : ((party w errands).follow history).world.store.zoneNamed? zone = some record) :
    ((party w errands).follow (history ++ later)).world.store.zoneNamed? zone = some record ∨
      record.status = .unfinished ∧ record.ended = none ∧ ∃ result now,
        ((party w errands).follow (history ++ later)).world.store.zoneNamed? zone =
          some (record.finish (statusOf result) now) := by
  induction later using List.reverseRecOn with
  | nil => exact .inl (by rw [List.append_nil]; exact there)
  | append_singleton later step ih =>
    rw [← List.append_assoc]
    cases develops_next regular (history ++ later) step zone with
    | stays same =>
      rw [same]
      exact ih
    | created _ _ unknown _ _ =>
      rcases ih with still | ⟨_, _, _, _, closed⟩
      · cases still.symm.trans unknown
      · cases closed.symm.trans unknown
    | concluded _ _ _ id start _ result _ _ was now =>
      rcases ih with still | ⟨_, _, earlier, moment, closed⟩
      · cases still.symm.trans was
        exact .inr ⟨rfl, rfl, result, _, now⟩
      · -- A transfer that is over is not concluded again.
        have unfinished := congrArg ZoneTransfer.status (Option.some.inj (closed.symm.trans was))
        cases earlier <;> cases unfinished

end Main

/-- **A zone is asked for once, and its record says how that ended.** Any number of errands are done in one
world, with their requests interleaved in any order, whatever the name system and the servers answer. For each
zone `perform` is begun at most once. A record comes into being as that of a transfer that has begun, with a
new number; it changes once at most, when the errand that stored it notes its end, and then it says success if
and only if its `perform` ended well. -/
theorem zone_lives_once (w : World) (regular : w.store.Regular) (errands : List Errand)
    (history : List Crew.Step) : LivesOnce w errands history where
  begun zone := begun_once regular zone
  develops step zone := develops_next regular history step zone
  answered _ _ _ _ _ _ own heard performed := answered_next regular own heard performed
  lasts later _ _ there := lasts_later regular later there

/-- An errand for a host name, with some settings. -/
def errandFor (name : String) : Errand := ⟨.standard, ⟨⟨5⟩, 8, 53, ⟨5⟩, none⟩, fun found => found, 7, name⟩

/-- A world whose name system knows no zone. -/
def quietWorld : World where
  names := []
  addresses := []
  store := .empty
  cache := .empty
  directory := { Directory.empty with nameservers := fun _ => .error .malformed }
  servers := fun _ => .absent
  traces := .off
  now := ⟨0, 0⟩

/-- Two hosts are in one zone. Both errands find that it was never asked for, and both try to store a transfer
of it; the first one gets to ask for the zone, in vain. -/
theorem two_hosts_in_one_zone :
    let errands := [errandFor "a.example", errandFor "b.example"]
    let history : List Crew.Step := [.turn 0, .turn 1, .turn 1, .turn 0, .turn 0, .turn 1, .turn 0, .turn 0]
    LivesOnce quietWorld errands history ∧ ((party quietWorld errands).follow history).isOver = true ∧
      ((party quietWorld errands).follow history).world.store.zones =
        [⟨some 1, "example", ⟨0, 0⟩, some ⟨0, 0⟩, .refused⟩] :=
  ⟨zone_lives_once quietWorld Store.regular_empty _ _, rfl, rfl⟩

end HostSurvey.Transfer
