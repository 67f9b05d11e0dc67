import HostSurvey.Proofs.Survey.Consistency
/-!
# The record of a zone

A transfer is added once, and its end is noted by putting what the caller has in hand in the place of the record.
Nothing is compared then: neither the number, nor the status, nor whether the record was of a transfer that was over.

1. `writings` reads off the calls what was written of a zone. A call that fails writes nothing.
2. Each call keeps `Recorded` (`recorded_step`): the record is what was written last, and what was written first is the
   transfer as it was added.
3. So a record keeps its number, and has an end exactly when its transfer is over, just if that is so of what was
   written last. What is over lasts until the end of a transfer of the zone is noted again
   (`a_record_is_what_was_written_last`). That nothing else holds a caller back is shown behind it.
-/
namespace HostSurvey

/-- What is written of a zone. -/
inductive Writing where
  /-- A transfer, under a number. -/
  | added (transfer : ZoneTransfer) (id : RecordId)
  /-- A transfer that its caller has finished, in the place of the record. -/
  | finished (transfer : ZoneTransfer) (status : ZoneStatus) (now : Moment)

namespace Writing

/-- The record that it leaves. -/
def record : Writing → ZoneTransfer
  | .added transfer id => { transfer with id := some id }
  | .finished transfer status now => transfer.finish status now

def isFinish : Writing → Bool
  | .added _ _ => false
  | .finished _ _ _ => true

/-- Whether a transfer was over just if it had an end. -/
def IsSettled : Writing → Prop
  | .added transfer _ => transfer.ended.isSome = transfer.isFinished
  | .finished _ status _ => status ≠ .unfinished

theorem settled_iff (writing : Writing) :
    writing.record.ended.isSome = writing.record.isFinished ↔ writing.IsSettled := by
  cases writing with
  | added transfer id => exact Iff.rfl
  | finished transfer status now =>
    cases status <;> simp [record, ZoneTransfer.finish, ZoneTransfer.isFinished, IsSettled]

end Writing

/-- What a call has written. -/
def Entry.writing? (entry : Entry) : Option Writing :=
  match entry.1, entry.2.result with
  | .zoneAdd transfer, .ok (some id) => some (.added transfer id)
  | .zoneFinish transfer status now, .ok _ => some (.finished transfer status now)
  | _, _ => none

/-- What some calls have written of a zone. -/
def writings (zone : String) (history : List Entry) : List Writing :=
  (history.filterMap Entry.writing?).filter (·.record.zone = zone)

/-- Whether a call is to note the end of a transfer of a zone. -/
def Change.finishes (zone : String) : Change → Bool
  | .zoneFinish transfer _ _ => transfer.zone = zone
  | _ => false

namespace Tables

variable {t u : Tables} {history : List Entry} {zone : String}

/-! ## Calls -/

/-- How the records of zones go with what was written. -/
structure Recorded (history : List Entry) (t : Tables) : Prop where
  /-- A record is what was written last. -/
  last : ∀ zone, t.zoneGetByName zone = (writings zone history).getLast?.map Writing.record
  /-- It was added once, and after that only ends of transfers were noted. -/
  course : ∀ zone, writings zone history = [] ∨ ∃ transfer id later,
    writings zone history = .added transfer id :: later ∧ ∀ writing ∈ later, writing.isFinish = true

theorem recorded_empty : Recorded [] empty :=
  ⟨fun _ => rfl, fun _ => .inl rfl⟩

private theorem writings_silent {entry : Entry} (silent : entry.writing? = none) (zone : String) :
    writings zone (history ++ [entry]) = writings zone history := by
  simp [writings, silent]

private theorem writings_said {entry : Entry} {writing : Writing} (said : entry.writing? = some writing)
    (zone : String) : writings zone (history ++ [entry]) =
      writings zone history ++ if writing.record.zone = zone then [writing] else [] := by
  simp [writings, said, List.filter_cons]

/-- A call that writes nothing leaves the records as they are. -/
private theorem recorded_silent (recorded : Recorded history t) {entry : Entry} (silent : entry.writing? = none)
    (same : u.zones = t.zones) : Recorded (history ++ [entry]) u := by
  refine ⟨fun zone => ?_, fun zone => ?_⟩
  · rw [writings_silent silent, ← recorded.last, zoneGetByName, same]
    rfl
  · rw [writings_silent silent]
    exact recorded.course zone

/-- A call that writes changes the record of one zone. -/
private theorem recorded_said (recorded : Recorded history t) {entry : Entry} (writing : Writing)
    (said : entry.writing? = some writing) (written : u.zones = t.zones.insert writing.record.zone writing.record)
    (proper : (writings writing.record.zone history = [] ∧ writing.isFinish = false) ∨
      (writings writing.record.zone history ≠ [] ∧ writing.isFinish = true)) : Recorded (history ++ [entry]) u := by
  refine ⟨fun zone => ?_, fun zone => ?_⟩
  · rw [writings_said said, zoneGetByName, written, Keyed.lookup_insert]
    by_cases own : zone = writing.record.zone
    · rw [if_pos own, if_pos own.symm, List.getLast?_concat]
      rfl
    · rw [if_neg own, if_neg (Ne.symm own), List.append_nil]
      exact recorded.last zone
  · rw [writings_said said]
    by_cases own : writing.record.zone = zone
    · subst own
      rw [if_pos rfl]
      rcases proper with ⟨none, adds⟩ | ⟨some, finishes⟩
      · cases writing with
        | added transfer id => exact .inr ⟨transfer, id, [], by rw [none]; rfl, by simp⟩
        | finished transfer status now => cases adds
      · rcases recorded.course writing.record.zone with none | ⟨transfer, id, later, course, ends⟩
        · exact absurd none some
        · refine .inr ⟨transfer, id, later ++ [writing], by rw [course]; rfl, ?_⟩
          intro other member
          rcases List.mem_append.mp member with old | new
          · exact ends other old
          · rw [List.mem_singleton.mp new]
            exact finishes
    · rw [if_neg own, List.append_nil]
      exact recorded.course zone

/-- A zone is known if something was written of it. -/
theorem Recorded.known_iff (recorded : Recorded history t) (zone : String) :
    (t.zoneGetByName zone).isSome = true ↔ writings zone history ≠ [] := by
  rw [recorded.last, Option.isSome_map, Option.isSome_iff_ne_none, ne_eq, List.getLast?_eq_none_iff]

theorem recorded_step (recorded : Recorded history t) {call : Change} {reply : Reply}
    (served : Served t call reply u) : Recorded (history ++ [(call, reply)]) u := by
  cases served with
  | hostAdded _ => exact recorded_silent recorded rfl rfl
  | portAdded _ => exact recorded_silent recorded rfl rfl
  | @zoneAdded transfer unknown =>
    have none : writings transfer.zone history = [] := by
      by_contra some
      have known := (recorded.known_iff transfer.zone).mpr some
      rw [unknown] at known
      cases known
    exact recorded_said recorded (.added transfer (t.lastId + 1)) rfl rfl (.inl ⟨none, rfl⟩)
  | @zoneFinished transfer status now known =>
    have some := (recorded.known_iff transfer.zone).mp known
    exact recorded_said recorded (.finished transfer status now) rfl rfl (.inr ⟨some, rfl⟩)
  | @failed _ e =>
    refine recorded_silent recorded ?_ rfl
    cases call <;> rfl

theorem recorded_run (recorded : Recorded history t) (calls : List Change) :
    Recorded (history ++ (t.serveAll calls).1) (t.serveAll calls).2 := by
  induction calls generalizing t history with
  | nil => simpa [serveAll] using recorded
  | cons call rest ih =>
    have later := ih (recorded_step recorded (serve_served t call))
    simpa [serveAll] using later

/-! ## What a record outlasts -/

/-- A call leaves the record of a zone as it is, or it puts another transfer in its place whose end it notes. -/
theorem serve_record {record : ZoneTransfer} (there : t.zoneGetByName zone = some record) (call : Change) :
    (t.serve call).2.zoneGetByName zone = some record ∨ ∃ transfer status now,
      call = .zoneFinish transfer status now ∧ transfer.zone = zone ∧
        (t.serve call).2.zoneGetByName zone = some (transfer.finish status now) := by
  have served := serve_served t call
  generalize (t.serve call).1 = reply at served
  generalize (t.serve call).2 = u at served ⊢
  cases served with
  | hostAdded _ => exact .inl there
  | portAdded _ => exact .inl there
  | failed => exact .inl there
  | @zoneAdded transfer unknown =>
    have other : zone ≠ transfer.zone := by
      rintro rfl
      rw [there] at unknown
      cases unknown
    refine .inl ?_
    rw [zoneGetByName, Keyed.lookup_insert, if_neg other]
    exact there
  | @zoneFinished transfer status now _ =>
    rw [zoneGetByName, Keyed.lookup_insert]
    by_cases own : zone = transfer.zone
    · rw [if_pos own]
      exact .inr ⟨transfer, status, now, rfl, own.symm, rfl⟩
    · rw [if_neg own]
      exact .inl there

/-- A record lasts as long as the end of no transfer of its zone is noted. -/
theorem serveAll_record {record : ZoneTransfer} (there : t.zoneGetByName zone = some record) (calls : List Change)
    (silent : ∀ call ∈ calls, call.finishes zone = false) :
    (t.serveAll calls).2.zoneGetByName zone = some record := by
  induction calls generalizing t with
  | nil => exact there
  | cons call rest ih =>
    have onward : ∀ other ∈ rest, other.finishes zone = false :=
      fun other member => silent other (List.mem_cons_of_mem _ member)
    rcases serve_record there call with still | ⟨transfer, status, now, rfl, own, _⟩
    · exact ih still onward
    · have finishes := silent _ List.mem_cons_self
      simp [Change.finishes, own] at finishes

/-! ## The main theorem -/

/-- What a record says, by what was written of its zone. -/
structure WrittenLast (history : List Entry) (t : Tables) : Prop extends Recorded history t where
  /-- A record has the number under which its zone was added, just if the transfer has that was finished last. -/
  number : ∀ zone transfer id later record, writings zone history = .added transfer id :: later →
    t.zoneGetByName zone = some record →
      (record.id = some id ↔
        ∀ other status now, later.getLast? = some (.finished other status now) → other.id = some id)
  /-- It has an end exactly when it is over, just if that is so of what was written last. -/
  ended : ∀ zone record, t.zoneGetByName zone = some record →
    (record.ended.isSome = record.isFinished ↔ ∀ writing ∈ (writings zone history).getLast?, writing.IsSettled)
  /-- The next call leaves it as it is, or notes the end of a transfer of the zone. -/
  next : ∀ zone record call, t.zoneGetByName zone = some record →
    (t.serve call).2.zoneGetByName zone = some record ∨ ∃ transfer status now,
      call = .zoneFinish transfer status now ∧ transfer.zone = zone ∧
        (t.serve call).2.zoneGetByName zone = some (transfer.finish status now)
  /-- So it lasts until then. -/
  lasts : ∀ zone record calls, t.zoneGetByName zone = some record →
    (∀ call ∈ calls, call.finishes zone = false) → (t.serveAll calls).2.zoneGetByName zone = some record

private theorem Recorded.number (recorded : Recorded history t) {transfer record : ZoneTransfer} {id : RecordId}
    {later : List Writing} (course : writings zone history = .added transfer id :: later)
    (there : t.zoneGetByName zone = some record) :
    record.id = some id ↔
      ∀ other status now, later.getLast? = some (.finished other status now) → other.id = some id := by
  have last := recorded.last zone
  rw [there, course, List.getLast?_cons] at last
  cases final : later.getLast? with
  | none =>
    rw [final] at last
    cases last
    simp [Writing.record]
  | some writing =>
    have finishes : writing.isFinish = true := by
      rcases recorded.course zone with none | ⟨first, number, rest, also, ends⟩
      · rw [course] at none
        cases none
      · cases course.symm.trans also
        exact ends writing (List.mem_of_getLast? final)
    cases writing with
    | added other number => cases finishes
    | finished other status now =>
      rw [final] at last
      cases last
      constructor
      · rintro same _ _ _ ⟨⟩
        exact same
      · intro same
        exact same other status now rfl

private theorem Recorded.ended (recorded : Recorded history t) {record : ZoneTransfer}
    (there : t.zoneGetByName zone = some record) :
    record.ended.isSome = record.isFinished ↔ ∀ writing ∈ (writings zone history).getLast?, writing.IsSettled := by
  have last := recorded.last zone
  rw [there] at last
  obtain ⟨writing, final, rfl⟩ := Option.map_eq_some_iff.mp last.symm
  rw [final, writing.settled_iff]
  simp

/-- **A record is what was written last.** Whatever calls are made one after the other, with whatever transfers their
callers have in hand: a zone is added once, and its record is that transfer until the end of a transfer of the zone is
noted; then it is this one. So it has the number under which the zone was added just if the transfer has that was
finished last, it has an end exactly when it is over just if that one was finished for good, and it lasts until the next
end of a transfer of the zone is noted. -/
theorem a_record_is_what_was_written_last (calls : List Change) :
    WrittenLast (empty.serveAll calls).1 (empty.serveAll calls).2 := by
  have recorded : Recorded (empty.serveAll calls).1 (empty.serveAll calls).2 := by
    simpa using recorded_run recorded_empty calls
  refine ⟨recorded, ?_, ?_, ?_, ?_⟩
  · intro zone transfer id later record course there
    exact recorded.number course there
  · intro zone record there
    exact recorded.ended there
  · intro zone record call there
    exact serve_record there call
  · intro zone record later there silent
    exact serveAll_record there later silent

/-- A transfer is over. Then its end is noted once more, by somebody who has it in hand as it was before it was added,
and who says that it is not over: the record has no number any more, and an end although it is not over. -/
theorem a_finished_record_is_replaced :
    let begun := ZoneTransfer.begin "krylon.net." ⟨0, 0⟩
    let before := (empty.serveAll [.zoneAdd begun, .zoneFinish { begun with id := some 1 } .refused ⟨1, 0⟩]).2
    let after := (before.serve (.zoneFinish begun .unfinished ⟨2, 0⟩)).2
    ∃ finished replaced, before.zoneGetByName "krylon.net." = some finished ∧
      after.zoneGetByName "krylon.net." = some replaced ∧
      finished.isFinished = true ∧ finished.id = some 1 ∧
      ¬replaced = finished ∧ ¬replaced.id = some 1 ∧ ¬replaced.ended.isSome = replaced.isFinished := by
  refine ⟨⟨some 1, "krylon.net.", ⟨0, 0⟩, some ⟨1, 0⟩, .refused⟩,
    ⟨none, "krylon.net.", ⟨0, 0⟩, some ⟨2, 0⟩, .unfinished⟩, ?_⟩
  decide

end Tables
end HostSurvey
