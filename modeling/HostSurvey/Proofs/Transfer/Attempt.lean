import HostSurvey.Proofs.Survey.Course
import HostSurvey.Proofs.Transfer.Conduct
import HostSurvey.Proofs.Transfer.Envelopes
import Mathlib
/-!
# The account of an attempt

One server is asked for a zone. What comes of it is told by the session as a whole, without the loop over
its envelopes.

1. The records of the zone are those of the accepted messages. Each is taken in once, in the order in which they
   came, whatever goes wrong after it (`attempt_eq`).
2. The attempt tells the number of records if nothing went wrong before the zone was over and there are any, and
   an error otherwise (`outcome_eq_ok_iff`).
3. The world afterwards is the one that the records alone make of it: neither a trace nor an error changes anything
   but the traces (`attempt_in_world`).
-/
namespace HostSurvey.Transfer

open Net Dns Settings Activity

namespace Session

variable {dns : Library} {s : Session}

/-- The records of the zone, as far as they came. -/
def records (dns : Library) (s : Session) : List Record :=
  (s.accepted (receiveAll dns.decode? s.stream).1).flatMap (·.answers)

/-- What went wrong before the zone was over, if something did. -/
def failure (dns : Library) (s : Session) : Option Error :=
  s.failure? dns (receiveAll dns.decode? s.stream).1 (receiveAll dns.decode? s.stream).2

/-- What is told of the zone in the end. -/
def outcome (dns : Library) (s : Session) : Except Error Nat :=
  match s.failure dns with
  | some e => .error e
  | none =>
    if (s.records dns).length = 0 then .error (.transfer s.zone (s.server.text ++ " sent no records"))
    else .ok (s.records dns).length

/-! ## What went wrong -/

theorem objection?_eq_none {m : Message} : s.objection? dns m = none ↔ isProper s.id m = true := by
  cases proper : isProper s.id m with
  | true => simp [objection?, accept_proper proper]
  | false =>
    obtain ⟨e, objected, _⟩ := accept_improper dns proper
    simp [objected]

theorem interruption?_eq_none {last : Received Message} (other : ∀ m rest, last ≠ .message m rest) :
    s.interruption? last = none ↔ last = .ended := by
  cases last with
  | message m rest => exact absurd rfl (other m rest)
  | ended | failed e rest | silence => simp [interruption?]

/-- Nothing went wrong if the zone was over with a proper message, or if all messages were proper and the server
closed its side behind them. -/
theorem failure_eq_none (s : Session) :
    let all := receiveAll dns.decode? s.stream
    s.failure dns = none ↔
      lastPlace s.starts (s.proper all.1) < (s.proper all.1).length ∨ (s.proper all.1 = all.1 ∧ all.2 = .ended) := by
  generalize received : receiveAll dns.decode? s.stream = all
  obtain ⟨messages, last⟩ := all
  unfold failure failure?
  rw [received]
  dsimp only
  by_cases isLast : lastPlace s.starts (s.proper messages) < (s.proper messages).length
  · rw [if_pos isLast]
    simp only [isLast, true_or]
  · rw [if_neg isLast, or_iff_right isLast]
    cases rest : messages.dropWhile (isProper s.id) with
    | nil =>
      have all : s.proper messages = messages := by
        have cut := List.takeWhile_append_dropWhile (p := isProper s.id) (l := messages)
        rwa [rest, List.append_nil] at cut
      simp only [all, true_and]
      exact interruption?_eq_none (receiveAll_last received)
    | cons m more =>
      have improper : isProper s.id m = false := by
        have := List.head?_dropWhile_not (isProper s.id) messages
        simpa [rest] using this
      have shorter : s.proper messages ≠ messages := by
        intro all
        have cut := List.takeWhile_append_dropWhile (p := isProper s.id) (l := messages)
        rw [rest, show messages.takeWhile (isProper s.id) = messages from all] at cut
        simp at cut
      simp only [objection?_eq_none, improper, shorter, false_and, Bool.false_eq_true]

theorem outcome_eq_ok_iff {count : Nat} :
    s.outcome dns = .ok count ↔ s.failure dns = none ∧ count = (s.records dns).length ∧ 0 < count := by
  unfold outcome
  cases s.failure dns with
  | some e => simp
  | none =>
    by_cases nothing : (s.records dns).length = 0
    · simp only [nothing, if_true, reduceCtorEq, false_iff]
      omega
    · simp only [nothing, if_false, Except.ok.injEq, true_and]
      omega

end Session

/-! ## One record after the other -/

/-- Takes in one record, and traces it. -/
def takeIn (dns : Library) (traced : Bool) (zone : String) (r : Record) : Activity Unit := do
  if traced then Activity.request (.traceLine zone (dns.recordText r))
  ingest dns r

theorem takeRecords_eq (dns : Library) (traced : Bool) (zone : String) (records : List Record) :
    takeRecords dns traced zone records = records.forM (takeIn dns traced zone) := by
  induction records with
  | nil => rfl
  | cons r rest ih =>
    rw [takeRecords, ih]
    cases traced <;> simp [takeIn]

/-- The records of all envelopes are taken in one after the other, up to the error. -/
theorem takeEnvelopes_eq (dns : Library) (traced : Bool) (zone : String) (before : Nat) (messages : List Message)
    (failure : Option Error) :
    takeEnvelopes dns traced zone before (messages.map (fun m => .ok m.answers) ++ failure.toList.map .error) = do
      (messages.flatMap (·.answers)).forM (takeIn dns traced zone)
      return (before + (messages.flatMap (·.answers)).length, failure) := by
  induction messages generalizing before with
  | nil => cases failure <;> rfl
  | cons m more ih =>
    simp only [List.map_cons, List.cons_append, takeEnvelopes, takeRecords_eq, ih, List.flatMap_cons,
      List.forM_eq_forM, List.forM_append, bind_assoc, List.length_append, Nat.add_assoc]

theorem takeEnvelopes_envelopes {dns : Library} {s : Session} (goes : s.isOver = false) (traced : Bool) :
    takeEnvelopes dns traced s.zone 0 (s.envelopes dns) = do
      (s.records dns).forM (takeIn dns traced s.zone)
      return ((s.records dns).length, s.failure dns) := by
  rw [s.envelopes_eq goes, takeEnvelopes_eq, Nat.zero_add]
  rfl

/-- What is done with a zone that is being sent. -/
def account (dns : Library) (s : Session) (traced : Bool) : Activity (Except Error Nat) := do
  (s.records dns).forM (takeIn dns traced s.zone)
  if traced && (s.records dns).isEmpty then Activity.request (.traceRemove s.zone)
  return s.outcome dns

theorem account_eq {dns : Library} {s : Session} (goes : s.isOver = false) (traced : Bool) :
    account dns s traced = (takeEnvelopes dns traced s.zone 0 (s.envelopes dns) >>= fun (received, failure) => do
      if traced && received == 0 then Activity.request (.traceRemove s.zone)
      match failure with
      | some e => return .error e
      | none =>
        if received = 0 then return .error (.transfer s.zone (s.server.text ++ " sent no records"))
        else return .ok received) := by
  have closing : (match s.failure dns with
      | some e => pure (.error e)
      | none =>
        if (s.records dns).length = 0 then pure (.error (.transfer s.zone (s.server.text ++ " sent no records")))
        else pure (.ok (s.records dns).length)) = (pure (s.outcome dns) : Activity (Except Error Nat)) := by
    unfold Session.outcome
    split
    · rfl
    · split <;> rfl
  -- The loop counts, where the account looks whether there are records.
  have nothing : ((s.records dns).length == 0) = (s.records dns).isEmpty := by
    cases s.records dns <;> rfl
  rw [takeEnvelopes_envelopes goes]
  simp only [bind_assoc, pure_bind, closing, nothing]
  rfl

section Attempt
variable (dns : Library) (settings : TransferSettings) (id : UInt16) (zone : String) (address : Address)

/-- The session of an attempt in which a stream is sent. -/
def sessionOf (stream : Stream) : Session :=
  ⟨zone, ⟨address, settings.port⟩, settings.timeout, id, stream, 0, false⟩

/-- An attempt, told by the whole of what a server sends. -/
def wholeAttempt (name : Name) : Activity (Except Error Nat) := do
  match ← Activity.request (.zoneFrom ⟨address, settings.port⟩ settings.timeout name) with
  | .error e => return .error e
  | .ok stream =>
    let traced ← Activity.request (.traceBegin zone)
    account dns (sessionOf settings id zone address stream) traced

/-- The loop over the envelopes does the same as their records one after the other. -/
theorem attempt_eq {zone : String} {name : Name} (named : dns.parse? zone = some name) :
    attempt dns settings id zone address = wholeAttempt dns settings id zone address name := by
  unfold attempt wholeAttempt
  rw [named]
  refine congrArg (bind _) (funext fun given => ?_)
  cases given with
  | error e => rfl
  | ok stream =>
    refine congrArg (bind _) (funext fun traced => ?_)
    exact (account_eq (s := sessionOf settings id zone address stream) rfl traced).symm

end Attempt

/-! ## Traces -/

/-- A request that has nothing to do with traces. -/
def IsUntraced : Request → Prop
  | .traceBegin _ | .traceLine _ _ | .traceRemove _ => False
  | _ => True

/-- What is asked apart from traces. Nothing is relied upon. -/
def untraced : Terms := ⟨IsUntraced, fun _ _ => True⟩

theorem ingest_untraced (dns : Library) (r : Record) : (ingest dns r).Observes untraced fun _ => True :=
  ingest_observes dns ⟨fun r ofRecords => by cases r <;> first | exact ofRecords.elim | trivial, fun _ _ _ => trivial⟩ r

theorem answer_traces {r : Request} (apart : IsUntraced r) (w : World) (traces : TraceFolder) :
    World.answer r { w with traces := traces } =
      ((World.answer r w).1, { (World.answer r w).2 with traces := traces }) := by
  have storing : ∀ {α} (result : Except Error (α × Store)), World.storing { w with traces := traces } result =
      ((w.storing result).1, { (w.storing result).2 with traces := traces }) := by
    intro α result
    cases result <;> rfl
  cases r with
  | traceBegin _ | traceLine _ _ | traceRemove _ => exact apart.elim
  | hostAdd host => exact storing _
  | zoneAdd transfer => exact storing _
  | zoneFinish transfer status => exact storing _
  | cacheAdd key =>
    simp only [World.answer]
    cases w.cache.add key <;> rfl
  | requestZone name =>
    simp only [World.answer]
    split <;> rfl
  | _ => rfl

/-- What has nothing to do with traces comes to the same whatever they are. -/
theorem run_traces {a : Activity α} {ends : α → Prop} (apart : a.Observes untraced ends) (w : World)
    (traces : TraceFolder) :
    (a.run World.answer { w with traces := traces }).2 =
      ((a.run World.answer w).2.1, { (a.run World.answer w).2.2 with traces := traces }) := by
  induction a generalizing w with
  | done value => rfl
  | ask r next ih =>
    have same := answer_traces apart.1 w traces
    have later := ih (World.answer r w).1 (apart.2 _ trivial) (World.answer r w).2
    show ((next (World.answer r { w with traces := traces }).1).run World.answer
      (World.answer r { w with traces := traces }).2).2 = _
    rw [same]
    exact later

theorem takeIn_traces (dns : Library) (traced : Bool) (zone : String) (r : Record) (w : World) (traces : TraceFolder) :
    ∃ after, ((takeIn dns traced zone r).run World.answer { w with traces := traces }).2.2 =
      { ((ingest dns r).run World.answer w).2.2 with traces := after } := by
  cases traced with
  | true =>
    refine ⟨traces.append (traceName zone) (dns.recordText r), ?_⟩
    exact congrArg Prod.snd (run_traces (ingest_untraced dns r) w (traces.append (traceName zone) (dns.recordText r)))
  | false => exact ⟨traces, congrArg Prod.snd (run_traces (ingest_untraced dns r) w traces)⟩

/-- The records change the world in the same way whether they are traced or not. -/
theorem records_traces (dns : Library) (traced : Bool) (zone : String) (records : List Record) (w : World)
    (traces : TraceFolder) :
    ∃ after, ((records.forM (takeIn dns traced zone)).run World.answer { w with traces := traces }).2.2 =
      { ((records.forM (ingest dns)).run World.answer w).2.2 with traces := after } := by
  induction records generalizing w traces with
  | nil => exact ⟨traces, rfl⟩
  | cons r rest ih =>
    obtain ⟨between, first⟩ := takeIn_traces dns traced zone r w traces
    obtain ⟨after, others⟩ := ih ((ingest dns r).run World.answer w).2.2 between
    refine ⟨after, ?_⟩
    simp only [List.forM_eq_forM] at others ⊢
    rw [List.forM_cons, List.forM_cons, run_bind, run_bind]
    dsimp only
    rw [first]
    exact others

theorem account_traces (dns : Library) (s : Session) (traced : Bool) (w : World) (traces : TraceFolder) :
    ∃ after, ((account dns s traced).run World.answer { w with traces := traces }).2 =
      (s.outcome dns, { (((s.records dns).forM (ingest dns)).run World.answer w).2.2 with traces := after }) := by
  obtain ⟨after, taken⟩ := records_traces dns traced s.zone (s.records dns) w traces
  unfold account
  rw [run_bind]
  dsimp only
  rw [taken]
  split
  · exact ⟨after.remove (traceName s.zone), rfl⟩
  · exact ⟨after, rfl⟩

/-- **In the world.** When the server sends its stream, the records alone change the world, but for traces. -/
theorem attempt_in_world (dns : Library) (settings : TransferSettings) (id : UInt16) (address : Address)
    {zone : String} {name : Name} (named : dns.parse? zone = some name) {w : World} {stream : Stream}
    (sent : (w.servers ⟨address, settings.port⟩).connect ⟨address, settings.port⟩ settings.timeout = .ok stream) :
    let session := sessionOf settings id zone address stream
    ∃ traces, (w.perform (attempt dns settings id zone address)).2 =
      (session.outcome dns, { (w.perform ((session.records dns).forM (ingest dns))).2.2 with traces := traces }) := by
  intro session
  let begun := w.traces.create (traceName zone)
  obtain ⟨after, accounted⟩ := account_traces dns session begun.1 w begun.2
  refine ⟨after, ?_⟩
  have asked : World.answer (.zoneFrom ⟨address, settings.port⟩ settings.timeout name) w = (.ok stream, w) :=
    congrArg (·, w) sent
  rw [attempt_eq dns settings id address named]
  unfold World.perform wholeAttempt
  rw [run_request, asked]
  exact accounted

/-! ## The account -/

/-- What an attempt comes to, told by what the server sends. -/
structure TakesInAccepted (dns : Library) (settings : TransferSettings) (id : UInt16) (zone : String) (name : Name)
    (address : Address) : Prop where
  /-- The calls bring the records of one accepted message after the other, then the error if something went wrong,
  and then nothing for ever. -/
  calls : ∀ stream call,
    let session := sessionOf settings id zone address stream
    session.reply dns call =
      ((session.accepted (receiveAll dns.decode? stream).1).map (fun m => .ok m.answers) ++
        (session.failure dns).toList.map .error)[call]?
  /-- Nothing went wrong if the zone was over with a proper message, or if all messages were proper and the server
  closed its side behind them. -/
  fails : ∀ stream,
    let session := sessionOf settings id zone address stream
    let proper := (receiveAll dns.decode? stream).1.takeWhile (isProper id)
    session.failure dns = none ↔ lastPlace 0 proper < proper.length ∨
      (proper = (receiveAll dns.decode? stream).1 ∧ (receiveAll dns.decode? stream).2 = .ended)
  /-- After the server was asked, each record is taken in once, in order. -/
  course : attempt dns settings id zone address = wholeAttempt dns settings id zone address name
  /-- The number of records is told if nothing went wrong and there are any, and an error otherwise. -/
  told : ∀ stream count,
    let session := sessionOf settings id zone address stream
    session.outcome dns = .ok count ↔ session.failure dns = none ∧ count = (session.records dns).length ∧ 0 < count
  /-- What the records made of the world stays, whether the attempt fails or not and whatever is traced. -/
  kept : ∀ (w : World) (stream : Stream),
    (w.servers ⟨address, settings.port⟩).connect ⟨address, settings.port⟩ settings.timeout = .ok stream →
    let session := sessionOf settings id zone address stream
    ∃ traces, (w.perform (attempt dns settings id zone address)).2 =
      (session.outcome dns, { (w.perform ((session.records dns).forM (ingest dns))).2.2 with traces := traces })

/-- **An attempt takes in what was accepted, and nothing else.** However messages are read, and whatever a server
sends, the records of the accepted messages are taken in, each once and in order, and stay. Their number is told if
and only if nothing went wrong before the zone was over and there was at least one record. -/
theorem attempt_takes_in_what_was_accepted (dns : Library) (settings : TransferSettings) (id : UInt16) {zone : String}
    {name : Name} (named : dns.parse? zone = some name) (address : Address) :
    TakesInAccepted dns settings id zone name address where
  calls stream call := by
    intro session
    rw [session.reply_eq, session.envelopes_eq rfl]
    rfl
  fails stream := (sessionOf settings id zone address stream).failure_eq_none
  course := attempt_eq dns settings id address named
  told stream count := Session.outcome_eq_ok_iff
  kept w stream sent := attempt_in_world dns settings id address named sent

/-- The only record of a small zone. -/
def soleRecord : Record :=
  ⟨.root, ⟨1⟩, ⟨1⟩, 60, some (.address (.ofOctets [198, 51, 100, 80]))⟩

/-- A message that brings it, in answer to request 7. -/
def soleAnswer : Bytes :=
  framed [0, 7, 0x84, 0, 0, 0, 0, 1, 0, 0, 0, 0, 0, 0, 1, 0, 1, 0, 0, 0, 60, 0, 4, 198, 51, 100, 80]

/-- A message with one record, and one in two pieces that bears another number. Then the server stays silent. -/
private def broken : Stream :=
  ⟨[soleAnswer ++ [0], [12, 0, 8, 0x84, 0, 0, 0, 0, 0, 0, 0, 0, 0]], .hangs⟩

private theorem broken_messages : receiveAll Message.decode? broken =
    ([⟨7, true, 0, .noError, [], [soleRecord], [], []⟩, ⟨8, true, 0, .noError, [], [], [], []⟩], .silence) := by
  have first : receive Message.decode? broken = .message ⟨7, true, 0, .noError, [], [soleRecord], [], []⟩
      ⟨[[0], [12, 0, 8, 0x84, 0, 0, 0, 0, 0, 0, 0, 0, 0]], .hangs⟩ := by cbv
  have second : receive Message.decode? ⟨[[0], [12, 0, 8, 0x84, 0, 0, 0, 0, 0, 0, 0, 0, 0]], .hangs⟩ =
      .message ⟨8, true, 0, .noError, [], [], [], []⟩ ⟨[[]], .hangs⟩ := by cbv
  have silence : receive Message.decode? ⟨[[]], .hangs⟩ = .silence := by cbv
  have last : receiveAll Message.decode? ⟨[[]], .hangs⟩ = ([], .silence) := by
    rw [receiveAll, silence]
  rw [receiveAll_message first, receiveAll_message second, last]

private def rootServer : Endpoint := ⟨.ofOctets [198, 51, 100, 1], 53⟩

private def rootWorld : World where
  names := []
  addresses := []
  store := .empty
  cache := .empty
  directory := .empty
  servers := fun _ => .listening broken
  traces := .files []
  now := ⟨0, 0⟩

private theorem broken_outcome :
    let session := sessionOf .standard 7 "." rootServer.address broken
    session.records .standard = [soleRecord] ∧ session.outcome .standard =
      .error (.transfer "." "198.51.100.1:53 answered with unexpected id 8") := by
  intro session
  have messages := broken_messages
  have records : session.records .standard = [soleRecord] := by
    show ((session.accepted (receiveAll Message.decode? broken).1).flatMap (·.answers)) = _
    rw [messages]
    cbv
  have failure : session.failure .standard = some (.transfer "." "198.51.100.1:53 answered with unexpected id 8") := by
    show session.failure? .standard (receiveAll Message.decode? broken).1 (receiveAll Message.decode? broken).2 = _
    rw [messages]
    cbv
  refine ⟨records, ?_⟩
  unfold Session.outcome
  rw [failure]

/-- The server's first message is good, the second one bears another number. The attempt fails, and the host of the
first message is kept. -/
theorem a_broken_transfer_keeps_its_host :
    Library.standard.parse? "." = some .root ∧ TakesInAccepted .standard .standard 7 "." .root rootServer.address ∧
      (rootWorld.perform (attempt .standard .standard 7 "." rootServer.address)).2.1 =
        .error (.transfer "." "198.51.100.1:53 answered with unexpected id 8") ∧
      (rootWorld.perform (attempt .standard .standard 7 "." rootServer.address)).2.2.store.hosts =
        [⟨some 1, .ofOctets [198, 51, 100, 80], ".", .address, ⟨0, 0⟩⟩] := by
  have named : Library.standard.parse? "." = some .root := rfl
  have accounted := attempt_takes_in_what_was_accepted .standard .standard 7 named rootServer.address
  obtain ⟨traces, performed⟩ := accounted.kept rootWorld broken rfl
  rw [performed, broken_outcome.1, broken_outcome.2]
  exact ⟨named, accounted, rfl, by cbv⟩

end HostSurvey.Transfer
