import HostSurvey.Proofs.Transfer.Servers
import HostSurvey.Survey.Tables
/-!
# Traces

What a transfer leaves in the folder of traces.

1. The folder is changed by the requests about traces alone, one after the other (`run_folder`).
2. A session makes the file of its zone anew and adds a line for each of its records. If there were none it removes
   the file (`account_leaves`). A server that cannot be reached leaves the folder as it is.
3. So of all sessions of a transfer the last one settles what the file holds (`tries_leave`), and the lines of the
   others are gone.
-/
namespace HostSurvey

open Net Dns Settings Activity Transfer

/-! ## Folders -/

namespace TraceFolder

/-- Whether there is a folder. -/
def isThere : TraceFolder → Bool
  | .files _ => true
  | _ => false

/-- What a request makes of the folder. -/
def serve (folder : TraceFolder) : Request → TraceFolder
  | .traceBegin zone => (folder.create (traceName zone)).2
  | .traceLine zone line => folder.append (traceName zone) line
  | .traceRemove zone => folder.remove (traceName zone)
  | _ => folder

/-- What requests make of the folder. -/
def serveAll (folder : TraceFolder) (asked : List Exchange) : TraceFolder :=
  asked.foldl (fun folder exchange => folder.serve exchange.1) folder

/-- The folder has changed in one file, which holds these lines now, or is not there. -/
structure Changed (before after : TraceFolder) (name : String) (lines : Option (List String)) : Prop where
  there : after.isThere = true
  own : after.lines? name = lines
  others : ∀ other, other ≠ name → after.lines? other = before.lines? other

variable {folder before : TraceFolder} {name : String} {lines : Option (List String)}

theorem changed_update (there : folder.isThere = true) (change : Option (List String) → Option (List String)) :
    Changed folder (folder.update name change) name (change (folder.lines? name)) := by
  cases folder with
  | off | blocked => cases there
  | files entries =>
    refine ⟨rfl, ?_, fun other different => ?_⟩
    · have gone : (entries.filter (·.1 ≠ name)).lookup name = none := by
        refine List.lookup_eq_none_iff.mpr fun entry member => ?_
        have unlike : entry.1 ≠ name := by simpa using (List.mem_filter.mp member).2
        exact bne_iff_ne.mpr unlike.symm
      simp only [update, lines?, List.lookup_append, gone, Option.none_or]
      cases change (entries.lookup name) <;> simp
    · have same := Keyed.lookup_others entries different
      simp only [update, lines?, List.lookup_append, same]
      have nothing : (((change (entries.lookup name)).map fun lines => (name, lines)).toList).lookup other = none := by
        cases change (entries.lookup name) <;> simp [different]
      rw [nothing, Option.or_none]

theorem Changed.trans {between after : TraceFolder} {later : Option (List String)}
    (first : Changed before between name lines) (second : Changed between after name later) :
    Changed before after name later :=
  ⟨second.there, second.own, fun other different =>
    (second.others other different).trans (first.others other different)⟩

/-- A name that a file may have. -/
def IsShort (name : String) : Prop :=
  name.utf8ByteSize ≤ longestName

theorem create_done (there : folder.isThere = true) (short : IsShort name) :
    folder.create name = (true, folder.update name fun _ => some []) := by
  cases folder with
  | off | blocked => cases there
  | files entries => exact if_pos short

theorem isThere_update (change : Option (List String) → Option (List String)) :
    (folder.update name change).isThere = folder.isThere := by
  cases folder <;> rfl

theorem isThere_serve (r : Request) : (folder.serve r).isThere = folder.isThere := by
  cases r with
  | traceBegin zone =>
    cases folder with
    | files entries =>
      simp only [serve, create]
      split <;> rfl
    | _ => rfl
  | traceLine zone line => exact isThere_update _
  | traceRemove zone => exact isThere_update fun _ => none
  | _ => rfl

theorem isThere_serveAll (asked : List Exchange) : (folder.serveAll asked).isThere = folder.isThere := by
  induction asked generalizing folder with
  | nil => rfl
  | cons exchange rest ih => exact ih.trans (isThere_serve exchange.1)

theorem serveAll_append (first later : List Exchange) :
    folder.serveAll (first ++ later) = (folder.serveAll first).serveAll later :=
  List.foldl_append

theorem serve_untraced {r : Request} (apart : IsUntraced r) : folder.serve r = folder := by
  cases r with
  | traceBegin _ | traceLine _ _ | traceRemove _ => exact apart.elim
  | _ => rfl

theorem serveAll_untraced {asked : List Exchange} (apart : ∀ exchange ∈ asked, IsUntraced exchange.1) :
    folder.serveAll asked = folder := by
  induction asked with
  | nil => rfl
  | cons exchange rest ih =>
    have others := ih fun other member => apart other (List.mem_cons_of_mem exchange member)
    rw [serveAll, List.foldl_cons, serve_untraced (apart exchange List.mem_cons_self)]
    exact others

end TraceFolder

/-! ## Runs -/

theorem answer_folder (r : Request) (w : World) : (World.answer r w).2.traces = w.traces.serve r := by
  have storing : ∀ {α} (result : Except Error (α × Store)), (w.storing result).2.traces = w.traces := by
    intro α result
    cases result <;> rfl
  cases r with
  | hostAdd host => exact storing _
  | zoneAdd transfer => exact storing _
  | zoneFinish transfer status => exact storing _
  | cacheAdd key =>
    simp only [World.answer]
    split <;> rfl
  | requestZone name =>
    simp only [World.answer]
    split <;> rfl
  | _ => rfl

/-- What a run makes of the folder is what its requests make of it. -/
theorem run_folder {α : Type} (a : Activity α) (w : World) :
    (w.perform a).2.2.traces = w.traces.serveAll (w.perform a).1 := by
  unfold World.perform
  induction a generalizing w with
  | done value => rfl
  | ask r next ih =>
    show ((next _).run World.answer (World.answer r w).2).2.2.traces = _
    rw [ih, answer_folder]
    rfl

/-- In a folder that is there traces can be begun. -/
theorem run_begun {α : Type} (a : Activity α) {w : World} (there : w.traces.isThere = true) {zone : String}
    (short : TraceFolder.IsShort (traceName zone)) :
    ∀ given, ⟨.traceBegin zone, given⟩ ∈ (w.perform a).1 → given = true := by
  unfold World.perform
  induction a generalizing w with
  | done value => exact fun _ member => nomatch member
  | ask r next ih =>
    intro given member
    rcases List.mem_cons.mp member with same | later
    · cases same
      exact congrArg Prod.fst (TraceFolder.create_done there short)
    · have stays : (World.answer r w).2.traces.isThere = true := by
        rw [answer_folder, TraceFolder.isThere_serve, there]
      exact ih _ stays given later

namespace Transfer

/-! ## Sessions -/

/-- The lines of a trace. There is no trace without lines. -/
def traceOf (dns : Library) (records : List Record) : Option (List String) :=
  if records = [] then none else some (records.map dns.recordText)

/-- The session that begins with an exchange, if a server sends something then. -/
def session? (id : UInt16) (zone : String) : Exchange → Option Session
  | ⟨.zoneFrom server limit _, .ok stream⟩ => some ⟨zone, server, limit, id, stream, 0, false⟩
  | _ => none

/-- The sessions of a transfer. -/
def sessions (id : UInt16) (zone : String) (asked : List Exchange) : List Session :=
  asked.filterMap (session? id zone)

/-- What is left in the folder behind sessions. -/
def Leaves (dns : Library) (before after : TraceFolder) (zone : String) (sessions : List Session) : Prop :=
  match sessions.getLast? with
  | none => after = before
  | some s => TraceFolder.Changed before after (traceName zone) (traceOf dns (s.records dns))

section Leaving
variable {dns : Library} {id : UInt16} {zone : String} {asked : List Exchange} {folder : TraceFolder}

theorem leaves_append {before between after : TraceFolder} {first later : List Session}
    (left : Leaves dns before between zone first) (also : Leaves dns between after zone later) :
    Leaves dns before after zone (first ++ later) := by
  unfold Leaves at *
  rw [List.getLast?_append]
  cases last : later.getLast? with
  | none =>
    rw [last] at also
    rw [Option.none_or, also]
    exact left
  | some s =>
    rw [last] at also
    rw [Option.some_or]
    cases earlier : first.getLast? with
    | none =>
      rw [earlier] at left
      rw [← left]
      exact also
    | some _ =>
      rw [earlier] at left
      exact left.trans also

/-- Whoever asks no server has no session. -/
theorem sessions_withoutContact (silent : ∀ exchange ∈ asked, contact? exchange = none) :
    sessions id zone asked = [] := by
  refine List.filterMap_eq_nil_iff.mpr fun exchange member => ?_
  obtain ⟨r, given⟩ := exchange
  cases r with
  | zoneFrom server limit name => cases silent _ member
  | _ => rfl

/-- Each record is added to the trace. -/
theorem records_leave {records : List Record} {before : TraceFolder} {lines : List String}
    (taken : (records.forM (takeIn dns true zone)).Reaches asked (.done ()))
    (changed : TraceFolder.Changed before folder (traceName zone) (some lines)) :
    TraceFolder.Changed before (folder.serveAll asked) (traceName zone)
      (some (lines ++ records.map dns.recordText)) := by
  induction records generalizing asked folder lines with
  | nil =>
    obtain ⟨rfl, _⟩ := reaches_done taken
    rw [List.map_nil, List.append_nil]
    exact changed
  | cons r rest ih =>
    obtain ⟨own, others, _, rfl, first, later⟩ := ended_bind taken
    obtain ⟨_, ingested, rfl, ingesting⟩ := ended_request first
    have apart := (reaches_observes (fun _ _ => trivial) (ingest_untraced dns r) ingesting).1
    let text := dns.recordText r
    have line : TraceFolder.Changed folder (folder.append (traceName zone) text) (traceName zone)
        (some (lines ++ [text])) := by
      rw [← Option.map_some (f := (· ++ [text])), ← changed.own]
      exact TraceFolder.changed_update changed.there _
    have more := ih later (changed.trans line)
    rw [List.append_assoc] at more
    have served : folder.serveAll (⟨.traceLine zone text, ()⟩ :: ingested ++ others) =
        (folder.append (traceName zone) text).serveAll others := by
      rw [TraceFolder.serveAll_append]
      exact congrArg (TraceFolder.serveAll · others) (TraceFolder.serveAll_untraced apart)
    exact served ▸ more

/-- A session makes the file anew, and leaves it if there are records. -/
theorem account_leaves {s : Session} {result : Except Error Nat} (there : folder.isThere = true)
    (short : TraceFolder.IsShort (traceName s.zone)) (ended : (account dns s true).Reaches asked (.done result)) :
    TraceFolder.Changed folder (folder.serveAll (⟨.traceBegin s.zone, true⟩ :: asked)) (traceName s.zone)
      (traceOf dns (s.records dns)) := by
  have made : TraceFolder.Changed folder (folder.serve (.traceBegin s.zone)) (traceName s.zone) (some []) := by
    rw [TraceFolder.serve, TraceFolder.create_done there short]
    exact TraceFolder.changed_update there fun _ => some []
  unfold account at ended
  obtain ⟨own, closing, _, rfl, taken, closed⟩ := ended_bind ended
  have filled := records_leave taken made
  show TraceFolder.Changed folder ((folder.serve (.traceBegin s.zone)).serveAll (own ++ closing)) _ _
  rw [TraceFolder.serveAll_append]
  split at closed
  · rename_i nothing
    have none : s.records dns = [] := by simpa using nothing
    obtain ⟨_, later, rfl, last⟩ := ended_request closed
    obtain ⟨rfl, _⟩ := reaches_done last
    rw [traceOf, if_pos none]
    exact filled.trans (TraceFolder.changed_update filled.there fun _ => Option.none)
  · rename_i something
    have some_ : s.records dns ≠ [] := by simpa using something
    obtain ⟨rfl, _⟩ := reaches_done closed
    rw [traceOf, if_neg some_]
    exact filled

variable {settings : TransferSettings}

theorem attempt_leaves {address : Address} {result : Except Error Nat} (there : folder.isThere = true)
    (short : TraceFolder.IsShort (traceName zone))
    (ended : (attempt dns settings id zone address).Reaches asked (.done result))
    (begun : ∀ given, ⟨.traceBegin zone, given⟩ ∈ asked → given = true) :
    Leaves dns folder (folder.serveAll asked) zone (sessions id zone asked) := by
  cases named : dns.parse? zone with
  | none =>
    unfold attempt at ended
    rw [named] at ended
    obtain ⟨rfl, _⟩ := reaches_done ended
    exact rfl
  | some name =>
    rw [attempt_eq dns settings id address named] at ended
    obtain ⟨given, later, rfl, onward⟩ := ended_request ended
    cases given with
    | error e =>
      obtain ⟨rfl, _⟩ := reaches_done onward
      exact rfl
    | ok stream =>
      obtain ⟨traced, others, rfl, accounting⟩ := ended_request onward
      cases begun traced (by simp)
      have silent := (reaches_observes (fun _ _ => trivial) (account_observes dns _ true) accounting).1
      have alone : sessions id zone others = [] :=
        sessions_withoutContact fun exchange member => silent exchange member exchange.2
      have one : sessions id zone (⟨.zoneFrom ⟨address, settings.port⟩ settings.timeout name, .ok stream⟩ ::
          ⟨.traceBegin zone, true⟩ :: others) = [sessionOf settings id zone address stream] :=
        congrArg (sessionOf settings id zone address stream :: ·) alone
      rw [one]
      exact account_leaves (s := sessionOf settings id zone address stream) there short accounting

theorem tries_leave {tries : List Try} (there : folder.isThere = true) (short : TraceFolder.IsShort (traceName zone))
    (attempted : ∀ t ∈ tries, (attempt dns settings id zone t.server).Reaches t.asked (.done t.result))
    (begun : ∀ given, ⟨.traceBegin zone, given⟩ ∈ tries.flatMap (·.asked) → given = true) :
    Leaves dns folder (folder.serveAll (tries.flatMap (·.asked))) zone
      (sessions id zone (tries.flatMap (·.asked))) := by
  induction tries generalizing folder with
  | nil => exact rfl
  | cons t rest ih =>
    rw [List.flatMap_cons] at begun ⊢
    have first := attempt_leaves there short (attempted t List.mem_cons_self)
      fun given member => begun given (List.mem_append_left _ member)
    have others := ih ((TraceFolder.isThere_serveAll t.asked).trans there)
      (fun other member => attempted other (List.mem_cons_of_mem t member))
      fun given member => begun given (List.mem_append_right _ member)
    rw [TraceFolder.serveAll_append]
    unfold sessions at first others ⊢
    rw [List.filterMap_append]
    exact leaves_append first others

/-- A transfer leaves in the folder what its last session does. -/
theorem perform_leaves {arrange : List (List Address) → List (List Address)}
    (arranged : ∀ lists, (arrange lists).Perm lists) {result : Except Error Nat} (there : folder.isThere = true)
    (short : TraceFolder.IsShort (traceName zone))
    (ended : (perform dns settings arrange id zone).Reaches asked (.done result))
    (begun : ∀ given, ⟨.traceBegin zone, given⟩ ∈ asked → given = true) :
    Leaves dns folder (folder.serveAll asked) zone (sessions id zone asked) := by
  rcases perform_ended arranged ended with ⟨e, rfl, _⟩ | ⟨names, found, tries, through⟩
  · exact rfl
  · have course := through.course
    subst course
    have plain : ∀ exchange ∈ lookUps names found, IsUntraced exchange.1 ∧ contact? exchange = none := by
      intro exchange member
      obtain ⟨name, given, rfl⟩ := lookUps_addresses names found exchange member
      exact ⟨trivial, rfl⟩
    have unchanged : folder.serveAll (lookUps names found) = folder :=
      TraceFolder.serveAll_untraced fun exchange member => (plain exchange member).1
    have silent : sessions id zone (lookUps names found) = [] :=
      sessions_withoutContact fun exchange member => (plain exchange member).2
    have tried := tries_leave there short through.tried.attempted fun given member =>
      begun given (List.mem_cons_of_mem _ (List.mem_append_right _ member))
    show Leaves dns folder (folder.serveAll (lookUps names found ++ tries.flatMap (·.asked))) zone
      (sessions id zone (lookUps names found ++ tries.flatMap (·.asked)))
    rw [TraceFolder.serveAll_append, unchanged]
    unfold sessions at silent tried ⊢
    rw [List.filterMap_append, silent]
    exact tried

end Leaving

/-- A run of a transfer leaves in the folder what its last session does. -/
theorem run_leaves (dns : Library) (settings : TransferSettings) {arrange : List (List Address) → List (List Address)}
    (arranged : ∀ lists, (arrange lists).Perm lists) (id : UInt16) (zone : String) (w : World)
    (there : w.traces.isThere = true) (short : TraceFolder.IsShort (traceName zone)) :
    let run := w.perform (perform dns settings arrange id zone)
    Leaves dns w.traces run.2.2.traces zone (sessions id zone run.1) := by
  intro run
  have begun := run_begun (perform dns settings arrange id zone) there short
  have ended := reaches_run World.answer (perform dns settings arrange id zone) w
  rw [run_folder]
  exact perform_leaves arranged there short ended begun

/-! ## The main theorem -/

/-- What a transfer makes of the folder, by its sessions. -/
structure LastSessionStays (dns : Library) (before after : TraceFolder) (zone : String) (sessions : List Session) :
    Prop where
  /-- The trace holds the records of the last session, one a line, and there is none if that brought none. -/
  last : ∀ s, sessions.getLast? = some s → after.lines? (traceName zone) = traceOf dns (s.records dns)
  /-- If no server sends anything the folder is left alone. -/
  silent : sessions = [] → after = before
  /-- No other file is changed. -/
  others : ∀ name, name ≠ traceName zone → after.lines? name = before.lines? name
  /-- If there was no trace before, there is one of all records that came if and only if no session before the last
  one has brought any. -/
  complete : before.lines? (traceName zone) = none →
    (after.lines? (traceName zone) = traceOf dns (sessions.flatMap (Session.records dns)) ↔
      ∀ s ∈ sessions.dropLast, s.records dns = [])

private theorem traceOf_append {dns : Library} {early late : List Record} :
    traceOf dns late = traceOf dns (early ++ late) ↔ early = [] := by
  have lines : ∀ records, (traceOf dns records).getD [] = records.map dns.recordText := by
    intro records
    unfold traceOf
    split
    · rename_i none
      rw [none]
      rfl
    · rfl
  constructor
  · intro same
    have sizes := congrArg (fun trace => (trace.getD []).length) same
    simp only [lines, List.length_map, List.length_append] at sizes
    exact List.length_eq_zero_iff.mp (by omega)
  · rintro rfl
    rfl

theorem Leaves.stays {dns : Library} {before after : TraceFolder} {zone : String} {sessions : List Session}
    (left : Leaves dns before after zone sessions) : LastSessionStays dns before after zone sessions := by
  unfold Leaves at left
  cases last : sessions.getLast? with
  | none =>
    rw [last] at left
    subst left
    have none : sessions = [] := List.getLast?_eq_none_iff.mp last
    subst none
    refine ⟨fun _ other => ?_, fun _ => rfl, fun _ _ => rfl, fun clean => ?_⟩
    · cases other
    · simp [clean, traceOf]
  | some s =>
    rw [last] at left
    obtain ⟨early, rfl⟩ := List.getLast?_eq_some_iff.mp last
    refine ⟨fun other same => ?_, fun none => by simp at none, left.others, fun _ => ?_⟩
    · cases last.symm.trans same
      exact left.own
    · rw [left.own, List.flatMap_append, List.flatMap_singleton, traceOf_append, List.dropLast_concat,
        List.flatMap_eq_nil_iff]

/-- **A trace is of the last session.** However messages are read and records are shown, whatever the name system
answers and whatever the servers of a zone do, with a folder that is there and a name that a file may have: of all
servers that sent something, the last one settles what the trace holds after `perform`, whether that ends well or not.
So what was received before is missing, and so is the trace, if the last server sent no record. -/
theorem a_trace_is_of_the_last_session (dns : Library) (settings : TransferSettings)
    {arrange : List (List Address) → List (List Address)} (arranged : ∀ lists, (arrange lists).Perm lists)
    (id : UInt16) (zone : String) (w : World) (there : w.traces.isThere = true)
    (short : TraceFolder.IsShort (traceName zone)) :
    let run := w.perform (perform dns settings arrange id zone)
    LastSessionStays dns w.traces run.2.2.traces zone (sessions id zone run.1) :=
  (run_leaves dns settings arranged id zone w there short).stays

/-- A try of one server has a session if the server sends something. -/
theorem attempt_sessions (dns : Library) (settings : TransferSettings) (id : UInt16) (address : Address)
    {zone : String} {name : Name} (named : dns.parse? zone = some name) {w : World} {stream : Stream}
    (sent : (w.servers ⟨address, settings.port⟩).connect ⟨address, settings.port⟩ settings.timeout =
      .ok stream) :
    sessions id zone (w.perform (attempt dns settings id zone address)).1 =
      [sessionOf settings id zone address stream] := by
  let session := sessionOf settings id zone address stream
  let begun := w.traces.create (traceName zone)
  have asked : World.answer (.zoneFrom ⟨address, settings.port⟩ settings.timeout name) w = (.ok stream, w) :=
    congrArg (·, w) sent
  have ended := reaches_run World.answer (account dns session begun.1) { w with traces := begun.2 }
  have silent := (reaches_observes (fun _ _ => trivial) (account_observes dns session begun.1) ended).1
  have alone : sessions id zone ((account dns session begun.1).run World.answer { w with traces := begun.2 }).1 = [] :=
    sessions_withoutContact fun exchange member => silent exchange member exchange.2
  rw [attempt_eq dns settings id address named]
  unfold World.perform wholeAttempt
  rw [run_request, asked]
  exact congrArg (session :: ·) alone

/-- After a try that failed the next server is tried. -/
theorem tryServers_failed {dns : Library} {settings : TransferSettings} {id : UInt16} {zone : String} {count : Nat}
    {failure : String} {server : Address} {rest : List Address} {w between : World} {e : Error}
    (told : (w.perform (attempt dns settings id zone server)).2 = (.error e, between)) :
    w.perform (tryServers dns settings id zone count failure (server :: rest)) =
      let later := between.perform (tryServers dns settings id zone count e.message rest)
      ((w.perform (attempt dns settings id zone server)).1 ++ later.1, later.2) := by
  unfold World.perform at told ⊢
  rw [tryServers, run_bind]
  dsimp only
  rw [told]

private def firstServer : Address := .ofOctets [198, 51, 100, 1]

private def secondServer : Address := .ofOctets [198, 51, 100, 2]

/-- A record, and nothing behind it. -/
private def stalled : Stream := ⟨[soleAnswer], .hangs⟩

/-- A zone with two servers. The first one stops behind a record, and the second one closes at once. -/
private def stallingWorld : World where
  names := []
  addresses := []
  store := .empty
  cache := .empty
  directory := { Directory.empty with
    nameservers := fun _ => .ok ["a"]
    addresses := fun _ => .ok [firstServer, secondServer] }
  servers := fun server => .listening (if server.address = firstServer then stalled else ⟨[], .closes⟩)
  traces := .files []
  now := ⟨0, 0⟩

private theorem stalled_session :
    let session := sessionOf .standard 7 "." firstServer stalled
    session.records .standard = [soleRecord] ∧ ∃ e, session.outcome .standard = .error e := by
  intro session
  have message : receive Message.decode? stalled =
      .message ⟨7, true, 0, .noError, [], [soleRecord], [], []⟩ ⟨[[]], .hangs⟩ := by cbv
  have silence : receive Message.decode? ⟨[[]], .hangs⟩ = .silence := by cbv
  have last : receiveAll Message.decode? ⟨[[]], .hangs⟩ = ([], .silence) := by rw [receiveAll, silence]
  have messages : receiveAll Message.decode? stalled =
      ([⟨7, true, 0, .noError, [], [soleRecord], [], []⟩], .silence) := by
    rw [receiveAll_message message, last]
  refine ⟨?_, ?_⟩
  · show ((session.accepted (receiveAll Message.decode? stalled).1).flatMap (·.answers)) = _
    rw [messages]
    cbv
  · have failed : (session.failure .standard).isSome := by
      show (session.failure? .standard (receiveAll Message.decode? stalled).1
        (receiveAll Message.decode? stalled).2).isSome
      rw [messages]
      cbv
    obtain ⟨e, failed⟩ := Option.isSome_iff_exists.mp failed
    exact ⟨e, by rw [Session.outcome, failed]⟩

private theorem closed_session :
    let session := sessionOf .standard 7 "." secondServer ⟨[], .closes⟩
    session.records .standard = [] ∧ ∃ e, session.outcome .standard = .error e := by
  intro session
  have ended : receive Message.decode? ⟨[], .closes⟩ = .ended := by cbv
  have records : session.records .standard = [] := by
    show List.flatMap _ (Session.accepted _ (receiveAll Message.decode? ⟨[], .closes⟩).1) = []
    rw [receiveAll, ended]
    cbv
  refine ⟨records, ?_⟩
  cases told : session.outcome .standard with
  | ok count =>
    obtain ⟨_, rfl, some_⟩ := Session.outcome_eq_ok_iff.mp told
    rw [records] at some_
    cases some_
  | error e => exact ⟨e, rfl⟩

/-- The first server leaves a world with the host, and the second one is tried in that world. -/
private theorem stalling_run :
    let run := stallingWorld.perform (perform .standard .standard (fun found => found) 7 ".")
    sessions 7 "." run.1 = [sessionOf .standard 7 "." firstServer stalled,
        sessionOf .standard 7 "." secondServer ⟨[], .closes⟩] ∧
      run.2.2.store.hosts = [⟨some 1, .ofOctets [198, 51, 100, 80], ".", .address, ⟨0, 0⟩⟩] := by
  have named : Library.standard.parse? "." = some .root := rfl
  obtain ⟨records, e, failed⟩ := stalled_session
  obtain ⟨nothing, f, alsoFailed⟩ := closed_session
  have sent : (stallingWorld.servers ⟨firstServer, 53⟩).connect ⟨firstServer, 53⟩ (.ofMillis 30000) =
      .ok stalled := rfl
  have first := attempt_sessions .standard .standard 7 firstServer named sent
  obtain ⟨traces, told⟩ := attempt_in_world .standard .standard 7 firstServer named sent
  rw [records, failed] at told
  let between := { (stallingWorld.perform ([soleRecord].forM (ingest .standard))).2.2 with traces := traces }
  have hosts : between.store.hosts = [⟨some 1, .ofOctets [198, 51, 100, 80], ".", .address, ⟨0, 0⟩⟩] := by cbv
  have alsoSent : (between.servers ⟨secondServer, 53⟩).connect ⟨secondServer, 53⟩ (.ofMillis 30000) =
      .ok ⟨[], .closes⟩ := by cbv
  have second := attempt_sessions .standard .standard 7 secondServer named alsoSent
  obtain ⟨left, alsoTold⟩ := attempt_in_world .standard .standard 7 secondServer named alsoSent
  rw [nothing, alsoFailed] at alsoTold
  have course : stallingWorld.perform (perform .standard .standard (fun found => found) 7 ".") =
      let tried := stallingWorld.perform (tryServers .standard .standard 7 "." 2 "" [firstServer, secondServer])
      (⟨.nameservers ".", .ok ["a"]⟩ :: ⟨.addresses "a", .ok [firstServer, secondServer]⟩ :: tried.1,
        tried.2) := rfl
  rw [course, tryServers_failed told, tryServers_failed alsoTold]
  refine ⟨?_, hosts⟩
  show sessions 7 "." (_ ++ (_ ++ [])) = _
  unfold sessions at first second ⊢
  rw [List.append_nil, List.filterMap_append, first, second]
  rfl

private theorem root_isShort : TraceFolder.IsShort (traceName ".") := by
  unfold TraceFolder.IsShort
  decide

theorem the_second_server_closes_at_once :
    stallingWorld.traces.isThere = true ∧ TraceFolder.IsShort (traceName ".") ∧
      let run := stallingWorld.perform (perform .standard .standard (fun found => found) 7 ".")
      LastSessionStays .standard stallingWorld.traces run.2.2.traces "." (sessions 7 "." run.1) := by
  refine ⟨rfl, root_isShort, ?_⟩
  exact a_trace_is_of_the_last_session .standard .standard (fun lists => .refl lists) 7 "." stallingWorld rfl
    root_isShort

/-- So a record was received and its host is kept, but there is no trace. -/
theorem a_later_server_removes_the_trace :
    let run := stallingWorld.perform (perform .standard .standard (fun found => found) 7 ".")
    stallingWorld.traces.isThere = true ∧ TraceFolder.IsShort (traceName ".") ∧
      stallingWorld.traces.lines? (traceName ".") = none ∧
      (sessions 7 "." run.1).flatMap (Session.records .standard) = [soleRecord] ∧
      run.2.2.store.hosts = [⟨some 1, .ofOctets [198, 51, 100, 80], ".", .address, ⟨0, 0⟩⟩] ∧
      run.2.2.traces.lines? (traceName ".") = none := by
  intro run
  have both : sessions 7 "." run.1 = [sessionOf .standard 7 "." firstServer stalled,
      sessionOf .standard 7 "." secondServer ⟨[], .closes⟩] := stalling_run.1
  have left : Leaves .standard stallingWorld.traces run.2.2.traces "." (sessions 7 "." run.1) :=
    run_leaves .standard .standard (fun lists => .refl lists) 7 "." stallingWorld rfl root_isShort
  rw [both] at left
  refine ⟨rfl, root_isShort, rfl, ?_, stalling_run.2, ?_⟩
  · rw [both, List.flatMap_cons, List.flatMap_singleton, stalled_session.1, closed_session.1]
    rfl
  · have last : run.2.2.traces.lines? (traceName ".") =
        traceOf .standard ((sessionOf .standard 7 "." secondServer ⟨[], .closes⟩).records .standard) := left.own
    rw [closed_session.1] at last
    exact last

end Transfer
end HostSurvey
