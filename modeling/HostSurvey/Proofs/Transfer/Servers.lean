import HostSurvey.Proofs.Transfer.Attempt
/-!
# Servers in turn

The name servers of a zone are asked for it one after the other until one of them sends it.

1. The servers are the addresses of the names that could be looked up, each once. In which order the look-ups
   ended settles their order and nothing else (`mem_serversOf`).
2. Each try is an attempt of its own. All tries but the last one failed, and if that failed as well there is no
   further server (`Tried`).
3. What is told in the end is what the last try told, or that no server sent the zone.
4. An attempt asks its own server and no other one (`attempt_ended`), so the servers that are asked are those that
   are tried (`tries_contact`).

All this is read off an ended course of `perform`, whatever the answers were.
-/
namespace HostSurvey.Transfer

open Net Dns Settings Activity

/-! ## The servers of a zone -/

/-- The look-ups of names, with what was found. -/
def lookUps (names : List String) (found : List (Except Error (List Address))) : List Exchange :=
  List.zipWith (fun name given => ⟨.addresses name, given⟩) names found

/-- The servers, from what was found. -/
def serversOf (arrange : List (List Address) → List (List Address))
    (found : List (Except Error (List Address))) : List Address :=
  (arrange (found.map (·.toOption.getD []))).flatten.eraseDups

theorem lookUpEach_ended {names : List String} {asked : List Exchange} {addresses : List (List Address)}
    (ended : (lookUpEach names).Reaches asked (.done addresses)) :
    ∃ found, found.length = names.length ∧ asked = lookUps names found ∧
      addresses = found.map (·.toOption.getD []) := by
  induction names generalizing asked addresses with
  | nil =>
    obtain ⟨rfl, same⟩ := reaches_done ended
    cases same
    exact ⟨[], rfl, rfl, rfl⟩
  | cons name rest ih =>
    obtain ⟨given, later, rfl, onward⟩ := ended_request ended
    obtain ⟨before, after, others, rfl, looked, closed⟩ := ended_bind onward
    obtain ⟨found, length, rfl, rfl⟩ := ih looked
    obtain ⟨rfl, same⟩ := reaches_done closed
    cases same
    exact ⟨given :: found, congrArg (· + 1) length, by simp [lookUps], rfl⟩

/-- The list of servers is drawn up from one look-up of each name, unless the names cannot be had. -/
theorem nameserverAddresses_ended {arrange : List (List Address) → List (List Address)} {zone : String}
    {asked : List Exchange} {listed : Except Error (List Address)}
    (ended : (nameserverAddresses arrange zone).Reaches asked (.done listed)) :
    (∃ e, asked = [⟨.nameservers zone, .error e⟩] ∧ listed = .error e) ∨
      ∃ names found, found.length = names.length ∧
        asked = ⟨.nameservers zone, .ok names⟩ :: lookUps names found ∧ listed = .ok (serversOf arrange found) := by
  unfold nameserverAddresses at ended
  obtain ⟨given, later, rfl, onward⟩ := ended_request ended
  cases given with
  | error e =>
    obtain ⟨rfl, same⟩ := reaches_done onward
    cases same
    exact .inl ⟨e, rfl, rfl⟩
  | ok names =>
    obtain ⟨looked, after, addresses, rfl, looking, closed⟩ := ended_bind onward
    obtain ⟨found, lookedUp, rfl, rfl⟩ := lookUpEach_ended looking
    obtain ⟨rfl, same⟩ := reaches_done closed
    cases same
    exact .inr ⟨names, found, lookedUp, by rw [List.append_nil], rfl⟩

private theorem nodup_eraseDups (addresses : List Address) : addresses.eraseDups.Nodup := by
  match addresses with
  | [] => exact List.nodup_nil
  | address :: rest =>
    rw [List.eraseDups_cons, List.nodup_cons]
    refine ⟨?_, nodup_eraseDups _⟩
    intro again
    simpa using (List.mem_filter.mp (List.mem_eraseDups.mp again)).2
termination_by addresses.length
decreasing_by exact Nat.lt_succ_of_le (List.length_filter_le _ _)

section Arranged
variable {arrange : List (List Address) → List (List Address)} {found : List (Except Error (List Address))}

theorem serversOf_nodup : (serversOf arrange found).Nodup := nodup_eraseDups _

/-- The servers are the addresses of the names that could be looked up, in whatever order that happened. -/
theorem mem_serversOf (arranged : ∀ lists, (arrange lists).Perm lists) {address : Address} :
    address ∈ serversOf arrange found ↔ ∃ addresses, .ok addresses ∈ found ∧ address ∈ addresses := by
  unfold serversOf
  rw [List.mem_eraseDups, (arranged _).flatten.mem_iff, List.mem_flatten]
  constructor
  · rintro ⟨_, member, inside⟩
    obtain ⟨given, came, rfl⟩ := List.mem_map.mp member
    cases given with
    | error e => cases inside
    | ok addresses => exact ⟨addresses, came, inside⟩
  · rintro ⟨addresses, came, inside⟩
    exact ⟨addresses, List.mem_map.mpr ⟨_, came, rfl⟩, inside⟩

end Arranged

/-! ## One try after the other -/

/-- What was asked of one server, and how that ended. -/
structure Try where
  server : Address
  asked : List Exchange
  result : Except Error Nat

/-- A try that failed. -/
def Try.Failed (t : Try) : Prop :=
  ∃ e, t.result = .error e

section Tries
variable {dns : Library} {settings : TransferSettings} {id : UInt16} {zone : String}

/-- Servers were tried in turn, and something was told in the end. -/
structure Tried (dns : Library) (settings : TransferSettings) (id : UInt16) (zone : String) (servers : List Address)
    (tries : List Try) (result : Except Error Nat) : Prop where
  /-- Each try is an attempt from its beginning to its end. -/
  attempted : ∀ t ∈ tries, (attempt dns settings id zone t.server).Reaches t.asked (.done t.result)
  /-- The servers are tried in their order, and none is left out. -/
  inOrder : tries.map (·.server) <+: servers
  /-- A try that went well is the last one. -/
  goesOn : ∀ t ∈ tries.dropLast, t.Failed
  /-- It is told what a try told that went well. -/
  succeeds : ∀ count, result = .ok count ↔ ∃ t ∈ tries, t.result = .ok count
  /-- An error says that every server was tried, and every try failed. -/
  fails : (∃ reason, result = .error (.transfer zone reason)) ↔
    tries.map (·.server) = servers ∧ ∀ t ∈ tries, t.Failed
  /-- No other error is told. -/
  blames : ∀ e, result = .error e → ∃ reason, e = .transfer zone reason

theorem tried_nothing {reason : String} : Tried dns settings id zone [] [] (.error (.transfer zone reason)) where
  attempted _ member := nomatch member
  inOrder := List.prefix_refl _
  goesOn _ member := nomatch member
  succeeds count := by simp
  fails := ⟨fun _ => ⟨rfl, fun _ member => nomatch member⟩, fun _ => ⟨reason, rfl⟩⟩
  blames e told := ⟨reason, by cases told; rfl⟩

section Server
variable {server : Address} {rest : List Address} {asked : List Exchange}

/-- A server sends the zone. -/
theorem tried_well {count : Nat} (ended : (attempt dns settings id zone server).Reaches asked (.done (.ok count))) :
    Tried dns settings id zone (server :: rest) [⟨server, asked, .ok count⟩] (.ok count) where
  attempted t member := by
    cases List.mem_singleton.mp member
    exact ended
  inOrder := ⟨rest, rfl⟩
  goesOn _ member := nomatch member
  succeeds other := by simp
  fails := by simp [Try.Failed]
  blames e told := nomatch told

/-- A server does not send the zone, and the others are tried. -/
theorem tried_in_vain {e : Error} {tries : List Try} {result : Except Error Nat}
    (ended : (attempt dns settings id zone server).Reaches asked (.done (.error e)))
    (others : Tried dns settings id zone rest tries result) :
    Tried dns settings id zone (server :: rest) (⟨server, asked, .error e⟩ :: tries) result where
  attempted t member := by
    rcases List.mem_cons.mp member with rfl | later
    · exact ended
    · exact others.attempted t later
  inOrder := (List.prefix_cons_inj server).mpr others.inOrder
  goesOn t member := by
    cases tries with
    | nil => cases member
    | cons next more =>
      rcases List.mem_cons.mp member with rfl | later
      · exact ⟨e, rfl⟩
      · exact others.goesOn t later
  succeeds count := by simp [others.succeeds]
  fails := by simp [others.fails, Try.Failed]
  blames := others.blames

end Server

theorem tryServers_ended {count : Nat} {failure : String} {servers : List Address} {asked : List Exchange}
    {result : Except Error Nat}
    (ended : (tryServers dns settings id zone count failure servers).Reaches asked (.done result)) :
    ∃ tries, asked = tries.flatMap (·.asked) ∧ Tried dns settings id zone servers tries result := by
  induction servers generalizing failure asked with
  | nil =>
    obtain ⟨rfl, same⟩ := reaches_done ended
    cases same
    exact ⟨[], rfl, tried_nothing⟩
  | cons server rest ih =>
    obtain ⟨before, after, told, rfl, attempted, onward⟩ := ended_bind ended
    cases told with
    | ok received =>
      obtain ⟨rfl, same⟩ := reaches_done onward
      cases same
      exact ⟨[⟨server, before, .ok received⟩], by simp, tried_well attempted⟩
    | error e =>
      obtain ⟨tries, rfl, others⟩ := ih onward
      exact ⟨⟨server, before, .error e⟩ :: tries, by simp, tried_in_vain attempted others⟩

end Tries

/-! ## Servers that are asked -/

/-- The server that is asked for a zone, if one is. -/
def contact? : Exchange → Option Endpoint
  | ⟨.zoneFrom server _ _, _⟩ => some server
  | _ => none

/-- The terms that permit everything but that. Nothing is relied upon. -/
def withoutContact : Terms :=
  ⟨fun r => ∀ given, contact? ⟨r, given⟩ = none, fun _ _ => True⟩

theorem forM_observes {terms : Terms} {step : Record → Activity Unit} {records : List Record}
    (each : ∀ r ∈ records, (step r).Observes terms fun _ => True) :
    (records.forM step).Observes terms fun _ => True := by
  induction records with
  | nil => exact observes_pure trivial
  | cons r rest ih =>
    apply observes_bind (each r List.mem_cons_self)
    exact fun _ _ => ih fun other member => each other (List.mem_cons_of_mem r member)

theorem ingest_withoutContact (dns : Library) (r : Record) : (ingest dns r).Observes withoutContact fun _ => True :=
  ingest_observes dns ⟨fun r ofRecords => by cases r <;> first | exact ofRecords.elim | exact fun _ => rfl,
    fun _ _ _ _ => rfl⟩ r

/-- While a zone is being sent no server is asked, and the session settles what is told. -/
theorem account_observes (dns : Library) (s : Session) (traced : Bool) :
    (account dns s traced).Observes withoutContact fun told => told = s.outcome dns := by
  have taken : ((s.records dns).forM (takeIn dns traced s.zone)).Observes withoutContact fun _ => True := by
    refine forM_observes fun r _ => ?_
    cases traced with
    | true => exact observes_ask (fun _ => rfl) fun _ _ => ingest_withoutContact dns r
    | false => exact ingest_withoutContact dns r
  apply observes_bind taken
  intro _ _
  split
  · exact observes_ask (fun _ => rfl) fun _ _ => observes_pure rfl
  · exact observes_pure rfl

/-- An attempt asks its own server and no other one. What it tells is told by what that server sends. -/
theorem attempt_ended {dns : Library} {settings : TransferSettings} {id : UInt16} {zone : String} {name : Name}
    {address : Address} {asked : List Exchange} {result : Except Error Nat} (named : dns.parse? zone = some name)
    (ended : (attempt dns settings id zone address).Reaches asked (.done result)) :
    ∃ given later, asked = ⟨.zoneFrom ⟨address, settings.port⟩ settings.timeout name, given⟩ :: later ∧
      later.filterMap contact? = [] ∧
      result = given.bind fun stream => (sessionOf settings id zone address stream).outcome dns := by
  rw [attempt_eq dns settings id address named] at ended
  obtain ⟨given, later, rfl, onward⟩ := ended_request ended
  refine ⟨given, later, rfl, ?_⟩
  cases given with
  | error e =>
    obtain ⟨rfl, same⟩ := reaches_done onward
    cases same
    exact ⟨rfl, rfl⟩
  | ok stream =>
    obtain ⟨traced, others, rfl, accounting⟩ := ended_request onward
    obtain ⟨silent, told⟩ := reaches_observes (fun _ _ => trivial) (account_observes dns _ traced) accounting
    refine ⟨?_, told⟩
    rw [List.filterMap_cons_none rfl, List.filterMap_eq_nil_iff]
    exact fun exchange member => silent exchange member exchange.2

/-- Looking up names asks for addresses and for nothing else. -/
theorem lookUps_addresses (names : List String) (found : List (Except Error (List Address))) :
    ∀ exchange ∈ lookUps names found, ∃ name given, exchange = ⟨.addresses name, given⟩ := by
  induction names generalizing found with
  | nil => exact fun _ member => nomatch member
  | cons name rest ih =>
    cases found with
    | nil => exact fun _ member => nomatch member
    | cons given more =>
      intro exchange member
      rcases List.mem_cons.mp member with rfl | later
      · exact ⟨name, given, rfl⟩
      · exact ih more exchange later

theorem lookUps_contact (names : List String) (found : List (Except Error (List Address))) :
    (lookUps names found).filterMap contact? = [] := by
  refine List.filterMap_eq_nil_iff.mpr fun exchange member => ?_
  obtain ⟨name, given, rfl⟩ := lookUps_addresses names found exchange member
  rfl

/-! ## From the first server to the last -/

/-- What a transfer comes to once the names of the servers are known. -/
structure FallsThrough (dns : Library) (settings : TransferSettings)
    (arrange : List (List Address) → List (List Address)) (id : UInt16) (zone : String) (names : List String)
    (found : List (Except Error (List Address))) (tries : List Try) (asked : List Exchange)
    (result : Except Error Nat) : Prop where
  /-- Every name is looked up, whatever comes of the others. -/
  lookedUp : found.length = names.length
  /-- Servers are tried behind the look-ups, and nothing is asked besides. -/
  course : asked = ⟨.nameservers zone, .ok names⟩ :: (lookUps names found ++ tries.flatMap (·.asked))
  /-- No server is on the list twice. -/
  distinct : (serversOf arrange found).Nodup
  /-- The list holds the addresses of the names that could be looked up. -/
  complete : ∀ address, address ∈ serversOf arrange found ↔
    ∃ addresses, .ok addresses ∈ found ∧ address ∈ addresses
  /-- Servers are tried in the order of the list until one sends the zone. -/
  tried : Tried dns settings id zone (serversOf arrange found) tries result
  /-- No server is tried twice. -/
  once : (tries.map (·.server)).Nodup
  /-- The servers that are asked are those that are tried, in this order. -/
  contacts : ∀ name, dns.parse? zone = some name →
    asked.filterMap contact? = tries.map fun t => ⟨t.server, settings.port⟩
  /-- What a try tells is told by what its server sends. -/
  told : ∀ name, dns.parse? zone = some name → ∀ t ∈ tries, ∃ given later,
    t.asked = ⟨.zoneFrom ⟨t.server, settings.port⟩ settings.timeout name, given⟩ :: later ∧
      t.result = given.bind fun stream => (sessionOf settings id zone t.server stream).outcome dns

section
variable {dns : Library} {settings : TransferSettings} {arrange : List (List Address) → List (List Address)}
  {id : UInt16} {zone : String} {asked : List Exchange} {result : Except Error Nat}

theorem tries_contact {name : Name} (named : dns.parse? zone = some name) {tries : List Try}
    (attempted : ∀ t ∈ tries, (attempt dns settings id zone t.server).Reaches t.asked (.done t.result)) :
    (tries.flatMap (·.asked)).filterMap contact? = tries.map fun t => ⟨t.server, settings.port⟩ := by
  induction tries with
  | nil => rfl
  | cons t rest ih =>
    obtain ⟨given, later, first, silent, _⟩ := attempt_ended named (attempted t List.mem_cons_self)
    have others := ih fun other member => attempted other (List.mem_cons_of_mem t member)
    rw [List.flatMap_cons, List.filterMap_append, others, first, List.filterMap_cons_some (f := contact?) rfl, silent]
    rfl

theorem falls_through (arranged : ∀ lists, (arrange lists).Perm lists) {names : List String}
    {found : List (Except Error (List Address))} {tries : List Try} (lookedUp : found.length = names.length)
    (tried : Tried dns settings id zone (serversOf arrange found) tries result) :
    FallsThrough dns settings arrange id zone names found tries
      (⟨.nameservers zone, .ok names⟩ :: (lookUps names found ++ tries.flatMap (·.asked))) result where
  lookedUp := lookedUp
  course := rfl
  distinct := serversOf_nodup
  complete _ := mem_serversOf arranged
  tried := tried
  once := tried.inOrder.sublist.nodup serversOf_nodup
  contacts name named := by
    rw [List.filterMap_cons_none rfl, List.filterMap_append, lookUps_contact, tries_contact named tried.attempted]
    rfl
  told name named t member := by
    obtain ⟨given, later, first, _, told⟩ := attempt_ended named (tried.attempted t member)
    exact ⟨given, later, first, told⟩

theorem perform_ended (arranged : ∀ lists, (arrange lists).Perm lists)
    (ended : (perform dns settings arrange id zone).Reaches asked (.done result)) :
    (∃ e, asked = [⟨.nameservers zone, .error e⟩] ∧ result = .error e) ∨
      ∃ names found tries, FallsThrough dns settings arrange id zone names found tries asked result := by
  unfold perform at ended
  obtain ⟨before, after, listed, rfl, listing, onward⟩ := ended_bind ended
  rcases nameserverAddresses_ended listing with ⟨e, rfl, rfl⟩ | ⟨names, found, lookedUp, rfl, rfl⟩
  · obtain ⟨rfl, same⟩ := reaches_done onward
    cases same
    exact .inl ⟨e, rfl, rfl⟩
  · refine .inr ⟨names, found, ?_⟩
    have tried : ∃ tries, after = tries.flatMap (·.asked) ∧
        Tried dns settings id zone (serversOf arrange found) tries result := by
      -- Without servers nothing is tried, and the error is another one.
      cases list : serversOf arrange found with
      | nil =>
        rw [list] at onward
        obtain ⟨rfl, same⟩ := reaches_done onward
        cases same
        exact ⟨[], rfl, tried_nothing⟩
      | cons server rest =>
        rw [list] at onward
        exact tryServers_ended onward
    obtain ⟨tries, rfl, tried⟩ := tried
    exact ⟨tries, falls_through arranged lookedUp tried⟩

end

/-- **Servers are tried until one sends the zone.** Whatever the name system answers, in whatever order the
look-ups end and whatever the servers do: the list of servers holds the addresses of the names that could be looked
up, each once. They are asked in the order of the list, up to the first one that sends the zone. If one does, the
number of its records is told, and an error of the transfer otherwise. If the names of the servers cannot be had, that
error is told. -/
theorem servers_are_tried_until_one_sends (dns : Library) (settings : TransferSettings)
    {arrange : List (List Address) → List (List Address)} (arranged : ∀ lists, (arrange lists).Perm lists)
    (id : UInt16) (zone : String) {σ : Type} (answer : (r : Request) → σ → r.Answer × σ) (s : σ) :
    let run := (perform dns settings arrange id zone).run answer s
    (∃ e, run.1 = [⟨.nameservers zone, .error e⟩] ∧ run.2.1 = .error e) ∨
      ∃ names found tries, FallsThrough dns settings arrange id zone names found tries run.1 run.2.1 :=
  perform_ended arranged (reaches_run answer _ s)

private def serverAt (number : Nat) : Address := .ofOctets [198, 51, 100, number]

private def sentStream : Stream := ⟨[soleAnswer], .closes⟩

private def servedWorld : World where
  names := []
  addresses := []
  store := .empty
  cache := .empty
  directory := { Directory.empty with
    nameservers := fun _ => .ok ["a", "b", "c"]
    addresses := fun name =>
      if name = "a" then .ok [serverAt 1, serverAt 2]
      else if name = "c" then .ok [serverAt 2, serverAt 3]
      else .error .malformed }
  servers := fun server => if server.address = serverAt 1 then .listening sentStream else .refusing
  traces := .off
  now := ⟨0, 0⟩

private theorem sentStream_outcome : (sessionOf .standard 7 "." (serverAt 1) sentStream).outcome .standard = .ok 1 := by
  have message : receive Message.decode? sentStream =
      .message ⟨7, true, 0, .noError, [], [soleRecord], [], []⟩ ⟨[[]], .closes⟩ := by cbv
  have ended : receive Message.decode? ⟨[[]], .closes⟩ = .ended := by cbv
  have last : receiveAll Message.decode? ⟨[[]], .closes⟩ = ([], .ended) := by rw [receiveAll, ended]
  have messages : receiveAll Message.decode? sentStream =
      ([⟨7, true, 0, .noError, [], [soleRecord], [], []⟩], .ended) := by
    rw [receiveAll_message message, last]
  refine Session.outcome_eq_ok_iff.mpr ⟨?_, ?_, Nat.one_pos⟩
  · show Session.failure? .standard _ (receiveAll Message.decode? sentStream).1
      (receiveAll Message.decode? sentStream).2 = none
    rw [messages]
    cbv
  · show 1 = (List.flatMap _ (Session.accepted _ (receiveAll Message.decode? sentStream).1)).length
    rw [messages]
    cbv

/-- Two names have addresses, one of them in common, and the look-up of a third one fails. The look-ups end in
the reverse order. Two servers refuse, and the last one sends a record. -/
theorem the_third_server_sends_the_zone :
    (∀ lists : List (List Address), lists.reverse.Perm lists) ∧
      (let run := servedWorld.perform (perform .standard .standard List.reverse 7 ".")
        ∃ names found tries,
          FallsThrough .standard .standard List.reverse 7 "." names found tries run.1 run.2.1) ∧
      serversOf List.reverse [.ok [serverAt 1, serverAt 2], .error .malformed, .ok [serverAt 2, serverAt 3]] =
        [serverAt 2, serverAt 3, serverAt 1] ∧
      (servedWorld.perform (perform .standard .standard List.reverse 7 ".")).2.1 = .ok 1 := by
  have sent : ((attempt .standard .standard 7 "." (serverAt 1)).run World.answer servedWorld).2.1 = .ok 1 := by
    have named : Library.standard.parse? "." = some .root := rfl
    have served : (servedWorld.servers ⟨serverAt 1, 53⟩).connect ⟨serverAt 1, 53⟩ (.ofMillis 30000) =
        .ok sentStream := rfl
    obtain ⟨traces, performed⟩ := attempt_in_world .standard .standard 7 (serverAt 1) named served
    rw [← sentStream_outcome]
    exact congrArg Prod.fst performed
  have last : (servedWorld.perform (perform .standard .standard List.reverse 7 ".")).2.1 =
      ((tryServers .standard .standard 7 "." 3 (Error.stream .refused).message [serverAt 1]).run World.answer
        servedWorld).2.1 := rfl
  have told : (servedWorld.perform (perform .standard .standard List.reverse 7 ".")).2.1 = .ok 1 := by
    rw [last, tryServers, run_bind]
    dsimp only
    rw [sent]
    rfl
  refine ⟨List.reverse_perm, ?_, rfl, told⟩
  have falls := servers_are_tried_until_one_sends .standard .standard List.reverse_perm 7 "." World.answer servedWorld
  rcases falls with ⟨e, _, failed⟩ | through
  · cases failed.symm.trans told
  · exact through

end HostSurvey.Transfer
