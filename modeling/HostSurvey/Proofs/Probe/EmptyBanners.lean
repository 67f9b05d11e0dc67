import HostSurvey.Probe.Prober
import HostSurvey.Proofs.Probe.Banners
import HostSurvey.Proofs.Probe.Device
import HostSurvey.Proofs.Probe.Exchange
import HostSurvey.Proofs.Probe.Greetings
/-!
# Empty banners

A service can answer without saying anything, and then there should be no banner. Each probe leaves something else out
of an answer, and not all of them look at what is left.

1. What the first read of a finger server brings is never empty (`Finger.grab_full`), and a terminal server without
   any visible text has no banner (`Telnet.grab_full`).
2. A greeting of nothing but line ends, a version of nothing but quotes and a description without a byte leave an
   empty banner (`Plain.grab_eq_empty`, `Version.grab_eq_empty`, `Snmp.grab_eq_empty`).
3. So these answers (`SaysNothing`) are exactly those that are kept as an empty banner
   (`an_empty_answer_is_an_empty_banner`).
-/
namespace HostSurvey.Probe

open HostSurvey.Net HostSurvey.Scan HostSurvey.Settings HostSurvey.Text

/-! ## Probes that leave empty banners out -/

/-- A probe over a stream that ends without an error has found a peer that listens. -/
theorem overStream_eq_ok {target : Endpoint} {time : Elapsed} {peer : Peer} {next : Stream → Grab}
    {found : Option String} : (Grab.overStream target time peer next).banner = .ok found ↔
      ∃ stream, peer = .listening stream ∧ (next stream).banner = .ok found := by
  cases peer <;> simp [Grab.overStream, Peer.connect, Grab.failed]

/-- A read that brings something brings at least one byte. -/
theorem readPieces_full {room : Nat} (some_room : 0 < room) {ending : Ending} {pieces : List Bytes} {bytes : Bytes}
    {rest : Stream} (came : Stream.readPieces room ending pieces = .bytes bytes rest) : bytes ≠ [] := by
  induction pieces with
  | nil => cases ending <;> cases came
  | cons piece later ih =>
    cases piece with
    | nil => exact ih came
    | cons b more =>
      simp only [Stream.readPieces, Arrival.bytes.injEq] at came
      rw [← came.1]
      simp [Nat.ne_of_gt some_room]

theorem readSome_full {target : Endpoint} {time : Elapsed} {room : Nat} (some_room : 0 < room) {stream rest : Stream}
    {bytes : Bytes} (read : readSome target time room stream = .ok (bytes, rest)) : bytes ≠ [] := by
  unfold readSome at read
  split at read
  · rename_i came
    cases read
    exact readPieces_full some_room came
  · cases read
  · cases read

theorem Finger.grab_full (target : Endpoint) (connectTime time : Elapsed) (peer : Peer) :
    (Finger.grab target connectTime time peer).banner ≠ .ok (some "") := by
  intro empty
  obtain ⟨stream, rfl, found⟩ := overStream_eq_ok.mp empty
  cases read : readSome target time Finger.room stream with
  | error e => simp [read, Except.map] at found
  | ok answer =>
    have nothing : answer.1 = [] := by simpa [read, Except.map, Utf8.decodeLossy_eq_empty] using found
    exact readSome_full (by decide) read nothing

namespace Telnet

theorem bannerOf_full (text : Bytes) : bannerOf text ≠ some "" := by
  intro empty
  by_cases invisible : ∀ b ∈ text, ¬ IsVisible b
  · rw [bannerOf_eq_none.mpr invisible] at empty
    cases empty
  · obtain ⟨b, there, visible⟩ : ∃ b ∈ text, IsVisible b := by simpa using invisible
    obtain ⟨skipped, first, more, cut, shown⟩ := shown_of_visible there visible
    rw [bannerOf_shown shown, Option.some.injEq] at empty
    exact (isBanner_shown shown).full empty

theorem rounds_full (target : Endpoint) (time : Elapsed) (left : Nat) (n : Negotiator) (bytes : Bytes)
    (stream : Stream) : (rounds target time left n bytes stream).banner ≠ .ok (some "") := by
  induction left generalizing n bytes stream with
  | zero => simp [rounds, Grab.failed]
  | succ left ih =>
    cases fed : n.feed bytes with
    | mk step next =>
      cases step with
      | text reply text =>
        rw [rounds, fed]
        simpa using bannerOf_full text
      | needMore reply =>
        rw [rounds_declined fed, onward]
        split
        · simp [Grab.failed]
        · exact ih _ _ _

theorem grab_full (target : Endpoint) (time : Elapsed) (peer : Peer) :
    (grab target time peer).banner ≠ .ok (some "") := by
  intro empty
  obtain ⟨stream, rfl, found⟩ := overStream_eq_ok.mp empty
  split at found
  · cases found
  · exact rounds_full _ _ _ _ _ _ found

end Telnet

/-! ## Answers that say nothing -/

/-- A service that answers, with nothing in its answer that is kept. `number` is what chance drew for the request. -/
inductive SaysNothing (dns : Dns.Library) (number : UInt32) : ProbeKind → Peer → Prop where
  /-- A first line of nothing but line ends. -/
  | greeting {stream : Stream} (came : Plain.HasLine 4096 stream.all ∨ stream.ending = .closes)
      (sent : stream.all ≠ []) (ends : ∀ b ∈ Plain.firstLine stream.all, b = 13 ∨ b = 10) :
      SaysNothing dns number .plain (.listening stream)
  /-- A version of nothing but quotes. -/
  | version {stream rest : Stream} {m : Dns.Message} (received : Dns.receive dns.decode? stream = .message m rest)
      {answer : Dns.Record} {others : List Dns.Record} (answers : m.answers = answer :: others)
      {pieces : List Bytes} (told : answer.data = some (.text pieces))
      (quotes : ∀ piece ∈ pieces, ∀ b ∈ piece, b = 0x22) : SaysNothing dns number .dns (.listening stream)
  /-- A description without a byte. -/
  | description {datagram : Bytes} {later : List Bytes} {ending : Ending}
      (answers : Snmp.IsAnswer (Snmp.requestId number).toNat [] (datagram.take 4096)) :
      SaysNothing dns number .snmp (.listening ⟨datagram :: later, ending⟩)

/-! ### Greetings -/

variable {dns : Dns.Library}

theorem chomp_line_eq_empty {line : Bytes} :
    chomp (Utf8.decodeLossy line) = "" ↔ ∀ b ∈ line, b = 13 ∨ b = 10 := by
  have ascii : ∀ c, isLineEnd c = true → c.toNat < 0x80 := by
    intro c ends
    have which : c = '\r' ∨ c = '\n' := by simpa [isLineEnd] using ends
    rcases which with rfl | rfl <;> decide
  -- A kind of characters of ASCII is a kind of bytes.
  have byte : ∀ b : UInt8, isLineEnd (Char.ofNat b.toNat) = true ↔ b = 13 ∨ b = 10 := by
    intro b
    have cr := Utf8.ofNat_byte_inj (a := b) (b := 13)
    have lf := Utf8.ofNat_byte_inj (a := b) (b := 10)
    simpa [isLineEnd] using or_congr cr lf
  simp only [chomp_eq_empty, Utf8.forall_decodeLossy ascii, byte]

theorem Plain.grab_eq_empty {target : Endpoint} {time : Elapsed} {peer : Peer} (number : UInt32) :
    (Plain.grab target time peer).banner = .ok (some "") ↔ SaysNothing dns number .plain peer := by
  constructor
  · intro empty
    obtain ⟨stream, rfl, -⟩ := overStream_eq_ok.mp empty
    rw [Plain.grab_eq] at empty
    split_ifs at empty with came nothing
    rw [Except.ok.injEq, Option.some.injEq] at empty
    exact .greeting came nothing (chomp_line_eq_empty.mp empty)
  · rintro ⟨came, sent, ends⟩
    unfold Stream.all at came sent ends
    rw [Plain.grab_eq, if_pos came, if_neg sent, chomp_line_eq_empty.mpr ends]

/-! ### Versions -/

namespace Version

theorem unquoted_eq_empty {text : String} : unquoted text = "" ↔ ∀ c ∈ text.toList, c = '"' := by
  have trimmed : (unquoted text).toList = (text.toList.dropWhile (· = '"')).rdropWhile (· = '"') :=
    String.toList_ofList
  rw [← String.toList_eq_nil_iff, trimmed, List.rdropWhile_eq_nil_iff]
  constructor
  · intro behind
    -- What is left behind the first quotes begins with no quote, so if it is all quotes it is nothing.
    have nothing : text.toList.dropWhile (· = '"') = [] := by
      by_contra full
      have first := List.head_dropWhile_not (fun c : Char => decide (c = '"')) full
      rw [behind _ (List.head_mem full)] at first
      cases first
    simpa [List.dropWhile_eq_nil_iff] using nothing
  · intro all c there
    simpa using all c ((List.dropWhile_sublist _).subset there)

theorem mem_piecesText {pieces : List Bytes} {c : Char} :
    c ∈ (Dns.piecesText pieces).toList ↔ ∃ piece ∈ pieces, c ∈ (Utf8.decodeLossy piece).toList := by
  simp [Dns.piecesText, String.toList_join]

theorem version_eq_empty {pieces : List Bytes} :
    unquoted (Dns.piecesText pieces) = "" ↔ ∀ piece ∈ pieces, ∀ b ∈ piece, b = 0x22 := by
  have byte : ∀ b : UInt8, Char.ofNat b.toNat = '"' ↔ b = 0x22 := fun b => Utf8.ofNat_byte_inj (b := 0x22)
  have piece : ∀ piece : Bytes, (∀ c ∈ (Utf8.decodeLossy piece).toList, c = '"') ↔ ∀ b ∈ piece, b = 0x22 := by
    intro piece
    rw [Utf8.forall_decodeLossy (by rintro c rfl; decide)]
    simp only [byte]
  simp only [unquoted_eq_empty, mem_piecesText, ← piece]
  exact ⟨fun all piece member c there => all c ⟨piece, member, there⟩,
    fun all c ⟨piece, member, there⟩ => all piece member c there⟩

theorem bannerOf_eq_empty {target : Endpoint} {m : Dns.Message} : bannerOf dns target m = .ok (some "") ↔
    ∃ answer others pieces, m.answers = answer :: others ∧ answer.data = some (.text pieces) ∧
      ∀ piece ∈ pieces, ∀ b ∈ piece, b = 0x22 := by
  constructor
  · intro empty
    unfold bannerOf at empty
    split at empty
    · cases empty
    · rename_i answer others answers
      split at empty
      · rename_i pieces told
        rw [Except.ok.injEq, Option.some.injEq] at empty
        exact ⟨answer, others, pieces, answers, told, version_eq_empty.mp empty⟩
      · cases empty
  · rintro ⟨answer, others, pieces, answers, told, quotes⟩
    simp only [bannerOf, answers, told, version_eq_empty.mpr quotes]

theorem grab_eq_empty {target : Endpoint} {time : Elapsed} {number : UInt32} {peer : Peer} :
    (grab dns target time (UInt16.ofNat number.toNat) peer).banner = .ok (some "") ↔
      SaysNothing dns number .dns peer := by
  constructor
  · intro empty
    obtain ⟨stream, rfl, found⟩ := overStream_eq_ok.mp empty
    dsimp only at found
    split at found
    · rename_i received
      obtain ⟨answer, others, pieces, answers, told, quotes⟩ := bannerOf_eq_empty.mp found
      exact .version received answers told quotes
    all_goals cases found
  · rintro (⟨⟩ | ⟨received, answers, told, quotes⟩)
    refine overStream_eq_ok.mpr ⟨_, rfl, ?_⟩
    simp only [received]
    exact bannerOf_eq_empty.mpr ⟨_, _, _, answers, told, quotes⟩

end Version

/-! ### Descriptions -/

theorem Snmp.grab_eq_empty {community : String} {number : UInt32} {peer : Peer} :
    (Snmp.grab community number peer).banner = .ok (some "") ↔ SaysNothing dns number .snmp peer := by
  have answered : ∀ datagram : Bytes,
      Snmp.banner? (datagram.take 4096) (Snmp.requestId number).toNat = some "" ↔
        Snmp.IsAnswer (Snmp.requestId number).toNat [] (datagram.take 4096) := by
    intro datagram
    rw [Snmp.banner?_eq_some]
    constructor
    · rintro ⟨text, answers, empty⟩
      exact Utf8.decodeLossy_eq_empty.mp empty.symm ▸ answers
    · exact fun answers => ⟨[], answers, rfl⟩
  constructor
  · intro empty
    cases peer with
    | listening stream =>
      obtain ⟨pieces, ending⟩ := stream
      cases pieces with
      | nil => cases empty
      | cons datagram later => exact .description ((answered datagram).mp (Except.ok.inj empty))
    | _ => cases empty
  · rintro (_ | _ | ⟨answers⟩)
    exact congrArg Except.ok ((answered _).mpr answers)

/-! ## The main theorem -/

/-- Probes of services that greet, finger servers and name servers have a banner or fail. -/
theorem grab_ne_none {settings : ProbeSettings} {kind : ProbeKind} {target : Endpoint} {number : UInt32} {peer : Peer}
    (always : kind = .plain ∨ kind = .finger ∨ kind = .dns) :
    (grab dns settings kind target number peer).banner ≠ .ok none := by
  intro none
  rcases always with rfl | rfl | rfl
  · obtain ⟨stream, rfl, -⟩ := overStream_eq_ok.mp none
    rw [grab, Plain.grab_eq] at none
    split_ifs at none
    cases none
  · obtain ⟨stream, rfl, found⟩ := overStream_eq_ok.mp none
    cases read : readSome target settings.fingerTimeout Finger.room stream <;> simp [read, Except.map] at found
  · obtain ⟨stream, rfl, found⟩ := overStream_eq_ok.mp none
    dsimp only [Version.bannerOf] at found
    split at found
    · split at found
      · cases found
      · split at found <;> cases found
    all_goals cases found

theorem grab_eq_empty {settings : ProbeSettings} {kind : ProbeKind} {target : Endpoint} {number : UInt32} {peer : Peer}
    (other : kind ≠ .web) :
    (grab dns settings kind target number peer).banner = .ok (some "") ↔ SaysNothing dns number kind peer := by
  cases kind with
  | plain => exact Plain.grab_eq_empty number
  | finger => exact iff_of_false (Finger.grab_full _ _ _ _) (by rintro ⟨⟩)
  | dns => exact Version.grab_eq_empty
  | web => exact absurd rfl other
  | snmp => exact Snmp.grab_eq_empty
  | telnet => exact iff_of_false (Telnet.grab_full _ _ _) (by rintro ⟨⟩)

theorem scan_banner (dns : Dns.Library) (settings : ProbeSettings) (host : Host) (port : UInt16) (peer : Peer)
    (now : Moment) (text : String) : (scan dns settings host port peer now).banner = some text ↔
      (grab dns settings (probeFor port) ⟨host.address, port⟩ 0 peer).banner = .ok (some text) := by
  unfold scan probe
  cases (grab dns settings (probeFor port) ⟨host.address, port⟩ 0 peer).banner with
  | error e => simp [Except.map, ScanOutcome.failed]
  | ok banner => simp [Except.map, ScanOutcome.answered]

/-- What the probes make of answers, all but the one for web servers. -/
structure KeepsEmptyAnswers (dns : Dns.Library) (settings : ProbeSettings) (target : Endpoint) (number : UInt32)
    (peer : Peer) : Prop where
  /-- A banner is empty if and only if the answer says nothing. -/
  empty : ∀ kind, kind ≠ .web → ((grab dns settings kind target number peer).banner = .ok (some "") ↔
    SaysNothing dns number kind peer)
  /-- In any other case there is an error, no banner, or one that is not empty. -/
  otherwise : ∀ kind, kind ≠ .web → ¬ SaysNothing dns number kind peer →
    (∃ e, (grab dns settings kind target number peer).banner = .error e) ∨
    (grab dns settings kind target number peer).banner = .ok none ∨
    ∃ text, text ≠ "" ∧ (grab dns settings kind target number peer).banner = .ok (some text)
  /-- So it always is with finger servers and terminal servers. -/
  full : ∀ kind, kind = .finger ∨ kind = .telnet → (grab dns settings kind target number peer).banner ≠ .ok (some "")
  /-- Only the probes of devices and of terminal servers ever leave a banner out. -/
  none : ∀ kind, kind ≠ .web → (grab dns settings kind target number peer).banner = .ok none →
    kind = .snmp ∨ kind = .telnet
  /-- An empty banner is kept with the outcome of a try, as any other one. -/
  kept : ∀ host port now, probeFor port ≠ .web →
    ((scan dns settings host port peer now).banner = some "" ↔ SaysNothing dns 0 (probeFor port) peer)

/-- **An empty answer is an empty banner.** Whatever a service does, its banner is empty just if it answers with
nothing that is kept: a greeting of nothing but line ends, a version of nothing but quotes, or a description without
a byte. Finger servers and terminal servers never have an empty banner. -/
theorem an_empty_answer_is_an_empty_banner (dns : Dns.Library) (settings : ProbeSettings) (target : Endpoint)
    (number : UInt32) (peer : Peer) : KeepsEmptyAnswers dns settings target number peer := by
  constructor
  case empty => exact fun _ other => grab_eq_empty other
  case otherwise =>
    intro kind other speaks
    cases found : (grab dns settings kind target number peer).banner with
    | error e => exact .inl ⟨e, rfl⟩
    | ok banner =>
      cases banner with
      | none => exact .inr (.inl rfl)
      | some text =>
        refine .inr (.inr ⟨text, ?_, rfl⟩)
        rintro rfl
        exact speaks ((grab_eq_empty other).mp found)
  case full =>
    rintro kind (rfl | rfl)
    · exact Finger.grab_full target settings.timeout settings.fingerTimeout peer
    · exact Telnet.grab_full target settings.timeout peer
  case none =>
    intro kind other found
    cases kind with
    | plain | finger | dns => exact absurd found (grab_ne_none (by simp))
    | web => exact absurd rfl other
    | snmp => exact .inl rfl
    | telnet => exact .inr rfl
  case kept =>
    exact fun host port now other => (scan_banner dns settings host port peer now "").trans (grab_eq_empty other)

private def anyServer : Endpoint := ⟨.v4 2130706433, 2525⟩

/-- An answer to the question for the version: one record, of the text without a byte. -/
private def withoutVersion : Bytes :=
  [0, 24, 0, 0, 0x84, 0, 0, 0, 0, 1, 0, 0, 0, 0, 0, 0, 16, 0, 3, 0, 0, 0, 0, 0, 1, 0]

/-- An answer to the request with the number zero. The object that describes a device is bound to the text without a
byte. -/
private def withoutDescription : Bytes :=
  [0x30, 36, 2, 1, 1, 4, 1, 0x70, 0xa2, 28, 2, 4, 0, 0, 0, 0, 2, 1, 0, 2, 1, 0, 0x30, 14,
    0x30, 12, 6, 8, 0x2b, 6, 1, 2, 1, 1, 1, 0, 4, 0]

/-- A line end alone, a version and a description without a byte: each one is a banner, and it is empty. -/
theorem three_answers_without_a_word :
    (grab .standard .standard .plain anyServer 0 (.listening ⟨[[10]], .closes⟩)).banner = .ok (some "") ∧
    (grab .standard .standard .dns anyServer 0 (.listening ⟨[withoutVersion], .closes⟩)).banner = .ok (some "") ∧
    (grab .standard .standard .snmp anyServer 0 (.listening ⟨[withoutDescription], .hangs⟩)).banner =
        .ok (some "") := by
  refine ⟨?_, ?_, ?_⟩
  · cbv
  · cbv
  · have read : Snmp.banner? (withoutDescription.take 4096) 0 = some "" := by cbv
    exact congrArg Except.ok read

end HostSurvey.Probe
