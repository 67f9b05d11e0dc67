import HostSurvey.Probe.Plain
import HostSurvey.Proofs.Text.Decoding
/-!
# Greetings

A service that greets is listened to until it has sent a line, or as much as a line may have, or until it ends.

1. A piece holds the end of the line (`readLine_fed`), fills the room for it (`readLine_full`), or is a part of it
   (`readLine_part`). So what is read of a line depends on all bytes and not on the pieces (`readLine_eq`).
2. So does what comes of it: the first line, or an error that tells how the stream ends (`grab_eq`,
   `a_greeting_is_the_first_line`).
-/
namespace HostSurvey.Probe.Plain

open HostSurvey.Net HostSurvey.Text

/-! ## Lines -/

/-- The bytes up to the first line feed and this one, or all if there is none. -/
def upToFeed (bytes : Bytes) : Bytes := bytes.take (bytes.idxOf lineFeed + 1)

/-- A line has come to its end, or has filled the room for it. -/
def HasLine (room : Nat) (sent : Bytes) : Prop := lineFeed ∈ sent.take room ∨ room ≤ sent.length

instance (room : Nat) (sent : Bytes) : Decidable (HasLine room sent) := by
  unfold HasLine; infer_instance

section Feed
variable {line : Bytes}

theorem upToFeed_append (unfed : lineFeed ∉ line) (rest : Bytes) :
    upToFeed (line ++ rest) = line ++ upToFeed rest := by
  unfold upToFeed
  rw [List.idxOf_append_of_notMem unfed, Nat.add_assoc, List.take_length_add_append]

theorem upToFeed_fed (unfed : lineFeed ∉ line) (rest : Bytes) :
    upToFeed (line ++ lineFeed :: rest) = line ++ [lineFeed] := by
  rw [upToFeed_append unfed]
  simp [upToFeed]

theorem takeWhile_unfed (unfed : lineFeed ∉ line) : line.takeWhile (· ≠ lineFeed) = line := by
  simpa using takeWhile_past unfed []

end Feed

/-! ## Pieces -/

section Pieces
variable {room : Nat} {ending : Ending} {piece line behind : Bytes} {later : List Bytes}

theorem readLine_fed (front : piece.take room = line ++ lineFeed :: behind) (unfed : lineFeed ∉ line) :
    readLine room ending (piece :: later) = some (line ++ [lineFeed]) := by
  have stops : (piece.take room).takeWhile (· ≠ lineFeed) = line := by
    rw [front, takeWhile_upTo unfed]
  have more : line.length < (piece.take room).length := by
    rw [front, List.length_append, List.length_cons]
    omega
  simp only [readLine, stops, if_pos more]

theorem readLine_full (unfed : lineFeed ∉ piece.take room) (full : room ≤ piece.length) :
    readLine room ending (piece :: later) = some (piece.take room) := by
  simp only [readLine, takeWhile_unfed unfed, if_neg (Nat.lt_irrefl _), if_pos full]

theorem readLine_part (unfed : lineFeed ∉ piece) (part : piece.length < room) :
    readLine room ending (piece :: later) = (readLine (room - piece.length) ending later).map (piece ++ ·) := by
  have all : piece.take room = piece := List.take_of_length_le part.le
  simp only [readLine, all, takeWhile_unfed unfed, if_neg (Nat.lt_irrefl _), if_neg (Nat.not_le.mpr part)]

end Pieces

theorem hasLine_part {room : Nat} {piece : Bytes} (unfed : lineFeed ∉ piece) (part : piece.length < room)
    (rest : Bytes) : HasLine room (piece ++ rest) ↔ HasLine (room - piece.length) rest := by
  have all : piece.take room = piece := List.take_of_length_le part.le
  unfold HasLine
  rw [List.take_append, all, List.mem_append, or_iff_right unfed, List.length_append]
  refine or_congr_right ?_
  omega

/-- What is read of a line depends on all bytes and not on the pieces. -/
theorem readLine_eq (room : Nat) (ending : Ending) (pieces : List Bytes) : readLine room ending pieces =
    if HasLine room pieces.flatten ∨ ending = .closes then some ((upToFeed pieces.flatten).take room)
    else none := by
  induction pieces generalizing room with
  | nil => simp [readLine, upToFeed, HasLine]
  | cons piece later ih =>
    rw [List.flatten_cons]
    have whole : piece ++ later.flatten = piece.take room ++ (piece.drop room ++ later.flatten) := by
      rw [← List.append_assoc, List.take_append_drop]
    by_cases fed : lineFeed ∈ piece.take room
    · obtain ⟨line, behind, front, unfed⟩ := List.eq_append_cons_of_mem fed
      have came : HasLine room (piece ++ later.flatten) := by
        refine .inl ?_
        rw [List.take_append]
        exact List.mem_append_left _ fed
      have short : (line ++ [lineFeed]).length ≤ room := by
        have size := congrArg List.length front
        simp only [List.length_take, List.length_append, List.length_cons, List.length_nil] at size ⊢
        omega
      rw [readLine_fed front unfed, if_pos (.inl came), whole, front, List.append_assoc, List.cons_append,
        upToFeed_fed unfed, List.take_of_length_le short]
    · by_cases full : room ≤ piece.length
      · have size : (piece.take room).length = room := List.length_take_of_le full
        have came : HasLine room (piece ++ later.flatten) := by
          refine .inr ?_
          rw [List.length_append]
          omega
        rw [readLine_full fed full, if_pos (.inl came), whole, upToFeed_append fed,
          List.take_append_of_le_length size.ge, List.take_of_length_le size.le]
      · have part : piece.length < room := Nat.not_le.mp full
        have all : piece.take room = piece := List.take_of_length_le part.le
        rw [all] at fed
        rw [readLine_part fed part, ih, upToFeed_append fed, List.take_append, all]
        simp only [hasLine_part fed part, apply_ite (Option.map _), Option.map_some, Option.map_none]

/-! ## The main theorem -/

/-- The first line of what is sent. A longer one than 4096 bytes is cut. -/
def firstLine (sent : Bytes) : Bytes := (upToFeed sent).take 4096

theorem firstLine_eq_nil {sent : Bytes} : firstLine sent = [] ↔ sent = [] := by
  simp [firstLine, upToFeed]

theorem grab_eq (target : Endpoint) (time : Elapsed) (pieces : List Bytes) (ending : Ending) :
    grab target time (.listening ⟨pieces, ending⟩) = ⟨[],
      if HasLine 4096 pieces.flatten ∨ ending = .closes then
        if pieces.flatten = [] then .error (.closed target)
        else .ok (some (chomp (Utf8.decodeLossy (firstLine pieces.flatten))))
      else .error (.timeout target time)⟩ := by
  have read : readLine limit ending pieces = _ := readLine_eq 4096 ending pieces
  simp only [grab, Grab.overStream, Peer.connect, read]
  by_cases came : HasLine 4096 pieces.flatten ∨ ending = .closes
  · rw [if_pos came, if_pos came]
    by_cases nothing : pieces.flatten = []
    · rw [if_pos nothing, nothing]
      rfl
    · rw [if_neg nothing]
      obtain ⟨b, line, full⟩ := List.exists_cons_of_ne_nil (mt firstLine_eq_nil.mp nothing)
      rw [full]
      unfold firstLine at full
      simp only [full]
  · rw [if_neg came, if_neg came]

/-- What comes of a service that sends some pieces and then closes or stays silent. -/
structure TakesFirstLine (target : Endpoint) (time : Elapsed) (pieces : List Bytes) (ending : Ending) : Prop where
  /-- If there is a line, it is the banner, whatever comes behind it. -/
  line : HasLine 4096 pieces.flatten → grab target time (.listening ⟨pieces, ending⟩) =
    ⟨[], .ok (some (chomp (Utf8.decodeLossy (firstLine pieces.flatten))))⟩
  /-- If the service closes before, what has come is the banner. -/
  begun : ¬ HasLine 4096 pieces.flatten → ending = .closes → pieces.flatten ≠ [] →
    grab target time (.listening ⟨pieces, ending⟩) =
      ⟨[], .ok (some (chomp (Utf8.decodeLossy (firstLine pieces.flatten))))⟩
  /-- If it closes and nothing has come, this is an error. -/
  closed : ending = .closes → pieces.flatten = [] →
    grab target time (.listening ⟨pieces, ending⟩) = ⟨[], .error (.closed target)⟩
  /-- If it stays silent before there is a line, this is an error, and what has come is lost. -/
  silent : ¬ HasLine 4096 pieces.flatten → ending = .hangs →
    grab target time (.listening ⟨pieces, ending⟩) = ⟨[], .error (.timeout target time)⟩
  /-- The same bytes in other pieces come to the same. -/
  cuts : ∀ others : List Bytes, others.flatten = pieces.flatten →
    grab target time (.listening ⟨others, ending⟩) = grab target time (.listening ⟨pieces, ending⟩)
  /-- A banner ends with no line end. -/
  ends : ∀ banner c, (grab target time (.listening ⟨pieces, ending⟩)).banner = .ok (some banner) →
    banner.toList.getLast? = some c → c ≠ '\r' ∧ c ≠ '\n'

/-- **A greeting is the first line.** Whatever a service sends, in whatever pieces, its banner is the first line of it,
read as text without the line ends at its end. A line that is not ended counts if the service closes, or if it has
filled its room. If there is none, an error tells whether the service has closed or has stayed silent. -/
theorem a_greeting_is_the_first_line (target : Endpoint) (time : Elapsed) (pieces : List Bytes) (ending : Ending) :
    TakesFirstLine target time pieces ending := by
  constructor
  case line =>
    intro came
    have full : pieces.flatten ≠ [] := by
      intro nothing
      simp [nothing, HasLine] at came
    rw [grab_eq, if_pos (.inl came), if_neg full]
  case begun =>
    intro _ closes full
    rw [grab_eq, if_pos (.inr closes), if_neg full]
  case closed =>
    intro closes nothing
    rw [grab_eq, if_pos (.inr closes), if_pos nothing]
  case silent =>
    rintro unended rfl
    rw [grab_eq, if_neg (by simpa using unended)]
  case cuts =>
    intro others same
    rw [grab_eq, grab_eq, same]
  case ends =>
    intro banner c found last
    rw [grab_eq] at found
    dsimp only at found
    split_ifs at found
    rw [Except.ok.injEq, Option.some.injEq] at found
    exact chomp_ends (found ▸ last)

private def mailServer : Endpoint := ⟨.v4 2130706433, 25⟩

/-- A character is cut between two pieces, and more than one line comes. -/
example : grab mailServer (.ofMillis 5000) (.listening ⟨[[0x32, 0xc3], [], [0xa4, 13], [10, 0x35]], .hangs⟩) =
    ⟨[], .ok (some "2ä")⟩ := by
  cbv

end HostSurvey.Probe.Plain
