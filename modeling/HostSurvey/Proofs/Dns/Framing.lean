import HostSurvey.Dns.Frame
import Mathlib
/-!
# Frames

What is written on a connection is read back, however the stream is cut.

1. A message is written if its encoding has room in a frame. Otherwise nothing is written (`write_eq`).
2. A read takes the frame that stands in front, and nothing of what stands behind it (`receive_framed`).
3. So frames are read one after the other, and then what stands behind them (`read_framed`, `read_behind`). If that is
   nothing, it is the end of the connection (`what_is_written_is_read_back`).
-/
namespace HostSurvey.Dns

open Net

/-! ## Writing -/

section Writing
variable {μ : Type} (encode : μ → Option Bytes)

/-- The encoding of a message, if it has room in a frame. -/
def body? (m : μ) : Option Bytes :=
  (encode m).filter (·.length < 65536)

theorem write_eq (m : μ) (sent : Bytes) : write encode m sent =
    match body? encode m with
    | some body => (true, sent ++ framed body)
    | none => (false, sent) := by
  unfold write body? framed?
  cases encode m with
  | none => rfl
  | some body =>
    by_cases room : body.length < 65536 <;> simp [Option.filter_some, room]

theorem body?_eq_none {encode : μ → Option Bytes} {m : μ} :
    body? encode m = none ↔ ∀ body, encode m = some body → 65535 < body.length := by
  unfold body?
  cases encode m with
  | none => simp
  | some body =>
    simp only [Option.filter_eq_none_iff, Option.some.injEq, forall_eq', decide_eq_true_eq]
    omega

theorem body?_length {encode : μ → Option Bytes} {m : μ} {body : Bytes} (room : body? encode m = some body) :
    body.length < 65536 := by
  simpa using (Option.filter_eq_some_iff.mp room).2

/-- Writes messages one after the other, whether the ones before went well or not. -/
def writeAll (messages : List μ) : Bytes :=
  messages.foldl (fun sent m => (write encode m sent).2) []

/-- The encodings of the messages that can be written. -/
def bodies (messages : List μ) : List Bytes :=
  messages.filterMap (body? encode)

theorem writeAll_eq (messages : List μ) : writeAll encode messages = (bodies encode messages).flatMap framed := by
  have behind : ∀ sent : Bytes, messages.foldl (fun sent m => (write encode m sent).2) sent =
      sent ++ (bodies encode messages).flatMap framed := by
    induction messages with
    | nil => simp [bodies]
    | cons m rest ih =>
      intro sent
      rw [List.foldl_cons, ih, write_eq]
      cases room : body? encode m <;> simp [bodies, room]
  exact behind []

/-- If every message has room, each is among them. -/
theorem bodies_complete {messages : List μ}
    (each : ∀ m ∈ messages, ∃ body, encode m = some body ∧ body.length ≤ 65535) :
    (bodies encode messages).map some = messages.map encode := by
  induction messages with
  | nil => rfl
  | cons m rest ih =>
    obtain ⟨body, encoded, short⟩ := each m List.mem_cons_self
    have room : body? encode m = some body := by
      simp [body?, encoded, Option.filter_some, Nat.lt_succ_of_le short]
    have others := ih fun other member => each other (List.mem_cons_of_mem m member)
    rw [List.map_cons, ← others, encoded, bodies, List.filterMap_cons_some room]
    rfl

end Writing

/-! ## Reading -/

variable {μ : Type} (decode : Bytes → Option μ)

/-- What a read makes of the bytes of a message, with what stands behind them. `decode` decodes them, if it can. -/
def Received.ofBody (body : Bytes) (rest : Stream) : Received μ :=
  match decode body with
  | some m => .message m rest
  | none => .failed .malformed rest

/-- A length tells how many of the bytes behind it are read. -/
theorem receive_length {s : Stream} {size : Nat} {behind : Bytes} (room : size < 65536)
    (all : s.all = wordBytes size ++ behind) : ∃ middle : Stream, middle.all = behind ∧ middle.ending = s.ending ∧
      receive decode s = match middle.collect size with
        | .closed => .failed (.stream .cutShort) ⟨[], s.ending⟩
        | .silence => .silence
        | .bytes body rest => .ofBody decode body rest := by
  have two : (wordBytes size).length = 2 := rfl
  have enough : 2 ≤ s.all.length := by
    rw [all, List.length_append]
    omega
  obtain ⟨pieces, head, left⟩ := Stream.collect_of_le enough
  rw [all, List.take_left' two] at head
  rw [all, List.drop_left' two] at left
  refine ⟨⟨pieces, s.ending⟩, left, rfl, ?_⟩
  simp only [receive, head, wordValue_wordBytes room]
  rfl

/-- A frame is taken from the front, wherever the stream is cut, and what stands behind it is left. -/
theorem receive_framed {s : Stream} {body behind : Bytes} (room : body.length < 65536)
    (all : s.all = framed body ++ behind) :
    ∃ rest, receive decode s = .ofBody decode body rest ∧ rest.all = behind ∧ rest.ending = s.ending := by
  rw [framed, List.append_assoc] at all
  obtain ⟨middle, left, still, read⟩ := receive_length decode room all
  have enough : body.length ≤ middle.all.length := by
    rw [left, List.length_append]
    omega
  obtain ⟨pieces, bytes, last⟩ := Stream.collect_of_le enough
  rw [left, List.take_left] at bytes
  rw [left, List.drop_left] at last
  exact ⟨⟨pieces, middle.ending⟩, by rw [read, bytes], last, still⟩

/-- Where a frame should stand and the connection ends before there is a length, it has ended. -/
theorem receive_short {s : Stream} (short : s.all.length ≤ 1) (closes : s.ending = .closes) :
    receive decode s = .ended := by
  have nothing : s.collect 2 = .closed := by
    rw [Stream.collect_of_lt (Nat.lt_succ_of_le short), closes]
    rfl
  simp only [receive, nothing]

/-- What stands behind what a read brings, if that does not end the reads. -/
def Received.rest? : Received μ → Option Stream
  | .message _ rest => some rest
  | .failed _ rest => some rest
  | _ => none

theorem Received.rest?_ofBody (body : Bytes) (rest : Stream) :
    (Received.ofBody decode body rest).rest? = some rest := by
  unfold ofBody
  split <;> rfl

/-- What a read brings, counted from zero, when one message is read after the other. A connection that brings
nothing more goes on doing so. -/
def readAt (s : Stream) : Nat → Received μ
  | 0 => receive decode s
  | place + 1 =>
    match (receive decode s).rest? with
    | some rest => readAt rest place
    | none => receive decode s

theorem readAt_ended {decode : Bytes → Option μ} {s : Stream} (ended : receive decode s = .ended) (place : Nat) :
    readAt decode s place = .ended := by
  cases place with
  | zero => exact ended
  | succ place => simp only [readAt, ended, Received.rest?]

/-- Frames take up one read each, and then what stands behind them is read. -/
theorem read_behind {bodies : List Bytes} (room : ∀ body ∈ bodies, body.length < 65536) {s : Stream} {behind : Bytes}
    (all : s.all = bodies.flatMap framed ++ behind) :
    ∃ rest, rest.all = behind ∧ rest.ending = s.ending ∧
      ∀ place, readAt decode s (bodies.length + place) = readAt decode rest place := by
  induction bodies generalizing s with
  | nil => exact ⟨s, all, rfl, fun place => by rw [List.length_nil, Nat.zero_add]⟩
  | cons first more ih =>
    rw [List.flatMap_cons, List.append_assoc] at all
    obtain ⟨middle, came, left, still⟩ := receive_framed decode (room first List.mem_cons_self) all
    obtain ⟨rest, last, ending, onward⟩ := ih (fun other member => room other (List.mem_cons_of_mem first member)) left
    refine ⟨rest, last, ending.trans still, fun place => ?_⟩
    rw [List.length_cons, Nat.add_right_comm, ← onward]
    simp only [readAt, came, Received.rest?_ofBody]

/-- Frames are read one after the other, whatever stands behind them. -/
theorem read_framed {bodies : List Bytes} (room : ∀ body ∈ bodies, body.length < 65536) {s : Stream} {behind : Bytes}
    (all : s.all = bodies.flatMap framed ++ behind) {place : Nat} {body : Bytes} (there : bodies[place]? = some body) :
    ∃ rest, readAt decode s place = .ofBody decode body rest ∧
      rest.all = (bodies.drop (place + 1)).flatMap framed ++ behind := by
  obtain ⟨inside, rfl⟩ := List.getElem?_eq_some_iff.mp there
  have split : bodies = bodies.take place ++ bodies[place] :: bodies.drop (place + 1) := by
    rw [List.getElem_cons_drop, List.take_append_drop]
  have before : (bodies.take place).length = place := List.length_take_of_le inside.le
  have front : s.all = (bodies.take place).flatMap framed ++
      (framed bodies[place] ++ ((bodies.drop (place + 1)).flatMap framed ++ behind)) := by
    rw [all]
    conv_lhs => rw [split]
    simp only [List.flatMap_append, List.flatMap_cons, List.append_assoc]
  obtain ⟨middle, left, _, onward⟩ :=
    read_behind decode (fun body member => room body (List.mem_of_mem_take member)) front
  obtain ⟨rest, came, last, _⟩ := receive_framed decode (room _ (List.getElem_mem inside)) left
  refine ⟨rest, ?_, last⟩
  have there := onward 0
  rw [before, Nat.add_zero] at there
  exact there.trans came

/-- Behind the last frame every read finds the end. -/
theorem read_ended {bodies : List Bytes} (room : ∀ body ∈ bodies, body.length < 65536) {s : Stream}
    (all : s.all = bodies.flatMap framed) (closes : s.ending = .closes) {place : Nat}
    (behind : bodies.length ≤ place) : readAt decode s place = .ended := by
  have whole : s.all = bodies.flatMap framed ++ [] := by rwa [List.append_nil]
  obtain ⟨rest, left, still, onward⟩ := read_behind decode room whole
  obtain ⟨more, rfl⟩ := Nat.exists_eq_add_of_le behind
  rw [onward]
  exact readAt_ended (receive_short decode (by simp [left]) (still.trans closes)) more

/-! ## The main theorem -/

/-- What becomes of messages that are written on a connection and read from it. -/
structure ReadBack (encode : μ → Option Bytes) (decode : Bytes → Option μ) (messages : List μ) (s : Stream) :
    Prop where
  /-- If every message has room, all are written. -/
  complete : (∀ m ∈ messages, ∃ body, encode m = some body ∧ body.length ≤ 65535) →
    (bodies encode messages).map some = messages.map encode
  /-- Each read brings the next of the messages that were written, as it is decoded, and leaves the frames of the
  others. -/
  inOrder : ∀ place body, (bodies encode messages)[place]? = some body → ∃ rest,
    readAt decode s place = .ofBody decode body rest ∧
      rest.all = ((bodies encode messages).drop (place + 1)).flatMap framed
  /-- Messages that are decoded to what was encoded come back as they are. -/
  inverse : (∀ m ∈ messages, ∃ body, encode m = some body ∧ body.length ≤ 65535 ∧ decode body = some m) →
    ∀ place m, messages[place]? = some m → ∃ rest, readAt decode s place = .message m rest
  /-- Behind the last one there is the end. -/
  ended : ∀ place, (bodies encode messages).length ≤ place → readAt decode s place = .ended
  /-- A read takes its own frame, whatever stands behind it and whether the peer closes its side or not. -/
  alone : ∀ (stream : Stream) (m : μ) (sent behind : Bytes), (write encode m sent).1 = true →
    sent ++ stream.all = (write encode m sent).2 ++ behind → ∃ body rest, encode m = some body ∧
      receive decode stream = .ofBody decode body rest ∧ rest.all = behind ∧ rest.ending = stream.ending
  /-- A message fails to be written if it cannot be encoded, or its encoding has no room. -/
  refused : ∀ m sent, (write encode m sent).1 = false ↔ ∀ body, encode m = some body → 65535 < body.length
  /-- Then nothing is written. -/
  unsent : ∀ m sent, (write encode m sent).1 = false → (write encode m sent).2 = sent

/-- **What is written is read back.** Messages are written one after the other on a connection, and the stream is cut
in any way. Then one read after the other brings what these messages are decoded to, in order, and the end when all
have come. A message that has no room leaves no trace on the connection. -/
theorem what_is_written_is_read_back (encode : μ → Option Bytes) (decode : Bytes → Option μ) (messages : List μ)
    {s : Stream} (cut : s.all = writeAll encode messages) (closes : s.ending = .closes) :
    ReadBack encode decode messages s := by
  have room : ∀ body ∈ bodies encode messages, body.length < 65536 := by
    intro body member
    obtain ⟨m, _, fits⟩ := List.mem_filterMap.mp member
    exact body?_length fits
  rw [writeAll_eq] at cut
  have inOrder : ∀ place body, (bodies encode messages)[place]? = some body → ∃ rest,
      readAt decode s place = .ofBody decode body rest ∧
        rest.all = ((bodies encode messages).drop (place + 1)).flatMap framed := by
    intro place body there
    have whole : s.all = (bodies encode messages).flatMap framed ++ [] := by rwa [List.append_nil]
    obtain ⟨rest, came, left⟩ := read_framed decode room whole there
    exact ⟨rest, came, left.trans (List.append_nil _)⟩
  constructor
  case complete => exact bodies_complete encode
  case inOrder => exact inOrder
  case inverse =>
    intro each place m there
    obtain ⟨body, encoded, short, decoded⟩ := each m (List.mem_of_getElem? there)
    have complete := bodies_complete encode fun other member => by
      obtain ⟨bytes, same, fits, _⟩ := each other member
      exact ⟨bytes, same, fits⟩
    have among : ((bodies encode messages).map some)[place]? = some (some body) := by
      rw [complete, List.getElem?_map, there, Option.map_some, encoded]
    have found : (bodies encode messages)[place]? = some body := by simpa using among
    obtain ⟨rest, came, _⟩ := inOrder place body found
    exact ⟨rest, by rw [came, Received.ofBody, decoded]⟩
  case ended => exact fun place behind => read_ended decode room cut closes behind
  case alone =>
    intro stream m sent behind went all
    rw [write_eq] at went all
    cases fits : body? encode m with
    | none => rw [fits] at went; cases went
    | some body =>
      rw [fits] at all
      have front : stream.all = framed body ++ behind := by
        rw [List.append_assoc] at all
        exact List.append_cancel_left all
      obtain ⟨rest, came, left, still⟩ := receive_framed decode (body?_length fits) front
      exact ⟨body, rest, (Option.filter_eq_some_iff.mp fits).1, came, left, still⟩
  case refused =>
    intro m sent
    rw [← body?_eq_none, write_eq]
    cases body? encode m <;> simp
  case unsent =>
    intro m sent failed
    rw [write_eq] at failed ⊢
    cases fits : body? encode m with
    | none => rfl
    | some body => rw [fits] at failed; cases failed

/-- A question for the start of the root zone. -/
private def rootQuestion : Question := ⟨.root, .soa, .internet⟩

/-- Numbers of requests stand for the requests. Zero stands for one that cannot be encoded. -/
private def encodeNumber (id : UInt16) : Option Bytes :=
  if id = 0 then none else encodeQuery? id [rootQuestion]

private def decodeNumber (bytes : Bytes) : Option UInt16 :=
  (Message.decode? bytes).map Message.id

/-- Two messages are cut in the middle of a length and within a message. The third one could not be written. -/
theorem two_messages_in_three_pieces :
    let s : Stream := ⟨[[0], [17, 0, 7, 0, 0, 0, 1, 0, 0], [0, 0, 0, 0, 0, 0, 6, 0, 1, 0, 17, 0, 8, 0, 0, 0, 1, 0, 0,
      0, 0, 0, 0, 0, 0, 6, 0, 1]], .closes⟩
    s.all = writeAll encodeNumber [7, 0, 8] ∧ s.ending = .closes ∧
      ReadBack encodeNumber decodeNumber [7, 0, 8] s ∧ ∃ rest, readAt decodeNumber s 1 = .message 8 rest := by
  intro s
  have cut : s.all = writeAll encodeNumber [7, 0, 8] := by cbv
  refine ⟨cut, rfl, what_is_written_is_read_back encodeNumber decodeNumber [7, 0, 8] cut rfl, ⟨[[]], .closes⟩, by cbv⟩

end HostSurvey.Dns
