import HostSurvey.Proofs.Dns.Framing
/-!
# How a connection ends

A peer may close its side anywhere: behind a frame, within a length, or within a message.

1. Whatever bytes come, they are frames and a part of a further one, or nothing of it (`bytes_are_frames`).
2. A part that holds a length is told as an error (`receive_part`). One byte of a length is not: it is taken for the
   end of the connection, as if nothing had come (`receive_short`).
3. So an end that is told hides one byte at most (`an_end_hides_one_byte`), and it does hide one
   (`a_lone_byte_is_taken_for_the_end`).
-/
namespace HostSurvey.Dns

open Net

/-! ## Parts of frames -/

/-- The beginning of a frame, but not all of it. -/
def IsPart (bytes : Bytes) : Prop :=
  ∃ body missing, body.length < 65536 ∧ missing ≠ [] ∧ framed body = bytes ++ missing

/-- Bytes as frames, with a part of a further one behind them. -/
structure Frames (all : Bytes) (bodies : List Bytes) (part : Bytes) : Prop where
  room : ∀ body ∈ bodies, body.length < 65536
  begun : IsPart part
  whole : all = bodies.flatMap framed ++ part

theorem wordBytes_word (high low : UInt8) : wordBytes (256 * high.toNat + low.toNat) = [high, low] := by
  have small := low.toNat_lt
  have front : (256 * high.toNat + low.toNat) / 256 % 256 = high.toNat := by
    have := high.toNat_lt
    omega
  have back : (256 * high.toNat + low.toNat) % 256 = low.toNat := by omega
  simp only [wordBytes, front, back, UInt8.ofNat_toNat]

theorem word_lt (high low : UInt8) : 256 * high.toNat + low.toNat < 65536 := by
  have := high.toNat_lt
  have := low.toNat_lt
  omega

theorem isPart_length {size : Nat} (room : size < 65536) {begun : Bytes} (short : begun.length < size) :
    IsPart (wordBytes size ++ begun) := by
  have filled : (begun ++ List.replicate (size - begun.length) 0).length = size := by
    rw [List.length_append, List.length_replicate]
    omega
  refine ⟨begun ++ List.replicate (size - begun.length) 0, List.replicate (size - begun.length) 0, ?_, ?_, ?_⟩
  · rwa [filled]
  · rw [Ne, List.replicate_eq_nil_iff]
    omega
  · rw [framed, filled, List.append_assoc]

theorem isPart_nil : IsPart [] :=
  ⟨[], [0, 0], by decide, by simp, rfl⟩

theorem isPart_byte (b : UInt8) : IsPart [b] := by
  have room := word_lt b 0
  refine ⟨List.replicate (256 * b.toNat) 0, 0 :: List.replicate (256 * b.toNat) 0, ?_, by simp, ?_⟩
  · rw [List.length_replicate]
    exact room
  · rw [framed, List.length_replicate]
    exact congrArg (· ++ _) (wordBytes_word b 0)

/-- **Bytes are frames.** Whatever bytes come, they are frames, and behind them a part of a further one. -/
theorem bytes_are_frames (all : Bytes) : ∃ bodies part, Frames all bodies part := by
  -- Behind a whole frame fewer bytes are left.
  induction size : all.length using Nat.strong_induction_on generalizing all with
  | _ total ih =>
    match all, size with
    | [], _ => exact ⟨[], [], by simp, isPart_nil, rfl⟩
    | [b], _ => exact ⟨[], [b], by simp, isPart_byte b, rfl⟩
    | high :: low :: rest, size =>
      have length := wordBytes_word high low
      have room := word_lt high low
      generalize 256 * high.toNat + low.toNat = count at length room
      by_cases short : rest.length < count
      · refine ⟨[], high :: low :: rest, by simp, ?_, rfl⟩
        have part := isPart_length room short
        rwa [length] at part
      · have taken : (rest.take count).length = count := List.length_take_of_le (Nat.not_lt.mp short)
        have fewer : (rest.drop count).length < total := by
          rw [← size, List.length_drop, List.length_cons, List.length_cons]
          omega
        obtain ⟨bodies, part, others⟩ := ih _ fewer _ rfl
        refine ⟨rest.take count :: bodies, part, ?_, others.begun, ?_⟩
        · exact List.forall_mem_cons.mpr ⟨taken.symm ▸ room, others.room⟩
        · rw [List.flatMap_cons, List.append_assoc, ← others.whole, framed, taken, length, List.append_assoc,
            List.take_append_drop]
          rfl

/-! ## Reading a part -/

section Reading
variable {μ : Type} (decode : Bytes → Option μ)

/-- A part that holds a length is told as an error, and nothing is left of it. -/
theorem receive_part {s : Stream} (part : IsPart s.all) (long : 2 ≤ s.all.length) (closes : s.ending = .closes) :
    receive decode s = .failed (.stream .cutShort) ⟨[], .closes⟩ := by
  obtain ⟨body, missing, room, more, whole⟩ := part
  obtain ⟨begun, all⟩ : wordBytes body.length <+: s.all :=
    List.prefix_of_prefix_length_le ⟨body, rfl⟩ ⟨missing, whole.symm⟩ long
  have split : body = begun ++ missing := by
    rw [framed, ← all, List.append_assoc] at whole
    exact List.append_cancel_left whole
  obtain ⟨middle, left, still, read⟩ := receive_length decode room all.symm
  have short : middle.all.length < body.length := by
    rw [left, split, List.length_append]
    exact Nat.lt_add_of_pos_right (List.length_pos_iff.mpr more)
  rw [read, Stream.collect_of_lt short, still, closes]
  rfl

theorem Received.ofBody_ne_ended (body : Bytes) (rest : Stream) : Received.ofBody decode body rest ≠ .ended := by
  unfold ofBody
  split <;> simp

/-! ## The main theorem -/

/-- What is told of a connection on which frames come, and a part of a further one, before the peer closes its
side. -/
structure TellsEnd (decode : Bytes → Option μ) (s : Stream) (bodies : List Bytes) (part : Bytes) : Prop where
  /-- No frame is taken for the end. -/
  frames : ∀ place body, bodies[place]? = some body →
    (∃ rest, readAt decode s place = .ofBody decode body rest) ∧ readAt decode s place ≠ .ended
  /-- A part of a frame is told as an error, if it holds a length. -/
  cut : 2 ≤ part.length → readAt decode s bodies.length = .failed (.stream .cutShort) ⟨[], .closes⟩
  /-- It is taken for the end if there is one byte of it or none. -/
  ended : readAt decode s bodies.length = .ended ↔ part.length ≤ 1

/-- **An end hides one byte at most.** Whatever bytes a peer sends before it closes its side, and in whatever pieces,
they are frames and a part of a further one. The frames are read, and behind them the end is told if no byte or one
byte of a further frame has come. If more has come, an error is told. -/
theorem an_end_hides_one_byte (s : Stream) (closes : s.ending = .closes) :
    (∃ bodies part, Frames s.all bodies part) ∧
      ∀ bodies part, Frames s.all bodies part → TellsEnd decode s bodies part := by
  refine ⟨bytes_are_frames s.all, fun bodies part frames => ?_⟩
  obtain ⟨rest, left, still, onward⟩ := read_behind decode frames.room frames.whole
  have behind : readAt decode s bodies.length = receive decode rest := onward 0
  have cut : 2 ≤ part.length → readAt decode s bodies.length = .failed (.stream .cutShort) ⟨[], .closes⟩ := by
    intro long
    rw [behind]
    exact receive_part decode (left ▸ frames.begun) (left ▸ long) (still.trans closes)
  constructor
  case frames =>
    intro place body there
    obtain ⟨later, came, _⟩ := read_framed decode frames.room frames.whole there
    exact ⟨⟨later, came⟩, came ▸ Received.ofBody_ne_ended decode body later⟩
  case cut => exact cut
  case ended =>
    constructor
    · intro ended
      by_contra long
      rw [cut (Nat.not_le.mp long)] at ended
      cases ended
    · intro short
      rw [behind]
      exact receive_short decode (left ▸ short) (still.trans closes)

end Reading

/-- A message without questions and records. -/
private def emptyMessage : Bytes := [0, 7, 0, 0, 0, 0, 0, 0, 0, 0, 0, 0]

/-- A message, and two bytes of a body of three. -/
theorem a_message_and_a_cut_one :
    let s : Stream := ⟨[[0], [12, 0, 7, 0, 0, 0, 0, 0, 0, 0, 0], [0, 0, 0, 3, 1], [1]], .closes⟩
    s.ending = .closes ∧ Frames s.all [emptyMessage] [0, 3, 1, 1] ∧
      readAt Message.decode? s 1 = .failed (.stream .cutShort) ⟨[], .closes⟩ := by
  intro s
  have frames : Frames s.all [emptyMessage] [0, 3, 1, 1] :=
    ⟨by simp [emptyMessage], ⟨[1, 1, 0], [0], by decide, by simp, rfl⟩, rfl⟩
  exact ⟨rfl, frames, ((an_end_hides_one_byte Message.decode? s rfl).2 _ _ frames).cut (by decide)⟩

/-- One byte of a length comes, and then the peer closes its side. That is taken for the end between two frames. -/
theorem a_lone_byte_is_taken_for_the_end :
    let s : Stream := ⟨[[0]], .closes⟩
    s.ending = .closes ∧ s.all ≠ [] ∧ Frames s.all [] [0] ∧ receive Message.decode? s = .ended := by
  refine ⟨rfl, by simp [Stream.all], ⟨by simp, isPart_byte 0, rfl⟩, receive_short Message.decode? (by decide) rfl⟩

end HostSurvey.Dns
