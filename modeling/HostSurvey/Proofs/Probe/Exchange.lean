import HostSurvey.Proofs.Probe.Cuts
/-!
# How long a terminal server is listened to

A server that never stops negotiating is given up. Each read is taken in by the negotiation and answered, and then
the next read follows, also behind the last round. So the exchange goes on for sixteen rounds and one read more.

1. `Declines` says that some reads bring no text, and what is replied to them. One of them takes up one round
   (`rounds_declined`).
2. Text in one of the first sixteen reads ends the exchange (`onward_text`). If there are no more than sixteen reads,
   and no text, the last read fails as the stream ends (`onward_ended`). If there are more, what the seventeenth
   brings is not looked at (`onward_given_up`).
3. These are all the ways in which the exchange can go (`an_exchange_has_sixteen_rounds`). A server that has used up
   its rounds and then closes is not given up for them (`a_seventeenth_read_fails`).
-/
namespace HostSurvey.Probe.Telnet

open HostSurvey.Net

/-! ## Reads without text -/

/-- None of some reads brings text. `replies` are the answers to them, one for each. -/
inductive Declines : Negotiator → List Bytes → List Bytes → Negotiator → Prop where
  | nothing (n : Negotiator) : Declines n [] [] n
  | more {n next last : Negotiator} {bytes reply : Bytes} {reads replies : List Bytes}
      (fed : n.feed bytes = (.needMore reply, next)) (later : Declines next reads replies last) :
      Declines n (bytes :: reads) (reply :: replies) last

/-- Some reads bring no text, or there is a first one that does. -/
theorem declines_or_text (n : Negotiator) (reads : List Bytes) : (∃ replies last, Declines n reads replies last) ∨
    ∃ before bytes after replies next reply text last, reads = before ++ bytes :: after ∧
      Declines n before replies next ∧ next.feed bytes = (.text reply text, last) := by
  induction reads generalizing n with
  | nil => exact .inl ⟨[], n, .nothing n⟩
  | cons bytes later ih =>
    cases fed : n.feed bytes with
    | mk step next =>
      cases step with
      | text reply text => exact .inr ⟨[], bytes, later, [], n, reply, text, next, rfl, .nothing n, fed⟩
      | needMore reply =>
        rcases ih next with ⟨replies, last, declined⟩ |
          ⟨before, found, after, replies, middle, answer, text, last, rfl, declined, told⟩
        · exact .inl ⟨reply :: replies, last, .more fed declined⟩
        · exact .inr ⟨bytes :: before, found, after, reply :: replies, middle, answer, text, last, rfl,
            .more fed declined, told⟩

/-! ## Rounds -/

/-- What a read fails with when there is nothing more to come. -/
def missed (target : Endpoint) (time : Elapsed) : Ending → Error
  | .closes => .closed target
  | .hangs => .timeout target time

/-- Each piece is what one read brings. -/
def FitReads (pieces : List Bytes) : Prop := ∀ piece ∈ pieces, piece ≠ [] ∧ piece.length ≤ 4096

/-- What is left of an exchange when a read is to follow. -/
def onward (target : Endpoint) (time : Elapsed) (left : Nat) (n : Negotiator) (stream : Stream) : Grab :=
  match readSome target time room stream with
  | .error e => .failed e
  | .ok (bytes, stream) => rounds target time left n bytes stream

section Rounds
variable {target : Endpoint} {time : Elapsed} {ending : Ending} {left : Nat} {n next last : Negotiator}
  {bytes reply text : Bytes} {pieces before after replies : List Bytes} {stream : Stream}

theorem readSome_piece (fit : FitReads (bytes :: pieces)) :
    readSome target time room ⟨bytes :: pieces, ending⟩ = .ok (bytes, ⟨pieces, ending⟩) := by
  obtain ⟨full, size⟩ := fit bytes List.mem_cons_self
  cases bytes with
  | nil => exact absurd rfl full
  | cons b more =>
    have size : (b :: more).length ≤ room := size
    simp [readSome, Stream.read, Stream.readPieces, List.take_of_length_le size, List.drop_of_length_le size]

theorem readSome_nothing : readSome target time room ⟨[], ending⟩ = .error (missed target time ending) := by
  cases ending <;> rfl

theorem rounds_declined (fed : n.feed bytes = (.needMore reply, next)) (stream : Stream) :
    rounds target time (left + 1) n bytes stream =
      ⟨[reply].filter (· ≠ []) ++ (onward target time left next stream).sent,
        (onward target time left next stream).banner⟩ := by
  have sent : (if reply.isEmpty then [] else [reply]) = [reply].filter (· ≠ []) := by
    cases reply <;> rfl
  rw [rounds, fed]
  simp only [sent, onward]
  cases readSome target time room stream with
  | error e => simp [Grab.failed]
  | ok read => rfl

/-- Reads without text take up one round each. -/
theorem onward_declined (fit : FitReads (before ++ after)) (declined : Declines n before replies last) :
    onward target time (before.length + left) n ⟨before ++ after, ending⟩ =
      ⟨replies.filter (· ≠ []) ++ (onward target time left last ⟨after, ending⟩).sent,
        (onward target time left last ⟨after, ending⟩).banner⟩ := by
  induction declined with
  | nothing n => simp
  | @more n next last bytes reply reads replies fed later ih =>
    rw [List.cons_append] at fit ⊢
    have rest := ih (List.forall_mem_cons.mp fit).2
    have one_more : (bytes :: reads).length + left = (reads.length + left) + 1 := by
      rw [List.length_cons]
      omega
    rw [onward, readSome_piece fit, one_more]
    simp only [rounds_declined fed, rest]
    rw [← List.append_assoc, ← List.filter_append, List.singleton_append]

/-- A read that brings text ends the exchange, and its own reply is not sent. -/
theorem onward_text (fit : FitReads (bytes :: after)) (told : n.feed bytes = (.text reply text, last)) :
    onward target time (left + 1) n ⟨bytes :: after, ending⟩ = ⟨[], .ok (bannerOf text)⟩ := by
  rw [onward, readSome_piece fit]
  simp only [rounds, told]

theorem onward_ended : onward target time left n ⟨[], ending⟩ = .failed (missed target time ending) := by
  rw [onward, readSome_nothing]

/-- Behind the last round a read is made, but what it brings is not looked at. -/
theorem onward_given_up (fit : FitReads (bytes :: after)) :
    onward target time 0 n ⟨bytes :: after, ending⟩ =
      .failed (.protocol target "no text after 16 negotiation rounds") := by
  rw [onward, readSome_piece fit]
  rfl

/-- An exchange begins with a read and the fixed opening. What brings no text takes up one round each, out of
sixteen. -/
theorem grab_declined (target : Endpoint) (time : Elapsed) (ending : Ending) (fit : FitReads (before ++ after))
    (any : before ++ after ≠ []) (declined : Declines .fresh before replies last) (all : before.length + left = 16) :
    grab target time (.listening ⟨before ++ after, ending⟩) =
      ⟨opening :: (replies.filter (· ≠ []) ++ (onward target time left last ⟨after, ending⟩).sent),
        (onward target time left last ⟨after, ending⟩).banner⟩ := by
  have begun : grab target time (.listening ⟨before ++ after, ending⟩) =
      ⟨opening :: (onward target time 16 .fresh ⟨before ++ after, ending⟩).sent,
        (onward target time 16 .fresh ⟨before ++ after, ending⟩).banner⟩ := by
    cases pieces : before ++ after with
    | nil => exact absurd pieces any
    | cons bytes later =>
      rw [pieces] at fit
      simp only [grab, Grab.overStream, Peer.connect, onward, readSome_piece fit]
      rfl
  rw [begun, ← all, onward_declined fit declined]

end Rounds

/-! ## The main theorem -/

/-- What an exchange with a server comes to that sends some pieces and then closes or stays silent. -/
structure HasSixteenRounds (target : Endpoint) (time : Elapsed) (pieces : List Bytes) (ending : Ending) : Prop where
  /-- The first text in one of the first sixteen pieces gives the banner. Sent are the opening and the replies to the
  pieces before it. -/
  text : ∀ before bytes after replies n reply text last, pieces = before ++ bytes :: after → before.length < 16 →
    Declines .fresh before replies n → n.feed bytes = (.text reply text, last) →
      grab target time (.listening ⟨pieces, ending⟩) =
        ⟨opening :: replies.filter (· ≠ []), .ok (bannerOf text)⟩
  /-- Up to sixteen pieces without text are answered, and the read behind them fails. -/
  ended : ∀ replies n, pieces.length ≤ 16 → Declines .fresh pieces replies n →
    grab target time (.listening ⟨pieces, ending⟩) =
      ⟨if pieces = [] then [] else opening :: replies.filter (· ≠ []), .error (missed target time ending)⟩
  /-- If there are more pieces and the first sixteen bring no text, the server is given up. -/
  givenUp : ∀ replies n, 16 < pieces.length → Declines .fresh (pieces.take 16) replies n →
    grab target time (.listening ⟨pieces, ending⟩) =
      ⟨opening :: replies.filter (· ≠ []), .error (.protocol target "no text after 16 negotiation rounds")⟩
  /-- There is no other case. -/
  complete : (∃ before bytes after replies n reply text last, pieces = before ++ bytes :: after ∧
      before.length < 16 ∧ Declines .fresh before replies n ∧ n.feed bytes = (.text reply text, last)) ∨
    ∃ replies n, Declines .fresh (pieces.take 16) replies n

/-- **An exchange has sixteen rounds, and one read more.** For any pieces that a server sends, each brought by one
read, and whether it then closes or stays silent: text in the first sixteen pieces gives the banner, and without text
the server is given up, but only if a seventeenth piece comes. If there are no more than sixteen, the exchange fails
as the stream ends. Sent are the opening, and the replies to all pieces that were taken in before. -/
theorem an_exchange_has_sixteen_rounds (target : Endpoint) (time : Elapsed) (pieces : List Bytes) (ending : Ending)
    (fit : FitReads pieces) : HasSixteenRounds target time pieces ending := by
  refine ⟨?_, ?_, ?_, ?_⟩
  · rintro before bytes after replies n reply text last rfl early declined told
    obtain ⟨left, all⟩ : ∃ left, before.length + (left + 1) = 16 := ⟨15 - before.length, by omega⟩
    have rest : FitReads (bytes :: after) := fun piece member => fit piece (List.mem_append_right _ member)
    rw [grab_declined target time ending fit (by simp) declined all, onward_text rest told, List.append_nil]
  · intro replies n few declined
    by_cases none : pieces = []
    · subst none
      rw [if_pos rfl]
      cases ending <;> rfl
    · obtain ⟨left, all⟩ := Nat.exists_eq_add_of_le few
      have fit : FitReads (pieces ++ []) := by rwa [List.append_nil]
      have grabbed := grab_declined target time ending fit (by simpa using none) declined all.symm
      rw [List.append_nil, onward_ended] at grabbed
      rw [grabbed, if_neg none]
      simp [Grab.failed]
  · intro replies n many declined
    cases rest : pieces.drop 16 with
    | nil => exact absurd (List.drop_eq_nil_iff.mp rest) (by omega)
    | cons bytes after =>
      have whole : pieces.take 16 ++ bytes :: after = pieces := rest ▸ List.take_append_drop 16 pieces
      have sixteen : (pieces.take 16).length + 0 = 16 := by simp; omega
      have last : FitReads (bytes :: after) := fun piece member =>
        fit piece (whole ▸ List.mem_append_right _ member)
      have grabbed := grab_declined target time ending (by rwa [whole]) (by simp) declined sixteen
      rw [whole, onward_given_up last] at grabbed
      rw [grabbed]
      simp [Grab.failed]
  · rcases declines_or_text .fresh (pieces.take 16) with
      declined | ⟨before, bytes, after, replies, n, reply, text, last, front, declined, told⟩
    · exact .inr declined
    · have whole : pieces = before ++ bytes :: (after ++ pieces.drop 16) := by
        rw [← List.cons_append, ← List.append_assoc, ← front, List.take_append_drop]
      have size := congrArg List.length front
      simp only [List.length_take, List.length_append, List.length_cons] at size
      exact .inl ⟨before, bytes, _, replies, n, reply, text, last, whole, by omega, declined, told⟩

private def terminal : Endpoint := ⟨.v4 2130706433, 23⟩

/-- Two offers, the second one cut, and a text. -/
theorem a_text_in_the_third_read : FitReads [[iac, doOption, 0x18], [iac], [will, 1, 0x6f, 0x6b]] ∧
    HasSixteenRounds terminal (.ofMillis 5000) [[iac, doOption, 0x18], [iac], [will, 1, 0x6f, 0x6b]] .hangs ∧
    grab terminal (.ofMillis 5000) (.listening ⟨[[iac, doOption, 0x18], [iac], [will, 1, 0x6f, 0x6b]], .hangs⟩) =
      ⟨[opening, [iac, wont, 0x18]], .ok (some "ok")⟩ := by
  have fit : FitReads [[iac, doOption, 0x18], [iac], [will, 1, 0x6f, 0x6b]] := by
    simp [FitReads]
  have bounded := an_exchange_has_sixteen_rounds terminal (.ofMillis 5000) _ .hangs fit
  have first : Negotiator.fresh.feed [iac, doOption, 0x18] = (.needMore [iac, wont, 0x18], .fresh) := by cbv
  have second : Negotiator.fresh.feed [iac] = (.needMore [], ⟨false, [iac]⟩) := by cbv
  have third : Negotiator.feed ⟨false, [iac]⟩ [will, 1, 0x6f, 0x6b] =
      (.text [iac, dont, 1] [0x6f, 0x6b], ⟨true, []⟩) := by cbv
  refine ⟨fit, bounded, ?_⟩
  exact bounded.text [[iac, doOption, 0x18], [iac]] _ [] _ _ _ _ _ rfl (by decide)
    (.more first (.more second (.nothing _))) third

private theorem nothing_declined (count : Nat) :
    Declines .fresh (List.replicate count [iac, 0xf1]) (List.replicate count []) .fresh := by
  induction count with
  | zero => exact .nothing _
  | succ count ih => exact .more (by cbv) ih

/-- Sixteen pieces that bring no text and ask for nothing. A seventeenth read is made, and because the server has
closed by then, it is not given up for its sixteen rounds. -/
theorem a_seventeenth_read_fails :
    Declines .fresh (List.replicate 16 [iac, 0xf1]) (List.replicate 16 []) .fresh ∧
    (grab terminal (.ofMillis 5000) (.listening ⟨List.replicate 16 [iac, 0xf1], .closes⟩)).banner =
      .error (.closed terminal) ∧
    (grab terminal (.ofMillis 5000) (.listening ⟨List.replicate 16 [iac, 0xf1], .closes⟩)).banner ≠
      .error (.protocol terminal "no text after 16 negotiation rounds") := by
  have declined := nothing_declined 16
  have fit : FitReads (List.replicate 16 [iac, 0xf1] ++ []) := by
    simp [FitReads]
  have closed : (grab terminal (.ofMillis 5000) (.listening ⟨List.replicate 16 [iac, 0xf1], .closes⟩)).banner =
      .error (.closed terminal) := by
    have sixteen : (List.replicate 16 [iac, 0xf1]).length + 0 = 16 := List.length_replicate
    have grabbed := grab_declined terminal (.ofMillis 5000) .closes fit (by simp) declined sixteen
    rw [List.append_nil, onward_ended] at grabbed
    exact congrArg Grab.banner grabbed
  refine ⟨declined, closed, ?_⟩
  rw [closed]
  simp

end HostSurvey.Probe.Telnet
