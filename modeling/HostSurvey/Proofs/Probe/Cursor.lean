import HostSurvey.Proofs.Probe.Cuts
import Mathlib.Logic.Function.Iterate
/-!
# The cursor in a buffer

What waits from the last read and what the next one brings are put into one buffer, and a machine goes through it with
a cursor. It looks bytes up by their places, and a place behind the end is a fault.

1. A turn depends on what is behind the cursor alone, and never leads to a fault (`turn_behind`). It goes past one
   token (`turn_token`), or stops at a piece of a command or at a text (`turn_cut`, `turn_opening`).
2. So the turns go past the tokens one by one (`scanned_tokens`), and after one more the scan is over and stays where it
   is (`scanned_ends`). Each token takes up some of the buffer, which bounds the turns.
3. What they come to is what the read as a whole comes to, whatever was read before (`a_read_is_tokens_and_a_rest`).
-/
namespace HostSurvey.Probe.Telnet

/-! ## Turns -/

/-- The place of the first mark of an end in details. -/
def markPlace? (bytes : Bytes) : Option Nat := (bytes.zip bytes.tail).idxOf? (iac, se)

/-- How far a scan has come. -/
inductive Scan where
  /-- It goes on at a place. -/
  | going (place : Nat) (reply : Bytes)
  /-- It has stopped, and what begins at the place waits. -/
  | stopped (place : Nat) (reply : Bytes)
  /-- The text begins at the place. -/
  | spoken (place : Nat) (reply : Bytes)
  /-- It looked behind the end of the buffer. -/
  | fault
  deriving Repr, DecidableEq

/-- One turn of a scan. Whether there is a second and a third byte is asked for before they are used. -/
def turn (buffer : Bytes) : Scan → Scan
  | .going place reply =>
    if buffer.length ≤ place then .stopped place reply
    else match buffer[place]? with
      | none => .fault
      | some b =>
        if b ≠ iac then
          if b < 0x80 then .spoken place reply else .going (place + 1) reply
        else match buffer[place + 1]? with
          | none => .stopped place reply
          | some command =>
            if isOffer command then
              match buffer[place + 2]? with
              | none => .stopped place reply
              | some option => .going (place + 3) (reply ++ [iac, refusal command, option])
            else if command = sb then
              if buffer.length < place + 2 then .fault
              else match markPlace? (buffer.drop (place + 2)) with
                | none => .stopped place reply
                | some offset => .going (place + 2 + offset + 2) reply
            else if command = iac then .spoken (place + 1) reply
            else .going (place + 2) reply
  | ended => ended

/-- How far a scan of a buffer has come after some turns. -/
def scanned (buffer : Bytes) (turns : Nat) : Scan := (turn buffer)^[turns] (.going 0 [])

namespace Scan

/-- The cursor is in the buffer or at its end. -/
def IsInside (buffer : Bytes) : Scan → Prop
  | .going place _ | .stopped place _ | .spoken place _ => place ≤ buffer.length
  | .fault => False

/-- What a scan that is over comes to. -/
def outcome? (n : Negotiator) (buffer : Bytes) : Scan → Option (Step × Negotiator)
  | .stopped place reply => some (.needMore reply, ⟨n.textFound, buffer.drop place⟩)
  | .spoken place reply => some (.text reply (buffer.drop place), ⟨true, []⟩)
  | .going _ _ | .fault => none

end Scan

/-! ## Marks -/

theorem markPlace?_cons (a : UInt8) (rest : Bytes) : markPlace? (a :: rest) =
    if a = iac ∧ rest.head? = some se then some 0 else (markPlace? rest).map (· + 1) := by
  cases rest with
  | nil => simp [markPlace?]
  | cons b more => simp [markPlace?, List.idxOf?_cons]

/-- What follows the end of details begins behind its mark. -/
theorem afterDetails_place (bytes : Bytes) :
    afterDetails bytes = (markPlace? bytes).map fun place => bytes.drop (place + 2) := by
  induction bytes with
  | nil => rfl
  | cons a rest ih =>
    rw [afterDetails_cons, markPlace?_cons]
    by_cases marked : a = iac ∧ rest.head? = some se
    · simp [marked]
    · simp [marked, ih, Function.comp_def]

theorem markPlace?_lt {bytes : Bytes} {place : Nat} (marked : markPlace? bytes = some place) :
    place + 2 ≤ bytes.length := by
  induction bytes generalizing place with
  | nil => cases marked
  | cons a rest ih =>
    rw [markPlace?_cons] at marked
    split at marked
    · rename_i here
      cases marked
      obtain ⟨more, rfl⟩ := List.head?_eq_some_iff.mp here.2
      simp
    · obtain ⟨earlier, found, rfl⟩ := Option.map_eq_some_iff.mp marked
      have inside := ih found
      simp only [List.length_cons]
      omega

theorem markPlace?_encode {payload : Bytes} (unmarked : ¬ [iac, se] <:+: payload) (rest : Bytes) :
    markPlace? (payload ++ iac :: se :: rest) = some payload.length := by
  have ended := afterDetails_encode unmarked rest
  rw [afterDetails_place] at ended
  obtain ⟨place, marked, behind⟩ := Option.map_eq_some_iff.mp ended
  have inside := markPlace?_lt marked
  have lengths := congrArg List.length behind
  simp only [List.length_drop, List.length_append, List.length_cons] at lengths inside
  have same : place = payload.length := by omega
  rw [marked, same]

theorem markPlace?_eq_none {bytes : Bytes} (unmarked : ¬ [iac, se] <:+: bytes) : markPlace? bytes = none := by
  have ended := afterDetails_eq_none.mpr unmarked
  rwa [afterDetails_place, Option.map_eq_none_iff] at ended

/-! ## What a turn comes to -/

theorem isOffer_code (kind : Offer) : isOffer kind.code = true := by cases kind <;> rfl

theorem isOffer_sb : isOffer sb = false := rfl

theorem refusal_code (kind : Offer) : refusal kind.code = kind.declined := by cases kind <;> rfl

section Turn
variable {front rest reply : Bytes}

/-- A turn depends on what is behind the cursor, and is no fault. -/
theorem turn_behind : turn (front ++ rest) (.going front.length reply) =
    match rest with
    | [] => .stopped front.length reply
    | b :: more =>
      if b ≠ iac then
        if b < 0x80 then .spoken front.length reply else .going (front.length + 1) reply
      else match more with
        | [] => .stopped front.length reply
        | command :: details =>
          if isOffer command then
            match details with
            | [] => .stopped front.length reply
            | option :: _ => .going (front.length + 3) (reply ++ [iac, refusal command, option])
          else if command = sb then
            match markPlace? details with
            | none => .stopped front.length reply
            | some offset => .going (front.length + 2 + offset + 2) reply
          else if command = iac then .spoken (front.length + 1) reply
          else .going (front.length + 2) reply := by
  unfold turn
  cases rest with
  | nil => simp
  | cons b more =>
    have first : (front ++ b :: more)[front.length]? = some b := by simp
    have second : (front ++ b :: more)[front.length + 1]? = more[0]? := by simp [List.getElem?_append_right]
    have third : (front ++ b :: more)[front.length + 2]? = more[1]? := by simp [List.getElem?_append_right]
    have inside : ¬ (front ++ b :: more).length ≤ front.length := by simp
    have slice : (front ++ b :: more).drop (front.length + 2) = more.drop 1 := by simp [List.drop_append]
    simp only [first, second, third, slice, if_neg inside]
    cases more with
    | nil => rfl
    | cons command details =>
      have enough : ¬ (front ++ b :: command :: details).length < front.length + 2 := by simp
      simp only [List.getElem?_cons_zero, if_neg enough, List.drop_one, List.tail_cons]
      cases details <;> rfl

/-- A turn goes past a token. -/
theorem turn_token (token : Token) : turn (front ++ (token.encode ++ rest)) (.going front.length reply) =
    .going (front ++ token.encode).length (reply ++ token.answer) := by
  rw [turn_behind]
  cases token with
  | offer kind option => simp [Token.encode, Token.answer, isOffer_code, refusal_code]
  | command code other =>
    simp only [Offer.all, Offer.code, List.map_cons, List.map_nil, List.mem_cons, List.not_mem_nil, or_false,
      not_or] at other
    simp [Token.encode, Token.answer, isOffer, other]
  | details payload unmarked =>
    have marked := markPlace?_encode unmarked rest
    have past : (front ++ (Token.details payload unmarked).encode).length = front.length + 2 + payload.length + 2 := by
      simp only [Token.encode, List.length_append, List.length_cons, List.length_nil]
      omega
    rw [past]
    simp [Token.encode, Token.answer, marked, isOffer_sb]
  | stray b high other =>
    have notLow : ¬ b < 0x80 := UInt8.not_lt.mpr high
    simp [Token.encode, Token.answer, other, notLow]

/-- A turn stops at a piece of a command. -/
theorem turn_cut (cut : IsCut rest) :
    turn (front ++ rest) (.going front.length reply) = .stopped front.length reply := by
  rw [turn_behind]
  cases cut with
  | nothing => rfl
  | command => rfl
  | option kind => cases kind <;> rfl
  | details unmarked => simp [markPlace?_eq_none unmarked, isOffer_sb]

/-- A turn finds the text. -/
theorem turn_opening (front reply : Bytes) (opening : Opening) : ∃ place, place ≤ (front ++ opening.encode).length ∧
    turn (front ++ opening.encode) (.going front.length reply) = .spoken place reply ∧
      (front ++ opening.encode).drop place = opening.text := by
  rw [turn_behind]
  cases opening with
  | plain b low more =>
    have other : b ≠ iac := by
      rintro rfl
      exact absurd low (by decide)
    refine ⟨front.length, by simp, ?_, by simp [Opening.encode, Opening.text]⟩
    simp [Opening.encode, other, low]
  | escaped more => exact ⟨front.length + 1, by simp [Opening.encode], rfl, by simp [Opening.encode, Opening.text]⟩

end Turn

/-! ## Turns in a row -/

/-- Some turns go past as many tokens. -/
theorem turns_tokens (tokens : List Token) (front rest reply : Bytes) :
    (turn (front ++ (encode tokens ++ rest)))^[tokens.length] (.going front.length reply) =
      .going (front ++ encode tokens).length (reply ++ answers tokens) := by
  induction tokens generalizing front reply with
  | nil => simp [encode, answers]
  | cons token later ih =>
    have split : front ++ (encode (token :: later) ++ rest) = front ++ (token.encode ++ (encode later ++ rest)) := by
      simp [encode]
    rw [List.length_cons, Function.iterate_succ_apply, split, turn_token, ← List.append_assoc, ih]
    simp [encode, answers]

theorem Token.encode_length (token : Token) : 0 < token.encode.length := by
  cases token <;> simp [Token.encode]

/-- Each token takes up some bytes. -/
theorem length_le_encode (tokens : List Token) : tokens.length ≤ (encode tokens).length := by
  induction tokens with
  | nil => exact Nat.le_refl _
  | cons token later ih =>
    have some := token.encode_length
    simp only [encode, List.flatMap_cons, List.length_append, List.length_cons] at ih ⊢
    omega

/-- What is read of tokens and a piece of a command. -/
theorem feed_cut {n : Negotiator} {bytes rest : Bytes} {tokens : List Token}
    (parts : n.pending ++ bytes = encode tokens ++ rest) (cut : IsCut rest) :
    n.feed bytes = (.needMore (answers tokens), ⟨n.textFound, rest⟩) := by
  unfold Negotiator.feed
  rw [parts, negotiate_encode, negotiate_cut cut, List.append_nil]

/-- What is read of tokens and a text. -/
theorem feed_opening {n : Negotiator} {bytes : Bytes} {tokens : List Token} {opening : Opening}
    (parts : n.pending ++ bytes = encode tokens ++ opening.encode) :
    n.feed bytes = (.text (answers tokens) opening.text, ⟨true, []⟩) := by
  unfold Negotiator.feed
  rw [parts, negotiate_encode, negotiate_opening, List.append_nil]

theorem encode_split (tokens : List Token) (turns : Nat) :
    encode tokens = encode (tokens.take turns) ++ encode (tokens.drop turns) := by
  rw [encode, encode, encode, ← List.flatMap_append, List.take_append_drop]

/-- As long as there are tokens left, each turn goes past one of them. -/
theorem scanned_tokens {tokens : List Token} {rest : Bytes} {turns : Nat} (left : turns ≤ tokens.length) :
    scanned (encode tokens ++ rest) turns =
      .going (encode (tokens.take turns)).length (answers (tokens.take turns)) := by
  have passed := turns_tokens (tokens.take turns) [] (encode (tokens.drop turns) ++ rest) []
  rw [List.length_take, Nat.min_eq_left left, List.nil_append, List.nil_append, ← List.append_assoc,
    ← encode_split] at passed
  exact passed

/-- A scan that is over stays where it is. -/
theorem turns_ended {buffer : Bytes} {last : Scan} {n : Negotiator} {result : Step × Negotiator}
    (ended : last.outcome? n buffer = some result) (turns : Nat) : (turn buffer)^[turns] last = last := by
  refine Function.iterate_fixed ?_ turns
  cases last with
  | going place reply => cases ended
  | _ => rfl

section Read
variable {n : Negotiator} {bytes rest : Bytes} {tokens : List Token}

/-- One turn after the last token the scan is over, and comes to what is read. -/
theorem turn_last (parts : n.pending ++ bytes = encode tokens ++ rest)
    (stops : IsCut rest ∨ ∃ opening : Opening, rest = opening.encode) :
    ∃ last : Scan, turn (n.pending ++ bytes) (.going (encode tokens).length (answers tokens)) = last ∧
      last.IsInside (n.pending ++ bytes) ∧ last.outcome? n (n.pending ++ bytes) = some (n.feed bytes) := by
  rcases stops with cut | ⟨opening, rfl⟩
  · rw [feed_cut parts cut, parts]
    exact ⟨_, turn_cut cut, by simp [Scan.IsInside], by simp [Scan.outcome?]⟩
  · rw [feed_opening parts, parts]
    obtain ⟨place, inside, turned, text⟩ := turn_opening (encode tokens) (answers tokens) opening
    exact ⟨_, turned, inside, by simp [Scan.outcome?, text]⟩

theorem scanned_ends (parts : n.pending ++ bytes = encode tokens ++ rest)
    (stops : IsCut rest ∨ ∃ opening : Opening, rest = opening.encode) {turns : Nat} (enough : tokens.length < turns) :
    (scanned (n.pending ++ bytes) turns).IsInside (n.pending ++ bytes) ∧
      (scanned (n.pending ++ bytes) turns).outcome? n (n.pending ++ bytes) = some (n.feed bytes) := by
  obtain ⟨last, turned, inside, outcome⟩ := turn_last parts stops
  obtain ⟨more, rfl⟩ := Nat.exists_eq_add_of_lt enough
  have passed : scanned (n.pending ++ bytes) tokens.length = .going (encode tokens).length (answers tokens) := by
    rw [parts, scanned_tokens (Nat.le_refl _), List.take_length]
  have reached : scanned (n.pending ++ bytes) (tokens.length + more + 1) = last := by
    have order : tokens.length + more + 1 = more + (tokens.length + 1) := by omega
    rw [scanned, order, Function.iterate_add_apply, Function.iterate_succ_apply', ← scanned, passed, turned,
      turns_ended outcome]
  rw [reached]
  exact ⟨inside, outcome⟩

end Read

/-! ## The main theorem -/

/-- What is true of a read into a negotiation. The buffer is what waits and what the read brings. -/
structure IsTakenApart (n : Negotiator) (bytes : Bytes) : Prop where
  /-- Whenever it is looked at, the cursor is in the buffer or at its end. -/
  inside : ∀ turns, (scanned (n.pending ++ bytes) turns).IsInside (n.pending ++ bytes)
  /-- After one turn more than there are bytes at the latest, the scan is over. -/
  ends : ∀ turns, (n.pending ++ bytes).length < turns →
    (scanned (n.pending ++ bytes) turns).outcome? n (n.pending ++ bytes) = some (n.feed bytes)
  /-- What waits then is at most one command, which is not complete. -/
  waits : IsCut (n.feed bytes).2.pending
  /-- Nothing waits behind a text. -/
  silent : ∀ reply text next, n.feed bytes = (.text reply text, next) → next.pending = []
  /-- The buffer consists of tokens, past which the cursor goes one by one, and a rest. The rest is either what waits,
  or the text. -/
  parts : ∃ tokens rest, n.pending ++ bytes = encode tokens ++ rest ∧
    (∀ turns ≤ tokens.length, scanned (n.pending ++ bytes) turns =
      .going (encode (tokens.take turns)).length (answers (tokens.take turns))) ∧
    (n.feed bytes = (.needMore (answers tokens), ⟨n.textFound, rest⟩) ∨
      ∃ opening : Opening, rest = opening.encode ∧ n.feed bytes = (.text (answers tokens) opening.text, ⟨true, []⟩))

/-- **A read is tokens and a rest.** Whatever was read before, at most one command waits, which is not complete. The
next read is gone through in finitely many turns, and the cursor never gets behind the end of the buffer. Its bytes are
tokens, each as a whole, and behind them either a text, or a piece of a command that waits from now on. -/
theorem a_read_is_tokens_and_a_rest (before : List Bytes) :
    IsCut (Negotiator.fresh.afterReads before).pending ∧
      ∀ bytes, IsTakenApart (Negotiator.fresh.afterReads before) bytes := by
  refine ⟨Negotiator.isCut_afterReads .nothing before, fun bytes => ?_⟩
  generalize Negotiator.fresh.afterReads before = n
  obtain ⟨tokens, rest, parts, stops⟩ := bytes_are_tokens (n.pending ++ bytes)
  have few : tokens.length ≤ (n.pending ++ bytes).length := by
    rw [parts, List.length_append]
    exact Nat.le_add_right_of_le (length_le_encode tokens)
  refine ⟨?_, ?_, Negotiator.isCut_feed n bytes, ?_, ?_⟩
  · intro turns
    rcases Nat.lt_or_ge tokens.length turns with past | left
    · exact (scanned_ends parts stops past).1
    · rw [parts, scanned_tokens left, encode_split tokens turns, List.append_assoc]
      exact Nat.le_trans (Nat.le_add_right _ _) (Nat.le_of_eq List.length_append.symm)
  · intro turns enough
    exact (scanned_ends parts stops (by omega)).2
  · intro reply text next read
    rw [(Negotiator.feed_text read).2]
  · refine ⟨tokens, rest, parts, fun turns left => ?_, ?_⟩
    · rw [parts, scanned_tokens left]
    · rcases stops with cut | ⟨opening, rfl⟩
      · exact .inl (feed_cut parts cut)
      · exact .inr ⟨opening, rfl, feed_opening parts⟩

/-- A byte that means nothing, an offer, and details whose end is still to come. -/
example : scanned [0x90, iac, will, 1, iac, sb, 0x18, iac] 3 = .stopped 4 [iac, dont, 1] := by
  cbv

end HostSurvey.Probe.Telnet
