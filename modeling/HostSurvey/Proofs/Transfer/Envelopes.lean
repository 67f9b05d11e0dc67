import HostSurvey.Transfer.Session
import Mathlib.Data.List.Basic
/-!
# The envelopes of a session

What a session yields, told by what the server sends: a list of messages, and what comes where there is no
further one (`receiveAll`).

1. A message that bears another number, or reports a failure, is no part of a zone. The messages in front of
   the first such one are proper.
2. Of these, a zone takes all up to the one that it is over with: the first one without records, or with the
   second start of the zone (`lastPlace`). These are accepted.
3. A session yields the records of the accepted messages, one message after the other, then an error if the
   server failed before the zone was over, and then nothing (`envelopes_eq`, `reply_eq`).
-/
namespace HostSurvey

open Net Dns

/-! ## Messages, and what ends them -/

namespace Dns

variable {μ : Type} {decode : Bytes → Option μ}

/-- Where no message comes, something else does. -/
theorem receiveAll_nil {stream : Stream} {last : Received μ} (received : receiveAll decode stream = ([], last)) :
    receive decode stream = last ∧ ∀ m rest, last ≠ .message m rest := by
  rw [receiveAll] at received
  split at received
  · cases received
  · rename_i other
    cases received
    exact ⟨rfl, other⟩

theorem receiveAll_cons {stream : Stream} {m : μ} {more : List μ} {last : Received μ}
    (received : receiveAll decode stream = (m :: more, last)) :
    ∃ rest, receive decode stream = .message m rest ∧ receiveAll decode rest = (more, last) := by
  rw [receiveAll] at received
  split at received
  · rename_i first rest found
    cases received
    exact ⟨rest, found, rfl⟩
  · cases received

theorem receiveAll_message {stream rest : Stream} {m : μ} (came : receive decode stream = .message m rest) :
    receiveAll decode stream = (m :: (receiveAll decode rest).1, (receiveAll decode rest).2) := by
  rw [receiveAll]
  split
  · rename_i first others found
    cases came.symm.trans found
    rfl
  · rename_i other
    exact absurd came (other m rest)

/-- Where the messages end, there is no further one. -/
theorem receiveAll_last {stream : Stream} {messages : List μ} {last : Received μ}
    (received : receiveAll decode stream = (messages, last)) : ∀ m rest, last ≠ .message m rest := by
  induction messages generalizing stream with
  | nil => exact (receiveAll_nil received).2
  | cons m more ih =>
    obtain ⟨rest, _, onward⟩ := receiveAll_cons received
    exact ih onward

end Dns

namespace Transfer

/-! ## The messages of a zone -/

/-- A message that bears the number of a request and reports no failure. -/
def isProper (id : UInt16) (m : Message) : Bool :=
  m.id = id && m.responseCode = .noError

/-- Whether a zone is over with the message at a place: it has no records, or two starts have come by then.
Some starts may have come before all messages. -/
def isOverAt (starts : Nat) (messages : List Message) (place : Nat) : Bool :=
  messages[place]?.any (·.answers.isEmpty) ||
    2 ≤ starts + Session.countStarts ((messages.take (place + 1)).flatMap (·.answers))

/-- The first place that a zone is over with; if there is none, the number of messages. -/
def lastPlace (starts : Nat) (messages : List Message) : Nat :=
  (List.range messages.length).findIdx (isOverAt starts messages)

namespace Session

variable {dns : Library} {s t : Session}

/-- The proper messages, up to the first one that is not. -/
def proper (s : Session) (messages : List Message) : List Message :=
  messages.takeWhile (isProper s.id)

/-- The messages that make up a zone. -/
def accepted (s : Session) (messages : List Message) : List Message :=
  (s.proper messages).take (lastPlace s.starts (s.proper messages) + 1)

/-- What is wrong with a message, if it is not proper. -/
def objection? (dns : Library) (s : Session) (m : Message) : Option Error :=
  match (s.accept dns m).1 with
  | .error e => some e
  | .ok _ => none

/-- What is wrong with the end of the messages, if it is not one. -/
def interruption? (s : Session) : Received Message → Option Error
  | .failed e _ => some e
  | .silence => some (.timeout s.server s.limit)
  | _ => none

/-- What goes wrong before the zone is over, if something does. -/
def failure? (dns : Library) (s : Session) (messages : List Message) (last : Received Message) : Option Error :=
  if lastPlace s.starts (s.proper messages) < (s.proper messages).length then none
  else match messages.dropWhile (isProper s.id) with
    | m :: _ => s.objection? dns m
    | [] => s.interruption? last

/-! ## One message more -/

theorem isOverAt_succ (starts : Nat) (m : Message) (rest : List Message) (place : Nat) :
    isOverAt starts (m :: rest) (place + 1) = isOverAt (starts + countStarts m.answers) rest place := by
  simp [isOverAt, countStarts, Nat.add_assoc]

theorem isOverAt_zero (starts : Nat) (m : Message) (rest : List Message) :
    isOverAt starts (m :: rest) 0 = (m.answers.isEmpty || 2 ≤ starts + countStarts m.answers) := by
  simp [isOverAt]

theorem lastPlace_cons (starts : Nat) (m : Message) (rest : List Message) :
    lastPlace starts (m :: rest) =
      if m.answers.isEmpty || 2 ≤ starts + countStarts m.answers then 0
      else lastPlace (starts + countStarts m.answers) rest + 1 := by
  unfold lastPlace
  have shifted : isOverAt starts (m :: rest) ∘ Nat.succ = isOverAt (starts + countStarts m.answers) rest :=
    funext fun place => isOverAt_succ starts m rest place
  rw [List.length_cons, List.range_succ_eq_map, List.findIdx_cons, isOverAt_zero, List.findIdx_map, shifted]
  exact Bool.cond_eq_ite ..

/-- The session goes on behind a message, with the starts of the zone that it has counted. -/
def behind (s : Session) (m : Message) (rest : Stream) : Session :=
  { s with stream := rest, starts := s.starts + countStarts m.answers }

/-- What is wrong with a message does not depend on what came before. -/
theorem objection?_behind (s : Session) (m other : Message) (rest : Stream) :
    (s.behind m rest).objection? dns other = s.objection? dns other := by
  by_cases named : other.id = s.id <;> by_cases fine : other.responseCode = .noError <;>
    simp [objection?, accept, behind, named, fine]

section Messages
variable {m : Message} (more : List Message) (last : Received Message)

theorem proper_cons (proper : isProper s.id m = true) : s.proper (m :: more) = m :: s.proper more :=
  List.takeWhile_cons_of_pos proper

theorem proper_nil (improper : isProper s.id m = false) : s.proper (m :: more) = [] :=
  List.takeWhile_cons_of_neg (by simp [improper])

/-- A message that is not proper ends the session. -/
theorem improper_ends (improper : isProper s.id m = false) :
    s.accepted (m :: more) = [] ∧ s.failure? dns (m :: more) last = s.objection? dns m := by
  have first : (m :: more).dropWhile (isProper s.id) = m :: more := List.dropWhile_cons_of_neg (by simp [improper])
  unfold accepted failure?
  rw [proper_nil more improper, first]
  exact ⟨rfl, rfl⟩

/-- The zone is over with this message. -/
theorem over_ends (proper : isProper s.id m = true)
    (isLast : (m.answers.isEmpty || 2 ≤ s.starts + countStarts m.answers) = true) :
    s.accepted (m :: more) = [m] ∧ s.failure? dns (m :: more) last = none := by
  unfold accepted failure?
  rw [proper_cons more proper, lastPlace_cons, if_pos isLast]
  exact ⟨rfl, if_pos (Nat.succ_pos _)⟩

/-- The zone goes on behind this message. -/
theorem goes_on (rest : Stream) (proper : isProper s.id m = true)
    (on : (m.answers.isEmpty || 2 ≤ s.starts + countStarts m.answers) = false) :
    s.accepted (m :: more) = m :: (s.behind m rest).accepted more ∧
      s.failure? dns (m :: more) last = (s.behind m rest).failure? dns more last := by
  have same : (s.behind m rest).proper more = s.proper more := rfl
  have first : (m :: more).dropWhile (isProper s.id) = more.dropWhile (isProper s.id) :=
    List.dropWhile_cons_of_pos proper
  unfold accepted failure?
  rw [proper_cons more proper, lastPlace_cons, if_neg (by simp [on]), same, first]
  refine ⟨rfl, ?_⟩
  simp only [List.length_cons, Nat.add_lt_add_iff_right, objection?_behind]
  rfl

end Messages

/-! ## What is yielded -/

theorem accept_proper {m : Message} (proper : isProper s.id m = true) : s.accept dns m =
    (.ok m.answers, { s with
      starts := s.starts + countStarts m.answers
      isOver := m.answers.isEmpty || 2 ≤ s.starts + countStarts m.answers }) := by
  simp only [isProper, Bool.and_eq_true, decide_eq_true_eq] at proper
  simp only [accept, proper.1, proper.2, ne_eq, not_true_eq_false, if_false]

/-- A message that is not proper is refused, whatever comes behind it. -/
theorem accept_improper (dns : Library) {m : Message} (improper : isProper s.id m = false) :
    ∃ e, s.objection? dns m = some e ∧
      ∀ rest, accept dns { s with stream := rest } m = (.error e, { s with stream := rest }) := by
  by_cases named : m.id = s.id
  · by_cases fine : m.responseCode = .noError
    · simp [isProper, named, fine] at improper
    · simp [objection?, accept, named, fine]
  · simp [objection?, accept, named]

theorem envelopes_none (none : s.next dns = (none, t)) : s.envelopes dns = [] := by
  rw [envelopes]
  split
  · rfl
  · rename_i found
    rw [none] at found
    cases found

theorem envelopes_some {envelope : Envelope} (found : s.next dns = (some envelope, t)) :
    s.envelopes dns = envelope :: t.envelopes dns := by
  rw [envelopes]
  split
  · rename_i none
    rw [found] at none
    cases none
  · rename_i also
    rw [found] at also
    cases also
    rfl

theorem envelopes_over (isLast : s.isOver = true) : s.envelopes dns = [] :=
  envelopes_none (t := s) (by simp [next, isLast])

/-- **What a session yields.** The records of each accepted message, one message after the other, and then an
error if something went wrong before the zone was over. -/
theorem envelopes_eq (s : Session) (goes : s.isOver = false) :
    s.envelopes dns = (s.accepted (receiveAll dns.decode? s.stream).1).map (fun m => .ok m.answers) ++
      (s.failure? dns (receiveAll dns.decode? s.stream).1 (receiveAll dns.decode? s.stream).2).toList.map .error := by
  generalize received : receiveAll dns.decode? s.stream = all
  obtain ⟨messages, last⟩ := all
  -- Behind each message there is a session again, with more starts counted and one message less to come.
  induction messages generalizing s with
  | nil =>
    obtain ⟨rfl, other⟩ := receiveAll_nil received
    have nothing : s.accepted [] = [] ∧
        s.failure? dns [] (receive dns.decode? s.stream) = s.interruption? (receive dns.decode? s.stream) :=
      ⟨rfl, rfl⟩
    rw [nothing.1, nothing.2, List.map_nil, List.nil_append]
    cases came : receive dns.decode? s.stream with
    | message m rest => exact absurd came (other m rest)
    | ended => exact envelopes_none (t := { s with isOver := true }) (by simp [next, goes, read, came])
    | failed e rest =>
      have found : s.next dns = (some (.error e), { s with isOver := true }) := by simp [next, goes, read, came]
      rw [envelopes_some found, envelopes_over rfl]
      rfl
    | silence =>
      have found : s.next dns = (some (.error (.timeout s.server s.limit)), { s with isOver := true }) := by
        simp [next, goes, read, came]
      rw [envelopes_some found, envelopes_over rfl]
      rfl
  | cons m more ih =>
    obtain ⟨rest, came, onward⟩ := receiveAll_cons received
    have reading : s.read dns =
        (some (accept dns { s with stream := rest } m).1, (accept dns { s with stream := rest } m).2) := by
      simp only [read, came]
    cases proper : isProper s.id m with
    | false =>
      obtain ⟨none, failure⟩ := improper_ends more last proper
      obtain ⟨e, objected, refused⟩ := accept_improper dns proper
      rw [refused rest] at reading
      have found : s.next dns = (some (.error e), { s with stream := rest, isOver := true }) := by
        simp only [next, goes, reading, Bool.false_eq_true, if_false]
      rw [envelopes_some found, envelopes_over rfl, none, failure, objected]
      rfl
    | true =>
      rw [accept_proper (s := { s with stream := rest }) proper] at reading
      have found : s.next dns = (some (.ok m.answers), { s.behind m rest with
          isOver := m.answers.isEmpty || 2 ≤ s.starts + countStarts m.answers }) := by
        simp only [next, goes, reading, behind, Bool.false_eq_true, if_false]
      rw [envelopes_some found]
      cases isLast : m.answers.isEmpty || decide (2 ≤ s.starts + countStarts m.answers) with
      | true =>
        obtain ⟨only, none⟩ := over_ends more last proper isLast
        rw [envelopes_over rfl, only, none]
        rfl
      | false =>
        obtain ⟨first, later⟩ := goes_on more last rest proper isLast
        have same : ({ s.behind m rest with isOver := false } : Session) = s.behind m rest := by
          simp only [behind, goes]
        rw [same, first, later, ih (s.behind m rest) goes onward]
        rfl

/-! ## One call after the other -/

/-- What a call brings, counted from zero, when `next` is called again and again. -/
def reply (dns : Library) (s : Session) : Nat → Option Envelope
  | 0 => (s.next dns).1
  | n + 1 => (s.next dns).2.reply dns n

/-- A session that has nothing left is over. -/
theorem next_none (none : s.next dns = (none, t)) : t.isOver = true := by
  unfold next at none
  split at none
  · rename_i isLast
    cases none
    exact isLast
  · split at none <;> cases none
    rfl

/-- The calls bring the envelopes in order, and nothing for ever after. -/
theorem reply_eq (s : Session) (n : Nat) : s.reply dns n = (s.envelopes dns)[n]? := by
  induction n generalizing s with
  | zero =>
    cases found : s.next dns with
    | mk envelope t =>
      cases envelope with
      | none => simp [reply, found, envelopes_none found]
      | some envelope => simp [reply, found, envelopes_some found]
  | succ n ih =>
    cases found : s.next dns with
    | mk envelope t =>
      have later : s.reply dns (n + 1) = t.reply dns n := by simp [reply, found]
      rw [later, ih]
      cases envelope with
      | none => simp [envelopes_none found, envelopes_over (next_none found)]
      | some envelope => simp [envelopes_some found]

end Session
end Transfer
end HostSurvey
