import HostSurvey.Dns.Frame
/-!
# Sessions

A server that is asked for a zone sends it in envelopes: messages with records. The zone begins and ends
with the record of its start.

1. `next` yields one envelope after the other and then nothing for ever.
2. An envelope that cannot be had is an error, and the last thing that a session yields.
3. The session is over with the second start of a zone, with an empty envelope, or where the server
   closes its side.
-/
namespace HostSurvey.Transfer

open Net Dns

/-- A request for a zone that a server is answering (`Axfr`). -/
structure Session where
  /-- The zone, as it was asked for. -/
  zone : String
  server : Endpoint
  /-- How long the server may take for one envelope. -/
  limit : Elapsed
  id : UInt16
  stream : Stream
  /-- How many starts of a zone have come. -/
  starts : Nat
  isOver : Bool
  deriving Repr

/-- The records of an envelope, or why there are none. -/
abbrev Envelope := Except Error (List Record)

namespace Session

/-- How many starts of a zone are among records. -/
def countStarts (records : List Record) : Nat :=
  records.countP (·.type = .soa)

/-- Takes a message as an envelope. -/
def accept (dns : Library) (s : Session) (m : Message) : Envelope × Session :=
  if m.id ≠ s.id then
    (.error (.transfer s.zone (s.server.text ++ " answered with unexpected id " ++
      toString m.id.toNat)), s)
  else if m.responseCode ≠ .noError then
    (.error (.transfer s.zone (s.server.text ++ " answered " ++ dns.codeText m.responseCode)), s)
  else
    let starts := s.starts + countStarts m.answers
    (.ok m.answers, { s with starts, isOver := m.answers.isEmpty || 2 ≤ starts })

/-- Reads an envelope from a session that is not over (`read_envelope`). -/
def read (dns : Library) (s : Session) : Option Envelope × Session :=
  match receive dns.decode? s.stream with
  | .silence => (some (.error (.timeout s.server s.limit)), s)
  | .failed e _ => (some (.error e), s)
  | .ended => (none, s)
  | .message m rest =>
    let (envelope, s) := accept dns { s with stream := rest } m
    (some envelope, s)

/-- The next envelope, if there is one (`next_envelope`). -/
def next (dns : Library) (s : Session) : Option Envelope × Session :=
  if s.isOver then (none, s)
  else match s.read dns with
    | (some (.ok records), s) => (some (.ok records), s)
    | (other, s) => (other, { s with isOver := true })

/-- How much may still come. -/
def size (s : Session) : Nat :=
  if s.isOver then 0 else s.stream.all.length + 1

theorem accept_stream (dns : Library) (s : Session) (m : Message) : (s.accept dns m).2.stream = s.stream := by
  unfold accept
  split
  · rfl
  · split <;> rfl

theorem next_size {dns : Library} {s t : Session} {envelope : Envelope} (h : s.next dns = (some envelope, t)) :
    t.size < s.size := by
  unfold next at h
  split at h
  · simp at h
  · rename_i open'
    have positive : s.size = s.stream.all.length + 1 := by simp [size, open']
    split at h
    · rename_i records u found
      injection h with _ h
      subst h
      unfold read at found
      split at found
      · simp at found
      · simp at found
      · simp at found
      · rename_i m rest got
        have shorter := receive_message_length got
        injection found with _ found
        have same : u.stream = rest := by
          rw [← found]
          exact accept_stream dns { s with stream := rest } m
        have : u.size ≤ u.stream.all.length + 1 := by unfold size; split <;> omega
        rw [same] at this
        omega
    · injection h with _ h
      subst h
      rw [positive]
      simp [size]

/-- All envelopes that come. -/
def envelopes (dns : Library) (s : Session) : List Envelope :=
  match _h : s.next dns with
  | (none, _) => []
  | (some envelope, t) => envelope :: envelopes dns t
termination_by s.size
decreasing_by exact next_size _h

end Session
end HostSurvey.Transfer
