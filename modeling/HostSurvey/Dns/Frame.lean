import HostSurvey.Dns.Library
import HostSurvey.Error
import HostSurvey.Net.Stream
/-!
# Messages on a connection

On a connection each message has its length in front, in two bytes.

1. A stream that ends where a length should stand has ended well.
2. A stream that ends within a message is cut short.
3. A message takes its own bytes from the stream and no others, however the stream was cut.

How messages are encoded and decoded is of no account here: `encode` and `decode` are parameters.
-/
namespace HostSurvey.Dns

open HostSurvey.Net

variable {μ : Type}

/-- Bytes with their length in front. -/
def framed (bytes : Bytes) : Bytes :=
  wordBytes bytes.length ++ bytes

/-- Bytes with their length in front, unless they are more than two bytes can say. -/
def framed? (bytes : Bytes) : Option Bytes :=
  if bytes.length < 65536 then some (framed bytes) else none

/-- Writes a message behind what was sent before, and tells whether that went well (`write_message`). `encode` encodes
it, if it can. A message goes out whole or not at all. -/
def write (encode : μ → Option Bytes) (m : μ) (sent : Bytes) : Bool × Bytes :=
  match (encode m).bind framed? with
  | some frame => (true, sent ++ frame)
  | none => (false, sent)

/-- What comes next on a connection. -/
inductive Received (μ : Type) where
  | message (m : μ) (rest : Stream)
  /-- The peer has closed its side; no message is under way. -/
  | ended
  /-- A message that cannot be had, and what comes behind it. -/
  | failed (error : Error) (rest : Stream)
  /-- Nothing comes for ever. -/
  | silence

/-- The number that two bytes make up. -/
def wordValue : Bytes → Nat
  | [high, low] => 256 * high.toNat + low.toNat
  | _ => 0

theorem wordValue_wordBytes {n : Nat} (h : n < 65536) : wordValue (wordBytes n) = n := by
  simp only [wordValue, wordBytes, UInt8.toNat_ofNat']
  omega

/-- Reads the next message (`read_message`). -/
def receive (decode : Bytes → Option μ) (s : Stream) : Received μ :=
  match s.collect 2 with
  | .closed => .ended
  | .silence => .silence
  | .bytes head rest =>
    match rest.collect (wordValue head) with
    | .closed => .failed (.stream .cutShort) ⟨[], s.ending⟩
    | .silence => .silence
    | .bytes body rest =>
      match decode body with
      | some m => .message m rest
      | none => .failed .malformed rest

/-- What is left behind a message is shorter. -/
theorem receive_message_length {decode : Bytes → Option μ} {s rest : Stream} {m : μ}
    (h : receive decode s = .message m rest) :
    rest.all.length < s.all.length := by
  unfold receive at h
  split at h
  · contradiction
  · contradiction
  · rename_i head middle first
    split at h
    · contradiction
    · contradiction
    · rename_i body last second
      split at h
      · injection h with _ h
        subst h
        have whole := Stream.collect_eq first
        have tail := Stream.collect_eq second
        have sizes := congrArg List.length whole.2
        have more := congrArg List.length tail.2
        simp only [List.length_append] at sizes more
        omega
      · contradiction

/-- The messages of a connection, and what comes where there is no further one. -/
def receiveAll (decode : Bytes → Option μ) (s : Stream) : List μ × Received μ :=
  match _h : receive decode s with
  | .message m rest =>
    let (more, last) := receiveAll decode rest
    (m :: more, last)
  | other => ([], other)
termination_by s.all.length
decreasing_by exact receive_message_length _h

end HostSurvey.Dns
