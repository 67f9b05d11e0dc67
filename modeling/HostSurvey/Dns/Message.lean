import HostSurvey.Dns.Reader
/-!
# Messages

A message is a question or an answer: a header, questions, and three lists of records. Among the
additional records there may be one of options, which is no record of the message; it carries the high
bits of the response code.
-/
namespace HostSurvey.Dns

/-- How a server answered. -/
structure ResponseCode where
  /-- The number, of twelve bits. -/
  code : Nat
  deriving Repr, DecidableEq, Inhabited

namespace ResponseCode

/-- All went well. -/
def noError : ResponseCode := ⟨0⟩

/-- The texts of the known codes. -/
def texts : List (Nat × String) := [
  (0, "No Error"), (1, "Form Error"), (2, "Server Failure"), (3, "Non-Existent Domain"),
  (4, "Not Implemented"), (5, "Query Refused"), (6, "Name should not exist"),
  (7, "RR Set should not exist"), (8, "RR Set does not exist"), (9, "Not authorized"),
  (10, "Name not in zone"), (16, "TSIG Failure"), (17, "Key not recognized"),
  (18, "Signature out of time window"), (19, "Bad TKEY mode"), (20, "Duplicate key name"),
  (21, "Algorithm not supported"), (22, "Bad truncation"), (23, "Bad server cookie")]

/-- The text of a code. -/
def text (c : ResponseCode) : String :=
  (texts.lookup c.code).getD "Unknown response code"

end ResponseCode

/-- A question: what records of a type and class there are for a name. -/
structure Question where
  name : Name
  type : RecordType
  recordClass : RecordClass
  deriving DecidableEq

/-- A question or an answer of the name system. -/
structure Message where
  /-- The number that an answer repeats. -/
  id : UInt16
  isResponse : Bool
  opcode : Nat
  responseCode : ResponseCode
  questions : List Question
  answers : List Record
  /-- The records that tell who knows more. -/
  authorities : List Record
  /-- Further records, without that of the options. -/
  additionals : List Record
  deriving DecidableEq

namespace Message

open Reader

/-- A question as it is read. -/
def question (message : Bytes) : Reader Question := do
  let name ← name message
  let type ← word
  return ⟨name, ⟨type⟩, ⟨← word⟩⟩

/-- What may be wanted: a query, the state of the server, a notice of change or an update. -/
def opcodes : List Nat := [0, 2, 4, 5]

/-- A message as it is read. -/
def reader (message : Bytes) : Reader Message := do
  let id ← word
  let flags := (← word).toNat
  let opcode := flags / 0x800 % 16
  if !opcodes.contains opcode then failure
  let questionCount := (← word).toNat
  let answerCount := (← word).toNat
  let authorityCount := (← word).toNat
  let additionalCount := (← word).toNat
  let questions ← times questionCount (question message)
  let answers ← times answerCount (record message)
  let authorities ← times authorityCount (record message)
  let additionals ← times additionalCount (record message)
  let (options, additionals) := additionals.partition (·.type = .opt)
  if 1 < options.length then failure
  let high := (options.head?.map fun r => r.ttl.toNat / 0x1000000).getD 0
  return {
    id, isResponse := 0x8000 ≤ flags, opcode, responseCode := ⟨16 * high + flags % 16⟩,
    questions, answers, authorities, additionals }

/-- The message that bytes carry. What follows the last record does not matter. -/
def decode? (bytes : Bytes) : Option Message :=
  (reader bytes bytes).map Prod.fst

end Message
end HostSurvey.Dns
