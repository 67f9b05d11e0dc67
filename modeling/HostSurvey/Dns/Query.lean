import HostSurvey.Dns.Message
/-!
# Queries

The message that asks: a header that asks for no recursion, and questions. A name that was written
before, or whose tail was, is written as a pointer to that place.
-/
namespace HostSurvey.Dns

/-- The two bytes of a number, the high one first. -/
def wordBytes (n : Nat) : Bytes :=
  [UInt8.ofNat (n / 256 % 256), UInt8.ofNat (n % 256)]

/-- Where lists of labels were written. -/
abbrev Places := List (List Bytes × Nat)

/-- Writes labels at the place `offset`. A pointer has 14 bits, so only what stands low enough is
noted. -/
def encodeLabels (places : Places) (offset : Nat) : List Bytes → Bytes × Places
  | [] => ([0], [])
  | label :: rest =>
    match places.lookup (label :: rest) with
    | some place => (wordBytes (0xc000 + place), [])
    | none =>
      let (bytes, noted) := encodeLabels places (offset + label.length + 1) rest
      (UInt8.ofNat label.length :: label ++ bytes,
        if offset < 0x3fff then (label :: rest, offset) :: noted else noted)

/-- Writes questions behind what is there already. -/
def encodeQuestions (places : Places) (offset : Nat) : List Question → Bytes
  | [] => []
  | q :: rest =>
    let (name, noted) := encodeLabels places offset q.name.labels
    let bytes := name ++ wordBytes q.type.code.toNat ++ wordBytes q.recordClass.code.toNat
    bytes ++ encodeQuestions (places ++ noted) (offset + bytes.length) rest

/-- A message that asks questions, if it has room in 65535 bytes. -/
def encodeQuery? (id : UInt16) (questions : List Question) : Option Bytes :=
  let bytes := wordBytes id.toNat ++ wordBytes 0 ++ wordBytes questions.length ++ wordBytes 0 ++
    wordBytes 0 ++ wordBytes 0 ++ encodeQuestions [] 12 questions
  if bytes.length < 65536 then some bytes else none

/-- The message that asks one question. It always has room. -/
def Question.query (q : Question) (id : UInt16) : Bytes :=
  (encodeQuery? id [q]).getD []

end HostSurvey.Dns
