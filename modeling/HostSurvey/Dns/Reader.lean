import HostSurvey.Dns.Record
/-!
# Reading the wire

A reader takes what it wants from the front of a sequence of bytes, or fails. Numbers stand with the
highest byte first.

1. A name may end in a pointer to another place of the message. A pointer leads to a place before the
   labels in front of it, and the labels there end before these begin: so reading ends.
2. The data of a record takes exactly as many bytes as the record says.
-/
namespace HostSurvey.Dns

open HostSurvey.Net

/-- A step that takes bytes from the front. -/
abbrev Reader := StateT Bytes Option

namespace Reader

def byte : Reader UInt8
  | [] => none
  | b :: rest => some (b, rest)

def take (count : Nat) : Reader Bytes := fun bytes =>
  if count ≤ bytes.length then some (bytes.take count, bytes.drop count) else none

/-- A number of two bytes. -/
def word : Reader UInt16 := do
  let high ← byte
  let low ← byte
  return UInt16.ofNat (256 * high.toNat + low.toNat)

/-- A number of four bytes. -/
def long : Reader UInt32 := do
  let high ← word
  let low ← word
  return UInt32.ofNat (65536 * high.toNat + low.toNat)

/-- A length byte and that many bytes. -/
def counted : Reader Bytes := do
  take (← byte).toNat

/-- The same step `count` times. -/
def times (count : Nat) (step : Reader α) : Reader (List α) :=
  match count with
  | 0 => pure []
  | count + 1 => do
    let first ← step
    return first :: (← times count step)

/-! ## Names -/

/-- Reads labels that begin at `start`. `rest` is the part of the message not yet read, and the labels
end before the place `limit`. -/
def labels (message : Bytes) (start limit : Nat) (rest : Bytes) : Option (List Bytes × Bytes) :=
  if limit ≤ message.length - rest.length then none
  else match rest with
  | [] => none
  | b :: more =>
    if b = 0 then some ([], more)
    else if b < 0x40 then
      if b.toNat ≤ more.length then do
        let (tail, rest) ← labels message start limit (more.drop b.toNat)
        some (more.take b.toNat :: tail, rest)
      else none
    else if b < 0xc0 then none
    else match more with
      | [] => none
      | low :: rest =>
        let place := (b.toNat - 0xc0) * 256 + low.toNat
        if place < start then do
          let (tail, _) ← labels message place start (message.drop place)
          some (tail, rest)
        else none
termination_by (start, rest.length)
decreasing_by
  · apply Prod.Lex.right
    simp only [List.length_drop, List.length_cons]
    omega
  · apply Prod.Lex.left
    assumption

def name (message : Bytes) : Reader Name := fun rest => do
  let (found, rest) ← labels message (message.length - rest.length) (message.length + 1) rest
  some (← Name.ofLabels? found, rest)

/-! ## Data -/

/-- Counted pieces of text that take up `room` bytes. -/
def pieces (room : Nat) : Reader (List Bytes) :=
  if _h : room = 0 then pure []
  else do
    let piece ← counted
    if piece.length + 1 ≤ room then
      return piece :: (← pieces (room - (piece.length + 1)))
    else failure
termination_by room

/-- Whether bytes are a list of options: each has a code of two bytes, a length of two bytes and that
many bytes. The last one may be cut short, though not within a number. -/
def areOptions (size : Nat) : Bytes → Bool
  | [] => true
  | [_] => false
  | [_, _] => true
  | [_, _, _] => false
  | _ :: _ :: high :: low :: rest =>
    let length := 256 * high.toNat + low.toNat
    length ≤ size && areOptions size (rest.drop length)
termination_by bytes => bytes.length
decreasing_by simp only [List.length_drop, List.length_cons]; omega

/-- Data of a type, in `room` bytes. -/
def content (message : Bytes) (type : RecordType) (room : Nat) : Reader RecordData :=
  match type.code.toNat with
  | 1 => do return .address (Address.ofOctets ((← take 4).map UInt8.toNat))
  | 28 => do return .address (.v6 (BitVec.ofNat 128 (Address.fromDigits 256 ((← take 16).map UInt8.toNat))))
  | 2 | 5 | 12 | 65305 => do return .name (← name message)
  | 6 => do
    let server ← name message
    let keeper ← name message
    return .start server keeper (← long) (← long) (← long) (← long) (← long)
  | 13 => do
    let machine ← counted
    return .machine machine (← counted)
  | 15 => do
    let preference ← word
    return .exchanger preference (← name message)
  | 16 => do return .text (← pieces room)
  | 33 => do
    let priority ← word
    let weight ← word
    let port ← word
    return .service priority weight port (← name message)
  | 35 => do
    let order ← word
    let preference ← word
    let flags ← counted
    if !flags.all fun b => (Char.ofNat b.toNat).isAlphanum then failure
    let services ← counted
    let expression ← counted
    return .substitution order preference flags services expression (← name message)
  | 44 => do
    let algorithm ← byte
    let kind ← byte
    if room < 2 then failure else return .keyPrint algorithm kind (← take (room - 2))
  | 52 => do
    let usage ← byte
    let selector ← byte
    let matching ← byte
    if room < 3 then failure else return .certificate usage selector matching (← take (room - 3))
  | 41 => do
    let bytes ← take room
    if areOptions room bytes then return .other bytes else failure
  | 0 | 251 | 252 | 255 => failure
  | _ => do return .other (← take room)

/-- Data of a type that takes exactly `room` bytes. -/
def data (message : Bytes) (type : RecordType) (room : Nat) : Reader RecordData := fun before => do
  let (data, rest) ← content message type room before
  if before.length = rest.length + room then some (data, rest) else none

/-- A record. The record of options belongs to no name. -/
def record (message : Bytes) : Reader Record := do
  let owner ← name message
  let type : RecordType := ⟨← word⟩
  if type = .opt ∧ owner.labels ≠ [] then failure
  let recordClass : RecordClass := ⟨← word⟩
  let ttl ← long
  let room := (← word).toNat
  if (← get).length < room then failure
  let data ← if room = 0 then pure none else some <$> data message type room
  return ⟨owner, type, recordClass, ttl, data⟩

end Reader
end HostSurvey.Dns
