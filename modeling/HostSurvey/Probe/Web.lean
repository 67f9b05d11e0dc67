import HostSurvey.Probe.Peer
import HostSurvey.Text.Line
/-!
# Web servers

A web server is asked for the head of its first page, and names its software there.

1. A head is a status line and fields, each on a line, and an empty line. A line ends with a line feed,
   with or without a carriage return in front.
2. Heads that say that another one follows are passed over.
3. A head that is cut off or does not keep to the form is no answer at all.
-/
namespace HostSurvey.Probe.Web

open HostSurvey.Net HostSurvey.Text

/-- The line that asks. -/
def requestLine : String := "HEAD / HTTP/1.1"

/-- The most fields that a head may have. -/
def maxFields : Nat := 100

/-! ## Bytes -/

/-- Whether a byte may stand in the name of a field. -/
def isNameByte (b : UInt8) : Bool :=
  let c := Char.ofNat b.toNat
  b < 0x80 && (c.isAlphanum || "!#$%&'*+-.^_|~".toList.contains c || b = 0x60)

/-- Whether a byte may stand in a value or a reason. -/
def isValueByte (b : UInt8) : Bool :=
  b = 9 || (0x20 ≤ b && b ≠ 0x7f)

/-- Whether a byte is a blank. -/
def isBlank (b : UInt8) : Bool :=
  b = 9 || b = 0x20

/-- Takes a line's end. -/
def lineEnd? : Bytes → Option Bytes
  | 13 :: 10 :: rest => some rest
  | 10 :: rest => some rest
  | _ => none

/-- Leaves out empty lines. -/
def skipEmptyLines : Bytes → Bytes
  | 13 :: 10 :: rest => skipEmptyLines rest
  | 10 :: rest => skipEmptyLines rest
  | bytes => bytes

/-! ## Heads -/

/-- The three digits of a status. -/
def status? : Bytes → Option (Nat × Bytes)
  | a :: b :: c :: rest =>
    if [a, b, c].all (fun d => 48 ≤ d && d ≤ 57) && 49 ≤ a then
      some (100 * (a.toNat - 48) + 10 * (b.toNat - 48) + (c.toNat - 48), rest)
    else none
  | _ => none

/-- The status line: version, status and perhaps a reason. -/
def statusLine? (bytes : Bytes) : Option (Nat × Bytes) := do
  let bytes := skipEmptyLines bytes
  let version := bytes.take 9
  if version ≠ Utf8.encode "HTTP/1.1 " ∧ version ≠ Utf8.encode "HTTP/1.0 " then none
  let (status, rest) ← status? ((bytes.drop 9).dropWhile (· = 0x20))
  let rest ← match rest with
    | 0x20 :: rest => lineEnd? (rest.dropWhile isValueByte)
    | rest => lineEnd? rest
  some (status, rest)

/-- The fields of a head, each a name and a value, up to the empty line. `room` more may come. -/
def fields? : Nat → Bytes → Option (List (Bytes × Bytes) × Bytes)
  | room, bytes =>
    match lineEnd? bytes with
    | some rest => some ([], rest)
    | none =>
      match room with
      | 0 => none
      | room + 1 => do
        let name := bytes.takeWhile isNameByte
        let rest ← match bytes.drop name.length with
          | 0x3a :: rest => if name.isEmpty then none else some rest
          | _ => none
        let value := rest.takeWhile isValueByte
        let rest ← lineEnd? (rest.drop value.length)
        let (more, rest) ← fields? room rest
        some ((name, trimRight isBlank (value.dropWhile isBlank)) :: more, rest)

/-- Whether another head follows one with a status. -/
def isInterim (status : Nat) : Bool :=
  status < 200 && status ≠ 101

/-- The fields of the first head that no other one follows. -/
def head? (bytes : Bytes) : Option (List (Bytes × Bytes)) := do
  let (status, rest) ← statusLine? bytes
  let (fields, rest) ← fields? maxFields rest
  if isInterim status then
    if _h : rest.length < bytes.length then head? rest else none
  else some fields
termination_by bytes.length

/-- Whether two names are the same but for case. -/
def sameName (a b : Bytes) : Bool :=
  let lower := fun b : UInt8 => (Char.ofNat b.toNat).toLower
  a.map lower == b.map lower

/-- The software that fields name. -/
def server? (fields : List (Bytes × Bytes)) : Option String :=
  (fields.find? fun (name, _) => sameName name (Utf8.encode "server")).map fun (_, value) =>
    chomp (Utf8.decodeLossy value)

/-- Asks a web server (`http::grab`). Whatever goes wrong is one error. -/
def grab (target : Endpoint) (time : Elapsed) (peer : Peer) : Grab :=
  match peer.connect target time with
  | .error _ => .failed .web
  | .ok stream =>
    ⟨[Utf8.encode requestLine], match head? stream.all with
      | none => .error .web
      | some fields => .ok (server? fields)⟩

end HostSurvey.Probe.Web
