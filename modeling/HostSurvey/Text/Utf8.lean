/-!
# Text in bytes

UTF-8 as a scanner over bytes. The scanner never fails: it yields characters and, where the bytes are
no character, one mark for each maximal ill-formed part. Both readings come from it.

1. `decodeLossy` shows every ill-formed part as the replacement character.
2. `decode?` accepts a text only when there is no ill-formed part.
-/
namespace HostSurvey

/-- A sequence of bytes. -/
abbrev Bytes := List UInt8

namespace Text.Utf8

/-- A character of several bytes of which the first ones have been read. -/
structure Partial where
  /-- The bits read so far. -/
  bits : Nat
  /-- How many bytes are missing, at least one. -/
  missing : Nat
  /-- The least byte that may come next. -/
  least : UInt8
  /-- The greatest byte that may come next. -/
  greatest : UInt8
  deriving Repr, DecidableEq

/-- What a byte means at the start of a character. -/
inductive Lead where
  | whole (c : Char)
  /-- It opens a character of several bytes. -/
  | opens (p : Partial)
  /-- It starts no character. -/
  | illFormed
  deriving Repr

/-- Reads the first byte of a character. The bounds on the second byte shut out surrogates, code
points above the last one and longer forms than needed. -/
def lead (b : UInt8) : Lead :=
  if b < 0x80 then .whole (Char.ofNat b.toNat)
  else if b < 0xc2 then .illFormed
  else if b < 0xe0 then .opens ⟨b.toNat - 0xc0, 1, 0x80, 0xbf⟩
  else if b < 0xf0 then
    .opens ⟨b.toNat - 0xe0, 2, if b = 0xe0 then 0xa0 else 0x80, if b = 0xed then 0x9f else 0xbf⟩
  else if b < 0xf5 then
    .opens ⟨b.toNat - 0xf0, 3, if b = 0xf0 then 0x90 else 0x80, if b = 0xf4 then 0x8f else 0xbf⟩
  else .illFormed

/-- The bytes as characters; `none` stands for one maximal ill-formed part. -/
def scan : Option Partial → Bytes → List (Option Char)
  | none, [] => []
  | some _, [] => [none]
  | none, b :: rest =>
    match lead b with
    | .whole c => some c :: scan none rest
    | .opens p => scan (some p) rest
    | .illFormed => none :: scan none rest
  | some p, b :: rest =>
    if p.least ≤ b ∧ b ≤ p.greatest then
      let bits := 64 * p.bits + (b.toNat - 0x80)
      if p.missing ≤ 1 then some (Char.ofNat bits) :: scan none rest
      else scan (some ⟨bits, p.missing - 1, 0x80, 0xbf⟩) rest
    else
      none :: match lead b with
        | .whole c => some c :: scan none rest
        | .opens p => scan (some p) rest
        | .illFormed => none :: scan none rest

/-- The text in the bytes, with the replacement character for each ill-formed part. -/
def decodeLossy (bytes : Bytes) : String :=
  String.ofList ((scan none bytes).map (·.getD '\ufffd'))

/-- The text in the bytes, if they are well formed throughout. -/
def decode? (bytes : Bytes) : Option String :=
  ((scan none bytes).mapM id).map String.ofList

/-- The bytes of a text. -/
def encode (text : String) : Bytes :=
  text.toUTF8.toList

end Text.Utf8
end HostSurvey
