import HostSurvey.Text.Property
/-!
# Addresses

An address of version 4 is a word of 32 bits, one of version 6 a word of 128 bits.

1. Version 4 is written as four decimal numbers; reading takes no leading zeros.
2. Version 6 is written as eight hexadecimal groups, of which the first longest run of at least two
   zero groups is left out. An address that carries one of version 4 shows it with dots.
-/
namespace HostSurvey.Net

/-- An Internet address, by its version. -/
inductive Address where
  | v4 (bits : BitVec 32)
  | v6 (bits : BitVec 128)
  deriving Repr, DecidableEq, Inhabited

/-- An address with a port. -/
structure Endpoint where
  address : Address
  port : UInt16
  deriving Repr, DecidableEq, Inhabited

namespace Address

/-! ## Parts -/

/-- The number that digits of a base make up, the first one highest. -/
def fromDigits (base : Nat) (digits : List Nat) : Nat :=
  digits.foldl (fun n d => base * n + d) 0

/-- An address of version 4 from its octets. -/
def ofOctets (octets : List Nat) : Address :=
  .v4 (BitVec.ofNat 32 (fromDigits 256 octets))

/-- An address of version 6 from its groups. -/
def ofGroups (groups : List Nat) : Address :=
  .v6 (BitVec.ofNat 128 (fromDigits 65536 groups))

/-- The lowest `count` digits of a number in a base, highest first. -/
def toDigits (base : Nat) : Nat → Nat → List Nat
  | 0, _ => []
  | count + 1, n => toDigits base count (n / base) ++ [n % base]

/-! ## Writing -/

/-- Four numbers with dots between them. -/
def dotted (bits : Nat) : String :=
  ".".intercalate ((toDigits 256 4 bits).map toString)

/-- Groups in hexadecimal with colons between them. -/
def colons (groups : List Nat) : String :=
  ":".intercalate (groups.map fun g => String.ofList (Nat.toDigits 16 g))

/-- The length of the run of zeros at the front. -/
def zeroRun (groups : List Nat) : Nat :=
  (groups.takeWhile (· = 0)).length

/-- Where the first longest run of zeros begins and how long it is. -/
def longestZeros (groups : List Nat) : Nat × Nat :=
  (List.range groups.length).foldl (fun best i =>
    let n := zeroRun (groups.drop i)
    if best.2 < n then (i, n) else best) (0, 0)

/-- Groups with the first longest run of two or more zeros left out. -/
def compressed (groups : List Nat) : String :=
  let (start, count) := longestZeros groups
  if count < 2 then colons groups
  else colons (groups.take start) ++ "::" ++ colons (groups.drop (start + count))

/-- The text of an address. -/
def text : Address → String
  | .v4 bits => dotted bits.toNat
  | .v6 bits =>
    if bits.toNat / UInt32.size = 0xffff then "::ffff:" ++ dotted (bits.toNat % UInt32.size)
    else compressed (toDigits 65536 8 bits.toNat)

/-! ## Reading -/

/-- A number of up to `most` digits, not above `greatest`, at the front of a text. A zero in front of
other digits is refused unless `padded`. -/
def readNumber (hex : Bool) (most greatest : Nat) (padded : Bool) (text : List Char) :
    Option (Nat × List Char) :=
  let isOne := fun c : Char => if hex then (Text.hexDigit? c).isSome else c.isDigit
  let digits := text.takeWhile isOne
  let value := fromDigits (if hex then 16 else 10) (digits.map fun c => (Text.hexDigit? c).getD 0)
  if digits = [] ∨ most < digits.length ∨ greatest < value then none
  else if !padded && digits.head? == some '0' && 1 < digits.length then none
  else some (value, text.drop digits.length)

/-- The text after the character `c`, if it starts with one. -/
def after (c : Char) : List Char → Option (List Char)
  | [] => none
  | d :: rest => if d = c then some rest else none

/-- `count` octets with dots between them; `first` says that no dot stands in front. -/
def readOctets : Nat → Bool → List Char → Option (List Nat × List Char)
  | 0, _, text => some ([], text)
  | count + 1, first, text => do
    let text ← if first then some text else after '.' text
    let (octet, rest) ← readNumber false 3 255 false text
    let (octets, rest) ← readOctets count false rest
    some (octet :: octets, rest)

/-- Up to `most` groups with colons between them, and whether the last two came from four octets. Such
octets stand where at least two groups have room. -/
def readGroups : Nat → Bool → List Char → List Nat × Bool × List Char
  | 0, _, text => ([], false, text)
  | most + 1, first, text =>
    match if first then some text else after ':' text with
    | none => ([], false, text)
    | some inner =>
      match if most = 0 then none else readOctets 4 true inner with
      | some (octets, rest) =>
        ([fromDigits 256 (octets.take 2), fromDigits 256 (octets.drop 2)], true, rest)
      | none =>
        match readNumber true 4 65535 true inner with
        | none => ([], false, text)
        | some (group, rest) =>
          let (groups, dotted, rest) := readGroups most false rest
          (group :: groups, dotted, rest)

/-- Eight groups, or fewer with one gap that stands for at least one group of zeros. -/
def readV6 (text : List Char) : Option (Address × List Char) := do
  let (head, dotted, rest) := readGroups 8 true text
  if head.length = 8 then return (ofGroups head, rest)
  if dotted then none
  let rest ← after ':' rest
  let rest ← after ':' rest
  let (tail, _, rest) := readGroups (7 - head.length) true rest
  return (ofGroups (head ++ List.replicate (8 - head.length - tail.length) 0 ++ tail), rest)

/-- Four octets. -/
def readV4 (text : List Char) : Option (Address × List Char) :=
  (readOctets 4 true text).map fun (octets, rest) => (ofOctets octets, rest)

/-- The address that is written at the front of a text. -/
def read (text : List Char) : Option (Address × List Char) :=
  readV4 text <|> readV6 text

/-- The address that a text writes, if it writes one and nothing else. -/
def parse? (text : String) : Option Address :=
  match read text.toList with
  | some (address, []) => some address
  | _ => none

/-- The four octets of an address of version 4, most significant first, or the sixteen of version 6. -/
def octets : Address → List UInt8
  | .v4 bits => (toDigits 256 4 bits.toNat).map UInt8.ofNat
  | .v6 bits => (toDigits 256 16 bits.toNat).map UInt8.ofNat

end Address

namespace Endpoint

/-- The text of an endpoint: address and port with a colon between them, an address of version 6 in
brackets. -/
def text (e : Endpoint) : String :=
  match e.address with
  | .v4 _ => e.address.text ++ ":" ++ toString e.port.toNat
  | .v6 _ => "[" ++ e.address.text ++ "]:" ++ toString e.port.toNat

/-- The endpoint that a text writes. -/
def parse? (text : String) : Option Endpoint := do
  let (address, rest) ← match text.toList with
    | '[' :: rest => do
      let (address, rest) ← Address.readV6 rest
      some (address, ← Address.after ']' rest)
    | text => Address.readV4 text
  let rest ← Address.after ':' rest
  let (port, rest) ← Address.readNumber false rest.length 65535 true rest
  if rest = [] then some ⟨address, UInt16.ofNat port⟩ else none

end Endpoint
end HostSurvey.Net
