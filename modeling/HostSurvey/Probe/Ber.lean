import HostSurvey.Text.Utf8
/-!
# Elements of the basic encoding

An element is a tag, a length and a value of that many bytes. A length below 128 is one byte; a larger
one is a byte that counts its digits, and the digits to the base 256.

1. The writer uses as few digits as it can; the reader takes up to eight, zeros in front included.
2. An integer is a number of two's complement in up to eight bytes, the highest first.
-/
namespace HostSurvey.Probe.Ber

/-! ## Writing -/

/-- The digits of a number to the base 256, the highest first and none for zero. -/
def digits (n : Nat) : Bytes :=
  if n = 0 then [] else digits (n / 256) ++ [UInt8.ofNat (n % 256)]
termination_by n
decreasing_by omega

/-- The bytes of a length (`encode_ber_length`). -/
def lengthBytes (n : Nat) : Bytes :=
  if n < 0x80 then [UInt8.ofNat n]
  else UInt8.ofNat (0x80 + (digits n).length) :: digits n

def element (tag : UInt8) (value : Bytes) : Bytes :=
  tag :: lengthBytes value.length ++ value

/-! ## Reading -/

/-- The number that digits to the base 256 write. -/
def value (digits : Bytes) : Nat :=
  digits.foldl (fun n b => 256 * n + b.toNat) 0

/-- The length at the front, and what follows it. -/
def readLength? : Bytes → Option (Nat × Bytes)
  | [] => none
  | first :: rest =>
    if first < 0x80 then some (first.toNat, rest)
    else
      let width := first.toNat - 0x80
      if width = 0 ∨ 8 < width ∨ rest.length < width then none
      else some (value (rest.take width), rest.drop width)

/-- The element at the front: its tag, its value, and what follows it (`split_tlv`). -/
def split? : Bytes → Option (UInt8 × Bytes × Bytes)
  | [] => none
  | tag :: rest => do
    let (length, rest) ← readLength? rest
    if length ≤ rest.length then some (tag, rest.take length, rest.drop length) else none

/-- The value of the element at the front and what follows it, if it has the wanted tag (`take`). -/
def take? (tag : UInt8) (bytes : Bytes) : Option (Bytes × Bytes) := do
  let (found, value, rest) ← split? bytes
  if found = tag then some (value, rest) else none

/-- The integer that one to eight bytes write (`integer`). -/
def integer? (bytes : Bytes) : Option Int :=
  match bytes with
  | [] => none
  | first :: _ =>
    if 8 < bytes.length then none
    else some (bytes.foldl (fun n b => 256 * n + b.toNat) (if first < 0x80 then 0 else -1))

/-- What follows the element at the front is shorter. -/
theorem take?_length {tag : UInt8} {bytes value rest : Bytes} (h : take? tag bytes = some (value, rest)) :
    rest.length < bytes.length := by
  unfold take? split? at h
  match bytes, h with
  | [], h => simp at h
  | t :: more, h =>
    cases hl : readLength? more with
    | none => simp [hl] at h
    | some found =>
      obtain ⟨n, tail⟩ := found
      have shorter : tail.length ≤ more.length := by
        unfold readLength? at hl
        match more, hl with
        | [], hl => simp at hl
        | first :: others, hl =>
          simp only at hl
          split at hl
          · injection hl with hl; injection hl with _ hl; subst hl; simp
          · split at hl
            · contradiction
            · injection hl with hl; injection hl with _ hl; subst hl
              simp only [List.length_drop, List.length_cons]; omega
      simp only [hl, Option.bind_eq_bind, Option.bind_some] at h
      split at h
      · simp only [Option.bind_some] at h
        split at h
        · injection h with h; injection h with _ h; subst h
          simp only [List.length_drop, List.length_cons]; omega
        · contradiction
      · simp at h

end HostSurvey.Probe.Ber
