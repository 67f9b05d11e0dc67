import HostSurvey.Proofs.Probe.Device
import HostSurvey.Proofs.Probe.Extents
import Mathlib.Data.Nat.Digits.Defs
/-!
# Integers of two's complement

What number some bytes stand for is told by the standard notions of digits and of balanced remainders
(`complement`), and not by the way in which it is read.

1. The number that is read is this one (`signed_eq_complement`), and it fits into a word with a sign
   (`complement_fits`).
2. Bytes that repeat the sign may stand in front of it (`signed_padded`).
3. A machine begins with a word of zeros or ones and shifts the bytes in from behind. What goes out in front are copies
   of the sign, so nothing is lost (`pushSigned_ofInt`, `integerInWord?_eq`).
-/
namespace HostSurvey.Probe.Ber

/-! ## The number -/

/-- The number of two's complement that bytes write, the highest one first. Of the numbers that leave what they write as
digits when whole ranges are taken off, it is the one from minus half a range up to, but not including, half a range. -/
def complement (bytes : Bytes) : Int :=
  Int.bmod (Nat.ofDigits 256 (bytes.reverse.map UInt8.toNat) : Nat) (256 ^ bytes.length)

theorem value_eq_ofDigits (bytes : Bytes) : value bytes = Nat.ofDigits 256 (bytes.reverse.map UInt8.toNat) := by
  induction bytes with
  | nil => rfl
  | cons b rest ih =>
    rw [value_cons, ih, List.reverse_cons, List.map_append, Nat.ofDigits_append, List.length_map, List.length_reverse,
      List.map_singleton, Nat.ofDigits_singleton, Nat.mul_comm, Nat.add_comm]

/-- The highest bit tells in which half of its range a value is. -/
theorem first_lt_iff (first : UInt8) (rest : Bytes) :
    first < 0x80 ↔ 2 * value (first :: rest) < 256 ^ (first :: rest).length := by
  have below := value_lt rest
  rw [value_cons, List.length_cons, Nat.pow_succ, UInt8.lt_iff_toNat_lt]
  show first.toNat < 128 ↔ _
  constructor
  · intro low
    have least := Nat.mul_le_mul_right (256 ^ rest.length) (Nat.le_of_lt_succ low : first.toNat ≤ 127)
    omega
  · intro small
    by_contra high
    have most := Nat.mul_le_mul_right (256 ^ rest.length) (Nat.le_of_not_lt high)
    omega

theorem signed_eq_complement (bytes : Bytes) : signed bytes = complement bytes := by
  unfold complement
  rw [← value_eq_ofDigits]
  cases bytes with
  | nil => rfl
  | cons first rest =>
    have half := first_lt_iff first rest
    have remainder : (value (first :: rest) : Int) % (256 ^ (first :: rest).length : Nat) = value (first :: rest) :=
      Int.emod_eq_of_lt (Int.natCast_nonneg _) (Int.ofNat_lt.mpr (value_lt _))
    have even : 256 ^ (first :: rest).length = 2 * (128 * 256 ^ rest.length) := by
      rw [List.length_cons, Nat.pow_succ]
      omega
    rw [Int.bmod_def, remainder, signed]
    by_cases low : first < 0x80
    · have small := half.mp low
      rw [if_pos low, if_pos (by omega)]
    · have large := mt half.mpr low
      rw [if_neg low, if_neg (by omega)]
      push_cast
      rfl

/-- Up to eight bytes write a number that fits into a word. -/
theorem complement_fits {bytes : Bytes} (few : bytes.length ≤ 8) :
    -2 ^ 63 ≤ complement bytes ∧ complement bytes < 2 ^ 63 := by
  have room : 256 ^ bytes.length ≤ 256 ^ 8 := Nat.pow_le_pow_right (by decide) few
  have positive : 0 < 256 ^ bytes.length := Nat.pow_pos (by decide)
  have least := Int.le_bmod (x := (Nat.ofDigits 256 (bytes.reverse.map UInt8.toNat) : Nat)) positive
  have most := Int.bmod_lt (x := (Nat.ofDigits 256 (bytes.reverse.map UInt8.toNat) : Nat)) positive
  unfold complement
  omega

/-! ## Sign bytes -/

/-- The byte that repeats the sign of a number. -/
def signByte : Bytes → UInt8
  | [] => 0
  | first :: _ => if first < 0x80 then 0 else 0xff

/-- A sign byte in front of a number changes neither the number nor its sign. -/
theorem signed_signByte {bytes : Bytes} (filled : bytes ≠ []) :
    signed (signByte bytes :: bytes) = signed bytes ∧ signByte (signByte bytes :: bytes) = signByte bytes := by
  cases bytes with
  | nil => exact absurd rfl filled
  | cons first rest =>
    by_cases low : first < 0x80
    · simp [signByte, signed, low, value_cons]
    · have high : ¬ (0xff : UInt8) < 0x80 := by decide
      have byte : (0xff : UInt8).toNat = 255 := rfl
      simp only [signByte, signed, if_neg low, if_neg high, value_cons 0xff, byte, and_true]
      -- The new highest digit is worth 255 of what the old number was taken down by, and 256 of it are taken now.
      simp only [List.length_cons, Int.pow_succ]
      push_cast
      ring

theorem signed_padded {bytes : Bytes} (filled : bytes ≠ []) (count : Nat) :
    signed (List.replicate count (signByte bytes) ++ bytes) = signed bytes ∧
      signByte (List.replicate count (signByte bytes) ++ bytes) = signByte bytes := by
  induction count with
  | zero => exact ⟨rfl, rfl⟩
  | succ count ih =>
    obtain ⟨number, sign⟩ := ih
    have still : List.replicate count (signByte bytes) ++ bytes ≠ [] := by simp [filled]
    have more := signed_signByte still
    rw [sign] at more
    rw [List.replicate_succ, List.cons_append]
    exact ⟨more.1.trans number, more.2⟩

/-! ## Words with a sign -/

/-- A word with a sign and one more byte behind it. What does not fit is lost in front. -/
def pushSigned (n : Int64) (b : UInt8) : Int64 := n <<< 8 ||| b.toUInt64.toInt64

theorem toNat_ofInt (n : Int) : (Int64.ofInt n).toUInt64.toNat = (n % 2 ^ 64).toNat :=
  BitVec.toNat_ofInt n

theorem pushSigned_ofInt (n : Int) (b : UInt8) : pushSigned (.ofInt n) b = .ofInt (256 * n + b.toNat) := by
  have same : (pushSigned (.ofInt n) b).toUInt64 = pushByte (Int64.ofInt n).toUInt64 b := rfl
  have equal : (pushSigned (.ofInt n) b).toUInt64.toNat = (Int64.ofInt (256 * n + b.toNat)).toUInt64.toNat := by
    rw [same, toNat_pushByte, toNat_ofInt, toNat_ofInt]
    omega
  exact Int64.toBitVec_inj.mp (BitVec.eq_of_toNat_eq equal)

theorem foldl_pushSigned (front : Int) (bytes : Bytes) :
    bytes.foldl pushSigned (.ofInt front) = .ofInt (bytes.foldl (fun n b => 256 * n + b.toNat) front) := by
  induction bytes generalizing front with
  | nil => rfl
  | cons b rest ih => rw [List.foldl_cons, List.foldl_cons, pushSigned_ofInt, ih]

/-- The integer that one to eight bytes write, read into a word with a sign. -/
def integerInWord? : Bytes → Option Int64
  | [] => none
  | first :: rest =>
    if 8 < (first :: rest).length then none
    else some ((first :: rest).foldl pushSigned (if first &&& 0x80 = 0 then 0 else -1))

theorem integerInWord?_eq (bytes : Bytes) : integerInWord? bytes = (integer? bytes).map Int64.ofInt := by
  cases bytes with
  | nil => rfl
  | cons first rest =>
    unfold integerInWord? integer?
    by_cases long : 8 < (first :: rest).length
    · simp only [if_pos long, Option.map_none]
    · simp only [if_neg long, Option.map_some, ← foldl_pushSigned]
      by_cases low : first < 0x80
      · rw [if_pos low, if_pos (highBit_eq_zero.mpr low)]
        rfl
      · rw [if_neg low, if_neg (mt highBit_eq_zero.mp low)]
        rfl

/-! ## The main theorem -/

theorem integer?_eq_none {bytes : Bytes} : integer? bytes = none ↔ bytes = [] ∨ 8 < bytes.length := by
  constructor
  · intro unread
    by_contra fits
    obtain ⟨filled, few⟩ := not_or.mp fits
    have read := integer?_eq_some.mpr ⟨filled, Nat.le_of_not_lt few, rfl⟩
    cases unread.symm.trans read
  · intro unfit
    cases read : integer? bytes with
    | none => rfl
    | some n =>
      obtain ⟨filled, few, _⟩ := integer?_eq_some.mp read
      exact absurd unfit (not_or.mpr ⟨filled, Nat.not_lt.mpr few⟩)

/-- What reading an integer comes to. -/
structure ReadsComplement (bytes : Bytes) : Prop where
  read : bytes ≠ [] → bytes.length ≤ 8 → integer? bytes = some (complement bytes)
  unread : integer? bytes = none ↔ bytes = [] ∨ 8 < bytes.length
  /-- As a word with a sign it is the same number. -/
  inWord : (integerInWord? bytes).map Int64.toInt = integer? bytes
  /-- The sign may be repeated in front as long as there is room. -/
  padded : ∀ count, bytes ≠ [] → count + bytes.length ≤ 8 →
    integer? (List.replicate count (signByte bytes) ++ bytes) = integer? bytes

end HostSurvey.Probe.Ber

namespace HostSurvey.Probe.Snmp

open Ber

theorem requestId_lt (drawn : UInt32) : (requestId drawn).toNat < 2 ^ 31 := by
  unfold requestId
  rw [UInt32.toNat_and]
  exact Nat.and_lt_two_pow _ (by decide)

/-- **Integers are of two's complement.** One to eight bytes are read as the number of two's complement that they write,
other bytes are not read, and the number is the same if it is shifted into a word with a sign. Bytes that repeat the
sign change nothing. The number of a request is below half of what four bytes can write, so it is read back from
them. -/
theorem integers_are_of_twos_complement :
    (∀ bytes, ReadsComplement bytes) ∧
      (∀ id : UInt32, id.toNat < 2 ^ 31 → integer? (number id) = some (id.toNat : Int)) ∧
      ∀ drawn, (requestId drawn).toNat < 2 ^ 31 := by
  refine ⟨fun bytes => ⟨?_, integer?_eq_none, ?_, ?_⟩, fun id small => integer?_number small, requestId_lt⟩
  · intro filled few
    exact integer?_eq_some.mpr ⟨filled, few, signed_eq_complement bytes⟩
  · rw [integerInWord?_eq, Option.map_map]
    cases read : integer? bytes with
    | none => rfl
    | some n =>
      obtain ⟨_, few, rfl⟩ := integer?_eq_some.mp read
      have fits := complement_fits few
      rw [← signed_eq_complement] at fits
      exact congrArg some (Int64.toInt_ofInt_of_le fits.1 fits.2)
  · intro count filled room
    have padded : List.replicate count (signByte bytes) ++ bytes ≠ [] := by simp [filled]
    have long : (List.replicate count (signByte bytes) ++ bytes).length ≤ 8 := by simpa using room
    rw [integer?_eq_some.mpr ⟨filled, by omega, rfl⟩]
    exact integer?_eq_some.mpr ⟨padded, long, (signed_padded filled count).1⟩

/-- Minus 129 in two bytes, and with six sign bytes more, and the greatest number of a request. -/
theorem two_bytes_with_six_sign_bytes :
    ([0xff, 0x7f] : Bytes) ≠ [] ∧ 6 + ([0xff, 0x7f] : Bytes).length ≤ 8 ∧ (0x7fffffff : UInt32).toNat < 2 ^ 31 ∧
      integer? [0xff, 0x7f] = some (-129) ∧ integer? (List.replicate 6 0xff ++ [0xff, 0x7f]) = some (-129) ∧
      integer? (number 0x7fffffff) = some 0x7fffffff := by
  obtain ⟨every, ids, _⟩ := integers_are_of_twos_complement
  have worth : complement [0xff, 0x7f] = -129 := by decide +kernel
  have number := (every [0xff, 0x7f]).read (by decide) (by decide)
  rw [worth] at number
  have padded := (every [0xff, 0x7f]).padded 6 (by decide) (by decide)
  exact ⟨by decide, by decide, by decide, number, padded.trans number, ids 0x7fffffff (by decide)⟩

end HostSurvey.Probe.Snmp
