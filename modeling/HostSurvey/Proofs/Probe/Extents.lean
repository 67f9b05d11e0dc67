import HostSurvey.Proofs.Probe.Elements
import Mathlib.Data.Nat.ModEq
/-!
# Where elements end

An element tells its own length. Whoever sends it may tell any length that eight digits can write, whatever there is
behind it.

1. With anything behind it, an element is read as what was written, and nothing is read from a piece of it. So its
   bytes alone tell where it ends.
2. A machine reads a length into a word of 64 bits, by shifts, and cuts the bytes there; a cut behind their end is a
   fault. Digits are never lost in front of the word, as there are no more than eight (`toNat_foldl_pushByte`).
3. Read like this (`splitInWords`), the bytes are always cut inside, and the same is found (`splitInWords_eq`).
-/
namespace HostSurvey.Probe.Ber

/-! ## Words -/

/-- A word with one more byte behind it. What does not fit is lost in front. -/
def pushByte (n : UInt64) (b : UInt8) : UInt64 := n <<< 8 ||| b.toUInt64

theorem toNat_pushByte (n : UInt64) (b : UInt8) : (pushByte n b).toNat = (256 * n.toNat + b.toNat) % 2 ^ 64 := by
  have low : b.toNat < 2 ^ 8 := b.toNat_lt
  have shift : (8 : UInt64).toNat % 64 = 8 := rfl
  have front : n.toNat <<< 8 % 2 ^ 64 = 2 ^ 8 * (n.toNat % 2 ^ 56) := by
    rw [Nat.shiftLeft_eq]
    omega
  -- The byte comes into bits that the shift has cleared.
  rw [pushByte, UInt64.toNat_or, UInt64.toNat_shiftLeft, shift, front, UInt8.toNat_toUInt64,
    ← Nat.two_pow_add_eq_or_of_lt low]
  omega

theorem toNat_foldl_pushByte (front : UInt64) (bytes : Bytes) :
    (bytes.foldl pushByte front).toNat = (front.toNat * 256 ^ bytes.length + value bytes) % 2 ^ 64 := by
  induction bytes generalizing front with
  | nil =>
    have small := front.toNat_lt
    simp only [List.foldl_nil, List.length_nil, value]
    omega
  | cons b rest ih =>
    calc ((b :: rest).foldl pushByte front).toNat
        = ((256 * front.toNat + b.toNat) % 2 ^ 64 * 256 ^ rest.length + value rest) % 2 ^ 64 := by
          rw [List.foldl_cons, ih, toNat_pushByte]
      _ = ((256 * front.toNat + b.toNat) * 256 ^ rest.length + value rest) % 2 ^ 64 :=
          ((Nat.mod_modEq _ _).mul_right _).add_right _
      _ = (front.toNat * 256 ^ (b :: rest).length + value (b :: rest)) % 2 ^ 64 := by
          rw [value_cons, List.length_cons, Nat.pow_succ]
          congr 1
          ring

theorem value_lt (bytes : Bytes) : value bytes < 256 ^ bytes.length := by
  induction bytes with
  | nil => simp [value]
  | cons b rest ih =>
    calc value (b :: rest) = b.toNat * 256 ^ rest.length + value rest := value_cons b rest
      _ < (b.toNat + 1) * 256 ^ rest.length := by rw [Nat.succ_mul]; omega
      _ ≤ 256 * 256 ^ rest.length := Nat.mul_le_mul_right _ b.toNat_lt
      _ = 256 ^ (b :: rest).length := by rw [List.length_cons, Nat.pow_succ, Nat.mul_comm]

/-- Up to eight digits fit into a word. -/
theorem value_lt_word {bytes : Bytes} (few : bytes.length ≤ 8) : value bytes < 2 ^ 64 :=
  calc value bytes < 256 ^ bytes.length := value_lt bytes
    _ ≤ 256 ^ 8 := Nat.pow_le_pow_right (by decide) few
    _ = 2 ^ 64 := by decide

theorem toNat_wordOf {digits : Bytes} (few : digits.length ≤ 8) : (digits.foldl pushByte 0).toNat = value digits := by
  rw [toNat_foldl_pushByte, UInt64.toNat_zero, Nat.zero_mul, Nat.zero_add, Nat.mod_eq_of_lt (value_lt_word few)]

theorem highBit_eq_zero {b : UInt8} : b &&& 0x80 = 0 ↔ b < 0x80 := by
  obtain ⟨bits⟩ := b
  revert bits
  decide

theorem toNat_lowBits (b : UInt8) : (b &&& 0x7f).toNat = b.toNat % 0x80 :=
  Nat.and_two_pow_sub_one_eq_mod b.toNat 7

/-! ## Cuts -/

/-- What goes wrong where bytes are cut. -/
inductive Fault where
  /-- The place is behind the end of the bytes. -/
  | behindEnd
  deriving Repr, DecidableEq

/-- Cuts bytes at a place. -/
def cut (bytes : Bytes) (place : Nat) : Except Fault (Bytes × Bytes) :=
  if place ≤ bytes.length then .ok (bytes.take place, bytes.drop place) else .error .behindEnd

/-- The length at the front as a word, and what follows it. -/
def lengthInWord : Bytes → Except Fault (Option (UInt64 × Bytes))
  | [] => .ok none
  | first :: rest =>
    if first &&& 0x80 = 0 then .ok (some (first.toUInt64, rest))
    else
      let width := (first &&& 0x7f).toNat
      if width = 0 ∨ 8 < width ∨ rest.length < width then .ok none
      else do
        let (digits, behind) ← cut rest width
        return some (digits.foldl pushByte 0, behind)

/-- The element at the front, read with lengths in words and cuts that can fail. -/
def splitInWords : Bytes → Except Fault (Option (UInt8 × Bytes × Bytes))
  | [] => .ok none
  | tag :: rest => do
    match ← lengthInWord rest with
    | none => return none
    | some (length, rest) =>
      if rest.length < length.toNat then return none
      else
        let (content, behind) ← cut rest length.toNat
        return some (tag, content, behind)

theorem lengthInWord_eq (bytes : Bytes) : ∃ found, lengthInWord bytes = .ok found ∧
    readLength? bytes = found.map fun (n, rest) => (n.toNat, rest) := by
  cases bytes with
  | nil => exact ⟨none, rfl, rfl⟩
  | cons first rest =>
    unfold lengthInWord readLength?
    by_cases short : first < 0x80
    · exact ⟨_, if_pos (highBit_eq_zero.mpr short), by simp [short]⟩
    · have above : 0x80 ≤ first.toNat := by simpa [UInt8.lt_iff_toNat_lt] using short
      have width : (first &&& 0x7f).toNat = first.toNat - 0x80 := by
        have low := first.toNat_lt
        rw [toNat_lowBits]
        omega
      simp only [if_neg (mt highBit_eq_zero.mp short), if_neg short, width]
      by_cases unfit : first.toNat - 0x80 = 0 ∨ 8 < first.toNat - 0x80 ∨ rest.length < first.toNat - 0x80
      · exact ⟨none, if_pos unfit, if_pos unfit⟩
      · have inside : first.toNat - 0x80 ≤ rest.length := by omega
        have few : (rest.take (first.toNat - 0x80)).length ≤ 8 := by
          rw [List.length_take]
          omega
        rw [if_neg unfit, if_neg unfit, cut, if_pos inside]
        exact ⟨_, rfl, by rw [Option.map_some, toNat_wordOf few]⟩

/-- No cut fails, whatever the bytes are, and the same is found as with numbers that may be of any size. -/
theorem splitInWords_eq (bytes : Bytes) : splitInWords bytes = .ok (split? bytes) := by
  cases bytes with
  | nil => rfl
  | cons tag rest =>
    obtain ⟨found, read, same⟩ := lengthInWord_eq rest
    simp only [splitInWords, split?, read, same]
    cases found with
    | none => rfl
    | some found =>
      obtain ⟨length, behind⟩ := found
      by_cases enough : length.toNat ≤ behind.length
      · simp [cut, enough, Nat.not_lt.mpr enough, bind, Except.bind, pure, Except.pure]
      · simp [enough, Nat.lt_of_not_le enough, bind, Except.bind, pure, Except.pure]

/-! ## Parts -/

theorem IsLength.length_le {n : Nat} {written : Bytes} (form : IsLength n written) :
    1 ≤ written.length ∧ written.length ≤ 9 := by
  cases form with
  | short low => exact ⟨Nat.le_refl 1, Nat.le_add_left 1 8⟩
  | long counts filled few => exact ⟨Nat.succ_pos _, Nat.succ_le_succ few⟩

/-- What is found are the parts of the bytes. -/
theorem split?_parts {tag : UInt8} {content bytes rest : Bytes} : split? bytes = some (tag, content, rest) ↔
    ∃ length, IsLength content.length length ∧ length.length ≤ 9 ∧ bytes = tag :: length ++ content ++ rest := by
  rw [split?_eq_some]
  constructor
  · rintro ⟨written, element, same⟩
    cases element with
    | mk form => exact ⟨_, form, form.length_le.2, same⟩
  · rintro ⟨length, form, _, same⟩
    exact ⟨_, .mk form, same⟩

/-! ## The main theorem -/

/-- What holds of an element that was written. -/
structure IsDelimited (tag : UInt8) (content : Bytes) : Prop where
  /-- It is read back, whatever follows. -/
  whole : ∀ rest, split? (element tag content ++ rest) = some (tag, content, rest)
  piece : ∀ piece, piece <+: element tag content → piece ≠ element tag content → split? piece = none

/-- What holds of reading any bytes. -/
structure StaysInside (bytes : Bytes) : Prop where
  /-- What is found are the parts of the bytes: a tag, a length that is that of the value, the value, and the rest. -/
  parts : ∀ tag content rest, split? bytes = some (tag, content, rest) ↔
    ∃ length, IsLength content.length length ∧ length.length ≤ 9 ∧ bytes = tag :: length ++ content ++ rest
  /-- So there is less to read afterwards. -/
  shorter : ∀ tag content rest, split? bytes = some (tag, content, rest) → rest.length + 2 ≤ bytes.length
  inWords : splitInWords bytes = .ok (split? bytes)

/-- **Elements end where they say.** Any tag and any value whose length fits into a word are read back from the element
that is written of them, whatever follows, and nothing is read from a piece of it. Whatever bytes come, with whatever
length in them, what is found are a tag, a length of at most nine bytes, a value of just this length, and the rest;
and a machine that reads the length into a word never cuts the bytes behind their end. -/
theorem elements_end_where_they_say :
    (∀ tag content, content.length < 2 ^ 64 → IsDelimited tag content) ∧ ∀ bytes, StaysInside bytes := by
  refine ⟨fun tag content small => ⟨?_, ?_⟩, fun bytes => ⟨?_, ?_, splitInWords_eq bytes⟩⟩
  · intro rest
    exact split?_eq_some.mpr ⟨_, isElement_element small, rfl⟩
  · intro piece begins missing
    exact split?_piece (isElement_element small) begins missing
  · exact fun tag content rest => split?_parts
  · intro tag content rest read
    obtain ⟨length, form, _, rfl⟩ := split?_parts.mp read
    have one := form.length_le.1
    simp only [List.length_append, List.length_cons]
    omega

private def threeHundred : Bytes := List.replicate 300 0x78

/-- Three hundred bytes have a length of two digits. Where a length of eight digits is told and nothing follows, nothing
is found. -/
theorem three_hundred_bytes_and_an_empty_boast :
    threeHundred.length < 2 ^ 64 ∧ IsDelimited 0x04 threeHundred ∧
      (element 0x04 threeHundred).take 5 = [0x04, 0x82, 0x01, 0x2c, 0x78] ∧
      splitInWords (0x04 :: 0x88 :: List.replicate 8 0xff) = .ok none := by
  have small : threeHundred.length < 2 ^ 64 := by
    rw [threeHundred, List.length_replicate]
    decide
  have start : (element 0x04 threeHundred).take 5 = [0x04, 0x82, 0x01, 0x2c, 0x78] := by decide +kernel
  have nothing : split? (0x04 :: 0x88 :: List.replicate 8 0xff) = none := by decide +kernel
  have inside := (elements_end_where_they_say.2 (0x04 :: 0x88 :: List.replicate 8 0xff)).inWords
  rw [nothing] at inside
  exact ⟨small, elements_end_where_they_say.1 0x04 threeHundred small, start, inside⟩

end HostSurvey.Probe.Ber
