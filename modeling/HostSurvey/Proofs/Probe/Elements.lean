import HostSurvey.Probe.Ber
import Mathlib.Tactic.Ring
/-!
# Elements and their bytes

The bytes of an element are told by a relation (`IsElement`), apart from both the writer and the reader: a tag, one
of the forms of a length, and the value.

1. The writer writes an element, as long as eight digits are enough for its length (`isElement_element`).
2. The reader takes off just what is an element (`split?_eq_some`, `take?_eq_some`), and with it what the writer
   wrote (`take?_element`).
3. Since a reader has one answer, no element is the beginning of another one (`isElement_unique`), and nothing is
   read from a piece of an element (`split?_piece`).
4. An integer is read as a number of two's complement (`integer?_eq_some`).
-/
namespace HostSurvey.Probe.Ber

/-! ## Digits -/

/-- Digits are read on top of the number in front of them. -/
theorem value_foldl (front : Nat) (bytes : Bytes) :
    bytes.foldl (fun n b => 256 * n + b.toNat) front = front * 256 ^ bytes.length + value bytes := by
  induction bytes generalizing front with
  | nil => simp [value]
  | cons b rest ih =>
    have first : value (b :: rest) = b.toNat * 256 ^ rest.length + value rest := by
      simpa [value] using ih (256 * 0 + b.toNat)
    rw [List.foldl_cons, ih, first, List.length_cons, Nat.pow_succ, Nat.add_mul, Nat.mul_comm 256 front,
      Nat.mul_assoc, Nat.mul_comm 256, Nat.add_assoc]

theorem value_cons (b : UInt8) (rest : Bytes) : value (b :: rest) = b.toNat * 256 ^ rest.length + value rest := by
  simpa [value] using value_foldl (256 * 0 + b.toNat) rest

theorem value_digits (n : Nat) : value (digits n) = n := by
  fun_induction digits n with
  | case1 => rfl
  | case2 n positive ih =>
    have last : (UInt8.ofNat (n % 256)).toNat = n % 256 := by
      rw [UInt8.toNat_ofNat']
      omega
    unfold value at ih ⊢
    rw [List.foldl_append, ih, List.foldl_cons, List.foldl_nil, last]
    omega

theorem digits_length {n width : Nat} (small : n < 256 ^ width) : (digits n).length ≤ width := by
  induction width generalizing n with
  | zero =>
    have nothing : n = 0 := by simpa using small
    simp [digits, nothing]
  | succ width ih =>
    rw [digits]
    by_cases nothing : n = 0
    · simp [nothing]
    · have shorter := ih (n := n / 256) (by rw [Nat.pow_succ] at small; omega)
      rw [if_neg nothing, List.length_append, List.length_singleton]
      omega

theorem digits_ne_nil {n : Nat} (positive : 0 < n) : digits n ≠ [] := by
  rw [digits, if_neg (Nat.ne_of_gt positive)]
  simp

/-! ## Lengths -/

/-- The forms of a length: one byte below 128, or the number of its digits and the digits. -/
inductive IsLength : Nat → Bytes → Prop where
  | short {b : UInt8} (low : b < 0x80) : IsLength b.toNat [b]
  | long {first : UInt8} {digits : Bytes} (counts : first.toNat = 0x80 + digits.length) (filled : digits ≠ [])
    (few : digits.length ≤ 8) : IsLength (value digits) (first :: digits)

theorem isLength_lengthBytes {n : Nat} (small : n < 2 ^ 64) : IsLength n (lengthBytes n) := by
  unfold lengthBytes
  by_cases low : n < 0x80
  · have same : (UInt8.ofNat n).toNat = n := by
      rw [UInt8.toNat_ofNat']
      omega
    have below : UInt8.ofNat n < 0x80 := by
      rw [UInt8.lt_iff_toNat_lt, same]
      exact low
    rw [if_pos low]
    have written := IsLength.short below
    rwa [same] at written
  · have few : (digits n).length ≤ 8 := digits_length (by omega)
    have counts : (UInt8.ofNat (0x80 + (digits n).length)).toNat = 0x80 + (digits n).length := by
      rw [UInt8.toNat_ofNat']
      omega
    have written := IsLength.long counts (digits_ne_nil (by omega)) few
    rw [value_digits] at written
    rw [if_neg low]
    exact written

/-- The reader of lengths takes off just what is a length. -/
theorem readLength?_eq_some {bytes rest : Bytes} {n : Nat} :
    readLength? bytes = some (n, rest) ↔ ∃ written, IsLength n written ∧ bytes = written ++ rest := by
  constructor
  · intro read
    unfold readLength? at read
    split at read
    · cases read
    · rename_i first more
      split at read
      · rename_i low
        cases read
        exact ⟨[first], .short low, rfl⟩
      · rename_i high
        dsimp only at read
        split at read
        · cases read
        · rename_i fits
          obtain ⟨rfl, rfl⟩ := Prod.mk.inj (Option.some.inj read)
          have above : 0x80 ≤ first.toNat := by
            simpa [UInt8.lt_iff_toNat_lt] using high
          have width : (more.take (first.toNat - 0x80)).length = first.toNat - 0x80 := by
            rw [List.length_take]
            omega
          refine ⟨first :: more.take (first.toNat - 0x80), .long (by omega) ?_ (by omega), ?_⟩
          · intro nothing
            rw [nothing, List.length_nil] at width
            omega
          · rw [List.cons_append, List.take_append_drop]
  · rintro ⟨written, form, rfl⟩
    cases form with
    | short low => simp [readLength?, low]
    | @long first digits counts filled few =>
      have high : ¬ first < 0x80 := by
        rw [UInt8.lt_iff_toNat_lt, counts]
        simp
      have width : first.toNat - 0x80 = digits.length := by omega
      have positive : 0 < digits.length := List.length_pos_iff.mpr filled
      have fits : ¬(digits.length = 0 ∨ 8 < digits.length ∨ (digits ++ rest).length < digits.length) := by
        rw [List.length_append]
        omega
      rw [List.cons_append, readLength?, if_neg high]
      dsimp only
      rw [width, if_neg fits, List.take_left, List.drop_left]

/-! ## Elements -/

/-- The bytes of an element: its tag, a form of the length of its value, and the value. -/
inductive IsElement (tag : UInt8) (content : Bytes) : Bytes → Prop where
  | mk {length : Bytes} (form : IsLength content.length length) : IsElement tag content (tag :: length ++ content)

section Elements
variable {tag : UInt8} {content bytes rest : Bytes}

theorem isElement_element (small : content.length < 2 ^ 64) : IsElement tag content (element tag content) :=
  .mk (isLength_lengthBytes small)

theorem length_lt_element (tag : UInt8) (content : Bytes) : content.length < (element tag content).length := by
  simp only [element, List.cons_append, List.length_cons, List.length_append]
  omega

/-- The reader takes off just what is an element. -/
theorem split?_eq_some : split? bytes = some (tag, content, rest) ↔
    ∃ written, IsElement tag content written ∧ bytes = written ++ rest := by
  constructor
  · intro read
    unfold split? at read
    split at read
    · cases read
    · rename_i first more
      obtain ⟨⟨n, behind⟩, length, onward⟩ := Option.bind_eq_some_iff.mp read
      obtain ⟨written, form, rfl⟩ := readLength?_eq_some.mp length
      dsimp only at onward
      split at onward
      · rename_i enough
        cases onward
        have same : (behind.take n).length = n := by
          rw [List.length_take]
          omega
        refine ⟨tag :: written ++ behind.take n, .mk (same.symm ▸ form), ?_⟩
        rw [List.append_assoc, List.cons_append, List.take_append_drop]
      · cases onward
  · rintro ⟨written, element, rfl⟩
    cases element with
    | @mk length form =>
      have read : readLength? (length ++ (content ++ rest)) = some (content.length, content ++ rest) :=
        readLength?_eq_some.mpr ⟨length, form, rfl⟩
      have enough : content.length ≤ (content ++ rest).length := by simp
      simp only [List.append_assoc, List.cons_append, split?, read, Option.bind_eq_bind, Option.bind_some,
        if_pos enough, List.take_left, List.drop_left]

theorem take?_eq_some : take? tag bytes = some (content, rest) ↔
    ∃ written, IsElement tag content written ∧ bytes = written ++ rest := by
  rw [← split?_eq_some]
  unfold take?
  constructor
  · intro taken
    obtain ⟨⟨found, inside, behind⟩, split, onward⟩ := Option.bind_eq_some_iff.mp taken
    dsimp only at onward
    split at onward
    · rename_i same
      cases onward
      rw [split, same]
    · cases onward
  · intro split
    simp [split]

theorem take?_element (small : content.length < 2 ^ 64) (rest : Bytes) :
    take? tag (element tag content ++ rest) = some (content, rest) :=
  take?_eq_some.mpr ⟨element tag content, isElement_element small, rfl⟩

/-- Where the bytes as a whole are not too many, neither are those of a part. -/
theorem take?_front (fits : (element tag content ++ rest).length < 2 ^ 64) :
    take? tag (element tag content ++ rest) = some (content, rest) ∧
      content.length < 2 ^ 64 ∧ rest.length < 2 ^ 64 := by
  have longer := length_lt_element tag content
  rw [List.length_append] at fits
  have small : content.length < 2 ^ 64 := by omega
  exact ⟨take?_element small rest, small, by omega⟩

theorem take?_whole (fits : (element tag content).length < 2 ^ 64) :
    take? tag (element tag content) = some (content, []) ∧ content.length < 2 ^ 64 := by
  rw [← List.append_nil (element tag content)] at fits ⊢
  obtain ⟨taken, small, _⟩ := take?_front fits
  exact ⟨taken, small⟩

/-- No element is the beginning of another one. -/
theorem isElement_unique {other : UInt8} {content' written written' rest' : Bytes} (one : IsElement tag content written)
    (two : IsElement other content' written') (same : written ++ rest = written' ++ rest') :
    tag = other ∧ content = content' ∧ written = written' ∧ rest = rest' := by
  have first : split? (written ++ rest) = some (tag, content, rest) := split?_eq_some.mpr ⟨written, one, rfl⟩
  have second := split?_eq_some.mpr ⟨written', two, same⟩
  cases first.symm.trans second
  exact ⟨rfl, rfl, List.append_cancel_right same, rfl⟩

theorem take?_other {other : UInt8} (different : tag ≠ other) (small : content.length < 2 ^ 64) (rest : Bytes) :
    take? other (element tag content ++ rest) = none := by
  cases taken : take? other (element tag content ++ rest) with
  | none => rfl
  | some found =>
    obtain ⟨written, two, same⟩ := take?_eq_some.mp taken
    exact absurd (isElement_unique (isElement_element small) two same).1 different

/-- Nothing is read from a piece of an element. -/
theorem split?_piece {written piece : Bytes} (element : IsElement tag content written) (begins : piece <+: written)
    (missing : piece ≠ written) : split? piece = none := by
  cases split : split? piece with
  | none => rfl
  | some found =>
    obtain ⟨other, inside, behind⟩ := found
    obtain ⟨shorter, two, rfl⟩ := split?_eq_some.mp split
    obtain ⟨more, whole⟩ := begins
    -- What is left of the element behind the piece would follow a whole element.
    rw [← List.append_nil written, List.append_assoc] at whole
    obtain ⟨_, _, same, _⟩ := isElement_unique two element whole
    have lengths := congrArg List.length whole
    simp only [List.length_append, List.length_nil, same] at lengths
    refine absurd ?_ missing
    rw [same, List.append_right_eq_self]
    exact List.length_eq_zero_iff.mp (by omega)

theorem take?_piece {other : UInt8} {written piece : Bytes} (element : IsElement tag content written)
    (begins : piece <+: written) (missing : piece ≠ written) : take? other piece = none := by
  unfold take?
  rw [split?_piece element begins missing]
  rfl

end Elements

/-! ## Integers -/

/-- The number that bytes write as two's complement. -/
def signed (bytes : Bytes) : Int :=
  match bytes with
  | [] => 0
  | first :: _ => if first < 0x80 then value bytes else value bytes - 256 ^ bytes.length

theorem signed_foldl (front : Int) (bytes : Bytes) :
    bytes.foldl (fun n b => 256 * n + (b.toNat : Int)) front = front * 256 ^ bytes.length + value bytes := by
  induction bytes generalizing front with
  | nil => simp [value]
  | cons b rest ih =>
    rw [List.foldl_cons, ih, value_cons, List.length_cons, Int.pow_succ]
    push_cast
    ring

theorem integer?_eq_some {bytes : Bytes} {n : Int} :
    integer? bytes = some n ↔ bytes ≠ [] ∧ bytes.length ≤ 8 ∧ signed bytes = n := by
  cases bytes with
  | nil => simp [integer?]
  | cons first rest =>
    have read : integer? (first :: rest) =
        if 8 < (first :: rest).length then none else some (signed (first :: rest)) := by
      unfold integer? signed
      dsimp only
      rw [signed_foldl]
      by_cases low : first < 0x80
      · rw [if_pos low, if_pos low, Int.zero_mul, Int.zero_add]
      · rw [if_neg low, if_neg low, Int.neg_one_mul, Int.add_comm, Int.sub_eq_add_neg]
    rw [read]
    by_cases long : 8 < (first :: rest).length
    · simp only [if_pos long, reduceCtorEq, false_iff]
      omega
    · simp only [if_neg long, Option.some.injEq, ne_eq, reduceCtorEq, not_false_eq_true, Nat.not_lt.mp long, true_and]

end HostSurvey.Probe.Ber
