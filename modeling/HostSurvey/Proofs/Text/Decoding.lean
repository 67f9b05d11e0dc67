import HostSurvey.Text.Line
import HostSurvey.Text.Utf8
import Mathlib
/-!
# What bytes show

The text in bytes, well formed or not, and the line in a text.

1. A scan for a stop ends at the first one (`takeWhile_past`, `takeWhile_upTo`).
2. A character of several bytes is none of ASCII, however its bytes go on (`sound_lead`, `sound_next`, `beyond_last`).
3. So a character of ASCII is shown if and only if its byte is there (`mem_decodeLossy`), and in front of other
   characters it is shown where its byte stands (`decodeLossy_front`). Nor does a byte beyond ASCII ever go unseen: a
   text of nothing but certain characters of ASCII comes from their bytes alone (`forall_decodeLossy`).
4. Without the line ends at its end a text begins as it did (`chomp_front`, `chomp_begins`), and it ends with no line
   end (`chomp_ends`). Nothing is left of it if it is made up of line ends (`chomp_eq_empty`).
-/
namespace HostSurvey.Text

/-! ## Stops -/

section Stops
variable {α : Type} [DecidableEq α] {stop : α} {front : List α}

/-- A scan for a stop passes over what holds none. -/
theorem takeWhile_past (free : stop ∉ front) (rest : List α) :
    (front ++ rest).takeWhile (· ≠ stop) = front ++ rest.takeWhile (· ≠ stop) := by
  refine List.takeWhile_append_of_pos fun item there => ?_
  simpa using ne_of_mem_of_not_mem there free

theorem takeWhile_upTo (free : stop ∉ front) (rest : List α) :
    (front ++ stop :: rest).takeWhile (· ≠ stop) = front := by
  rw [takeWhile_past free, List.takeWhile_cons_of_neg (by simp), List.append_nil]

end Stops

namespace Utf8

/-! ## Characters of several bytes -/

namespace Partial

/-- The least code point that further bytes can lead to. -/
def first (p : Partial) : Nat := 64 ^ (p.missing - 1) * (64 * p.bits + (p.least.toNat - 0x80))

/-- The code points that further bytes can lead to are below this one. -/
def bound (p : Partial) : Nat := 64 ^ (p.missing - 1) * (64 * p.bits + (p.greatest.toNat - 0x80) + 1)

/-- Whatever bytes complete the character, it is one beyond ASCII, and not a half of one. -/
structure IsSound (p : Partial) : Prop where
  missing : 1 ≤ p.missing
  least : 0x80 ≤ p.least.toNat
  beyond : 0x80 ≤ p.first
  whole : p.bound ≤ 0xd800 ∨ 0xe000 ≤ p.first ∧ p.bound ≤ 0x110000

/-- The character with one more byte read. -/
def next (p : Partial) (b : UInt8) : Partial :=
  ⟨64 * p.bits + (b.toNat - 0x80), p.missing - 1, 0x80, 0xbf⟩

end Partial

theorem sound_lead {b : UInt8} {p : Partial} (opens : lead b = .opens p) : p.IsSound := by
  have size := b.toNat_lt
  unfold lead at opens
  -- One case for each pair of bounds that the first byte sets on the second one.
  split_ifs at opens
  all_goals
    injection opens with opens
    subst opens
    simp only [UInt8.lt_iff_toNat_lt, ← UInt8.toNat_inj, UInt8.reduceToNat] at *
    constructor
    all_goals
      dsimp only [Partial.first, Partial.bound, UInt8.reduceToNat]
      omega

section Next
variable {p : Partial} {b : UInt8}

theorem sound_next (sound : p.IsSound) (low : p.least ≤ b) (high : b ≤ p.greatest) (more : 1 < p.missing) :
    (p.next b).IsSound := by
  obtain ⟨width, now⟩ : ∃ width, p.missing - 1 = width + 1 := ⟨p.missing - 2, by omega⟩
  have fewer : p.missing - 1 - 1 = width := by omega
  have least := sound.least
  rw [UInt8.le_iff_toNat_le] at low high
  -- One byte less is missing, so the bounds are those of before, divided by 64 and sharpened by the byte.
  have lower : p.first ≤ (p.next b).first := by
    dsimp only [Partial.first, Partial.next, UInt8.reduceToNat]
    rw [fewer, now, Nat.pow_succ, Nat.mul_assoc]
    exact Nat.mul_le_mul_left _ (by omega)
  have upper : (p.next b).bound ≤ p.bound := by
    dsimp only [Partial.bound, Partial.next, UInt8.reduceToNat]
    rw [fewer, now, Nat.pow_succ, Nat.mul_assoc]
    exact Nat.mul_le_mul_left _ (by omega)
  constructor
  case missing => exact Nat.le_sub_one_of_lt more
  case least => exact Nat.le_refl _
  case beyond => exact Nat.le_trans sound.beyond lower
  case whole =>
    have := sound.whole
    omega

theorem beyond_last (sound : p.IsSound) (low : p.least ≤ b) (high : b ≤ p.greatest) (last : p.missing ≤ 1) :
    0x80 ≤ (p.next b).bits ∧ (p.next b).bits.isValidChar := by
  have one : p.missing = 1 := Nat.le_antisymm last sound.missing
  have least := sound.least
  have beyond := sound.beyond
  have whole := sound.whole
  dsimp only [Partial.first, Partial.bound] at beyond whole
  rw [one] at beyond whole
  rw [UInt8.le_iff_toNat_le] at low high
  unfold Partial.next Nat.isValidChar
  dsimp only
  omega

end Next

/-! ## Characters of ASCII -/

theorem toNat_ofNat_byte (b : UInt8) : (Char.ofNat b.toNat).toNat = b.toNat := by
  have valid : b.toNat.isValidChar := .inl (Nat.lt_trans b.toNat_lt (by decide))
  rw [Char.toNat_ofNat, if_pos valid]

theorem low_char {b : UInt8} (low : b < 0x80) : (Char.ofNat b.toNat).toNat < 0x80 :=
  (toNat_ofNat_byte b).trans_lt (UInt8.lt_iff_toNat_lt.mp low)

/-- Different bytes stand for different characters. -/
theorem ofNat_byte_inj {a b : UInt8} : Char.ofNat a.toNat = Char.ofNat b.toNat ↔ a = b := by
  refine ⟨fun same => ?_, fun same => same ▸ rfl⟩
  have points := congrArg Char.toNat same
  rw [toNat_ofNat_byte, toNat_ofNat_byte] at points
  exact UInt8.toNat_inj.mp points

theorem lead_whole {b : UInt8} (low : b < 0x80) : lead b = .whole (Char.ofNat b.toNat) := by
  rw [lead, if_pos low]

theorem lead_other {b : UInt8} (high : ¬ b < 0x80) (c : Char) : lead b ≠ .whole c := by
  unfold lead
  split_ifs <;> simp

/-- A byte that does not go on with a character leaves it ill formed, and starts another one. -/
theorem scan_broken {p : Partial} {b : UInt8} {rest : Bytes} (broken : ¬ (p.least ≤ b ∧ b ≤ p.greatest)) :
    scan (some p) (b :: rest) = none :: scan none (b :: rest) := by
  simp only [scan, if_neg broken]

theorem scan_last {p : Partial} {b : UInt8} {rest : Bytes} (goes : p.least ≤ b ∧ b ≤ p.greatest)
    (last : p.missing ≤ 1) : scan (some p) (b :: rest) = some (Char.ofNat (p.next b).bits) :: scan none rest := by
  simp only [scan, if_pos goes, if_pos last]
  rfl

theorem scan_next {p : Partial} {b : UInt8} {rest : Bytes} (goes : p.least ≤ b ∧ b ≤ p.greatest)
    (more : 1 < p.missing) : scan (some p) (b :: rest) = scan (some (p.next b)) rest := by
  simp only [scan, if_pos goes, if_neg (Nat.not_le.mpr more)]
  rfl

theorem scan_low {b : UInt8} (low : b < 0x80) (rest : Bytes) :
    scan none (b :: rest) = some (Char.ofNat b.toNat) :: scan none rest := by
  simp only [scan, lead_whole low]

/-- A scan shows a character of ASCII where its byte stands, whatever character it is in the middle of. -/
theorem mem_scan {b : UInt8} (low : b < 0x80) (bytes : Bytes) (state : Option Partial)
    (sound : ∀ p ∈ state, p.IsSound) : some (Char.ofNat b.toNat) ∈ scan state bytes ↔ b ∈ bytes := by
  induction bytes generalizing state with
  | nil => cases state <;> simp [scan]
  | cons a rest ih =>
    have unread := ih none (by simp)
    have start : some (Char.ofNat b.toNat) ∈ scan none (a :: rest) ↔ b ∈ a :: rest := by
      by_cases whole : a < 0x80
      · rw [scan_low whole, List.mem_cons, List.mem_cons, unread, Option.some.injEq, ofNat_byte_inj]
      · have other : b ≠ a := fun same => whole (same ▸ low)
        cases led : lead a with
        | whole c => exact absurd led (lead_other whole c)
        | opens p => simpa [scan, led, other] using ih (some p) (by simpa using sound_lead led)
        | illFormed => simpa [scan, led, other] using unread
    cases state with
    | none => exact start
    | some p =>
      have sound : p.IsSound := sound p rfl
      by_cases goes : p.least ≤ a ∧ a ≤ p.greatest
      · have other : b ≠ a := by
          rintro rfl
          exact absurd (Nat.le_trans sound.least (UInt8.le_iff_toNat_le.mp goes.1)) (Nat.not_le.mpr low)
        rw [List.mem_cons, or_iff_right other]
        rcases Nat.lt_or_ge 1 p.missing with more | last
        · rw [scan_next goes more]
          exact ih _ (by simpa using sound_next sound goes.1 goes.2 more)
        · obtain ⟨beyond, valid⟩ := beyond_last sound goes.1 goes.2 last
          rw [scan_last goes last, List.mem_cons, unread, Option.some.injEq]
          refine or_iff_right fun same => ?_
          have size := low_char low
          rw [same, Char.toNat_ofNat, if_pos valid] at size
          exact absurd beyond (Nat.not_le.mpr size)
      · rw [scan_broken goes, List.mem_cons, start, or_iff_right (by simp)]

/-- **ASCII shows itself.** A text shows a character of ASCII if and only if its byte is there. -/
theorem mem_decodeLossy {b : UInt8} (low : b < 0x80) (bytes : Bytes) :
    Char.ofNat b.toNat ∈ (decodeLossy bytes).toList ↔ b ∈ bytes := by
  have mark : ('\ufffd' : Char) ≠ Char.ofNat b.toNat := by
    intro same
    have size := low_char low
    rw [← same] at size
    exact absurd size (by decide)
  rw [← mem_scan low bytes none (by simp), decodeLossy, String.toList_ofList, List.mem_map]
  constructor
  · rintro ⟨shown, there, same⟩
    cases shown with
    | none => exact absurd same mark
    | some c => exact same ▸ there
  · exact fun there => ⟨_, there, rfl⟩

theorem decodeLossy_cons {b : UInt8} (low : b < 0x80) (rest : Bytes) :
    (decodeLossy (b :: rest)).toList = Char.ofNat b.toNat :: (decodeLossy rest).toList := by
  simp [decodeLossy, scan_low low]

/-- Bytes of ASCII in front show the characters that they stand for, whatever comes behind them. -/
theorem decodeLossy_front {front : List Char} {bytes : Bytes} (low : ∀ c ∈ front, c.toNat < 0x80)
    (begins : front <+: bytes.map fun b => Char.ofNat b.toNat) : front <+: (decodeLossy bytes).toList := by
  induction front generalizing bytes with
  | nil => exact List.nil_prefix
  | cons c more ih =>
    obtain ⟨first, others⟩ := List.forall_mem_cons.mp low
    cases bytes with
    | nil => simp at begins
    | cons b rest =>
      obtain ⟨rfl, behind⟩ := List.cons_prefix_cons.mp begins
      rw [toNat_ofNat_byte] at first
      rw [decodeLossy_cons (UInt8.lt_iff_toNat_lt.mpr first)]
      exact List.cons_prefix_cons.mpr ⟨rfl, ih others behind⟩

theorem decodeLossy_ascii {bytes : Bytes} (low : ∀ b ∈ bytes, b < 0x80) :
    (decodeLossy bytes).toList = bytes.map fun b => Char.ofNat b.toNat := by
  induction bytes with
  | nil => simp [decodeLossy, scan]
  | cons b rest ih =>
    obtain ⟨first, others⟩ := List.forall_mem_cons.mp low
    rw [decodeLossy_cons first, ih others, List.map_cons]

/-- A character of several bytes shows as one beyond ASCII, or as the mark in its place. -/
theorem scan_opened {p : Partial} (sound : p.IsSound) (bytes : Bytes) :
    ∃ c ∈ (scan (some p) bytes).map (·.getD '\ufffd'), 0x80 ≤ c.toNat := by
  induction bytes generalizing p with
  | nil => exact ⟨'\ufffd', by simp [scan], by decide⟩
  | cons b rest ih =>
    by_cases goes : p.least ≤ b ∧ b ≤ p.greatest
    · rcases Nat.lt_or_ge 1 p.missing with more | last
      · rw [scan_next goes more]
        exact ih (sound_next sound goes.1 goes.2 more)
      · obtain ⟨beyond, valid⟩ := beyond_last sound goes.1 goes.2 last
        refine ⟨Char.ofNat (p.next b).bits, by simp [scan_last goes last], ?_⟩
        rwa [Char.toNat_ofNat, if_pos valid]
    · exact ⟨'\ufffd', by simp [scan_broken goes], by decide⟩

/-- A byte beyond ASCII leaves something beyond ASCII in the text. -/
theorem low_of_decodeLossy {bytes : Bytes} (low : ∀ c ∈ (decodeLossy bytes).toList, c.toNat < 0x80) :
    ∀ b ∈ bytes, b < 0x80 := by
  induction bytes with
  | nil => simp
  | cons b rest ih =>
    by_cases first : b < 0x80
    · rw [decodeLossy_cons first] at low
      exact List.forall_mem_cons.mpr ⟨first, ih (List.forall_mem_cons.mp low).2⟩
    · have high : ∃ c ∈ (decodeLossy (b :: rest)).toList, 0x80 ≤ c.toNat := by
        rw [decodeLossy, String.toList_ofList]
        cases led : lead b with
        | whole c => exact absurd led (lead_other first c)
        | opens p => simpa only [scan, led] using scan_opened (sound_lead led) rest
        | illFormed => exact ⟨'\ufffd', by simp [scan, led], by decide⟩
      obtain ⟨c, there, beyond⟩ := high
      exact absurd (low c there) (Nat.not_lt.mpr beyond)

/-- A text shows only characters of a kind, all of ASCII, if and only if the bytes are all of this kind. -/
theorem forall_decodeLossy {kind : Char → Prop} (ascii : ∀ c, kind c → c.toNat < 0x80) {bytes : Bytes} :
    (∀ c ∈ (decodeLossy bytes).toList, kind c) ↔ ∀ b ∈ bytes, kind (Char.ofNat b.toNat) := by
  constructor
  · intro all
    have low := low_of_decodeLossy fun c there => ascii c (all c there)
    simpa only [decodeLossy_ascii low, List.forall_mem_map] using all
  · intro all
    have low : ∀ b ∈ bytes, b < 0x80 := by
      intro b there
      have size := ascii _ (all b there)
      rw [toNat_ofNat_byte] at size
      exact UInt8.lt_iff_toNat_lt.mpr size
    simpa only [decodeLossy_ascii low, List.forall_mem_map] using all

theorem decodeLossy_eq_empty {bytes : Bytes} : decodeLossy bytes = "" ↔ bytes = [] := by
  have same : (∀ c ∈ (decodeLossy bytes).toList, False) ↔ ∀ b ∈ bytes, False := forall_decodeLossy (by simp)
  simpa [← List.eq_nil_iff_forall_not_mem] using same

end Utf8

/-! ## Lines -/

theorem chomp_toList (text : String) : (chomp text).toList = text.toList.rdropWhile isLineEnd :=
  String.toList_ofList

theorem chomp_eq_empty {text : String} : chomp text = "" ↔ ∀ c ∈ text.toList, isLineEnd c = true := by
  rw [← String.toList_eq_nil_iff, chomp_toList, List.rdropWhile_eq_nil_iff]

theorem chomp_front (text : String) : (chomp text).toList <+: text.toList := by
  rw [chomp_toList]
  exact List.rdropWhile_prefix _ _

/-- A line ends with no line end. -/
theorem chomp_ends {text : String} {c : Char} (last : (chomp text).toList.getLast? = some c) :
    c ≠ '\r' ∧ c ≠ '\n' := by
  rw [chomp_toList] at last
  obtain ⟨full, same⟩ := List.mem_getLast?_eq_getLast last
  have kept : ¬ isLineEnd c := same ▸ List.rdropWhile_last_not _ _ full
  simpa [isLineEnd] using kept

/-- A line begins as its text does, unless that begins with a line end. -/
theorem chomp_begins {text : String} {c : Char} (first : text.toList.head? = some c) (other : isLineEnd c = false) :
    (chomp text).toList.head? = some c := by
  obtain ⟨rest, whole⟩ := List.head?_eq_some_iff.mp first
  have kept : (chomp text).toList ≠ [] := by
    rw [chomp_toList, Ne, List.rdropWhile_eq_nil_iff]
    intro ends
    have last := ends c (by simp [whole])
    simp [other] at last
  obtain ⟨d, line, begins⟩ := List.exists_cons_of_ne_nil kept
  obtain ⟨behind, front⟩ := chomp_front text
  rw [begins, whole] at front
  cases front
  simp [begins]

end HostSurvey.Text
