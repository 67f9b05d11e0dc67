import HostSurvey.Dns.Name
import HostSurvey.Proofs.Text.Decoding
/-!
# How labels are shown

The text of a name shows each label with a dot behind it. A label may hold the byte of a dot as well.

1. A label is shown byte by byte, and only the byte of a dot shows one, with a backslash in front
   (`dot_mem_showPlain`, `showPlain_cut`).
2. What a label that carries a code stands for is for a reader of codes to say. It keeps the dots of the label and
   begins with none (`CodeReader`). The program's own reader shows a label in pieces, with a dot between them for each
   one that stands in the label, and what a code stands for holds no dot (`dotless_piece`, `dot_mem_toUnicode`).
3. So a label that holds the byte of a dot shows a dot (`dot_shown`), and only such a label does, if it carries no
   code or is one of ASCII (`dot_mem_showLabel`). It never begins with a dot (`showLabel_begins`).
-/
namespace HostSurvey.Dns

open HostSurvey.Text

namespace International

/-! ## Pieces -/

theorem pieces_eq (text : List Char) : ∃ more, pieces text = text.takeWhile (· ≠ '.') :: more ∧
    (more = [] ↔ '.' ∉ text) := by
  induction text with
  | nil => exact ⟨[], rfl, by simp⟩
  | cons c rest ih =>
    obtain ⟨more, whole, single⟩ := ih
    by_cases dot : c = '.'
    · exact ⟨_, by simp [pieces, whole, dot]; rfl, by simp [dot]⟩
    · exact ⟨more, by simp [pieces, whole, dot], by simp [single, Ne.symm dot]⟩

theorem dotless_pieces {text piece : List Char} (member : piece ∈ pieces text) : '.' ∉ piece := by
  induction text generalizing piece with
  | nil =>
    rw [pieces, List.mem_singleton] at member
    simp [member]
  | cons c rest ih =>
    obtain ⟨more, whole, _⟩ := pieces_eq rest
    rw [pieces, whole] at member
    rw [whole] at ih
    by_cases dot : c = '.'
    · simp only [dot, if_true, List.mem_cons] at member
      rcases member with rfl | member
      · simp
      · exact ih (List.mem_cons.mpr member)
    · simp only [dot, if_false, List.mem_cons] at member
      rcases member with rfl | member
      · exact List.not_mem_cons_of_ne_of_not_mem (Ne.symm dot) (ih List.mem_cons_self)
      · exact ih (List.mem_cons_of_mem _ member)

/-- Pieces without dots have dots between them and nowhere else. -/
theorem dot_mem_joined {parts : List (List Char)} (dotless : ∀ part ∈ parts, '.' ∉ part) :
    '.' ∈ joined parts ↔ 2 ≤ parts.length := by
  fun_cases joined parts with
  | case1 => simp
  | case2 part => simpa using dotless
  | case3 part more other =>
    have second : 1 ≤ more.length := List.length_pos_iff.mpr other
    simp [second]

/-! ## What codes stand for -/

/-- The characters of ASCII in a text stand in its code as well. -/
theorem mem_encode {c : Char} {text : List Char} (there : c ∈ text) (low : c.toNat < 128) :
    c ∈ Punycode.encode text := by
  have basic : c ∈ text.filter (·.toNat < 128) := List.mem_filter.mpr ⟨there, by simpa using low⟩
  exact List.mem_append_left _ (List.mem_append_left _ basic)

theorem decode?_eq_some {code label : List Char} (decoded : decode? code = some label) :
    isLabel label = true ∧ Punycode.encode label = code := by
  simp only [decode?, Option.bind_eq_bind, Option.bind_eq_some_iff] at decoded
  obtain ⟨text, _, kept⟩ := decoded
  split_ifs at kept with proper
  cases kept
  simpa using proper

theorem dotless_piece {piece part : List Char} (shown : pieceToUnicode? piece = some part) (dotless : '.' ∉ piece) :
    '.' ∉ part := by
  unfold pieceToUnicode? at shown
  split_ifs at shown
  · intro dot
    have coded := mem_encode dot (by decide)
    rw [(decode?_eq_some shown).2] at coded
    exact dotless (List.mem_of_mem_drop coded)
  · cases shown
    exact dotless

/-- A piece that carries a code stands for something. -/
theorem coded_piece {rest part : List Char} (shown : pieceToUnicode? (mark ++ rest) = some part) : part ≠ [] := by
  have marked : mark.isPrefixOf (mark ++ rest) = true := List.isPrefixOf_iff_prefix.mpr ⟨rest, rfl⟩
  rw [pieceToUnicode?, if_pos marked] at shown
  rintro rfl
  exact absurd (decode?_eq_some shown).1 (by decide)

theorem mapM_eq_some {α β : Type} {f : α → Option β} {items : List α} {results : List β}
    (mapped : items.mapM f = some results) : List.Forall₂ (fun item result => f item = some result) items results := by
  induction items generalizing results with
  | nil =>
    cases mapped
    exact .nil
  | cons item more ih =>
    simp only [List.mapM_cons, Option.bind_eq_bind, Option.bind_eq_some_iff] at mapped
    obtain ⟨first, found, others, rest, same⟩ := mapped
    cases same
    exact .cons found (ih rest)

/-! ## Labels with codes -/

/-- Pieces are shown one by one. -/
def Shows : List (List Char) → List (List Char) → Prop :=
  List.Forall₂ fun piece part => pieceToUnicode? piece = some part

theorem dotless_parts {pieces parts : List (List Char)} (shows : Shows pieces parts)
    (dotless : ∀ piece ∈ pieces, '.' ∉ piece) : ∀ part ∈ parts, '.' ∉ part := by
  induction shows with
  | nil => simp
  | cons shown _ ih =>
    obtain ⟨first, others⟩ := List.forall_mem_cons.mp dotless
    exact List.forall_mem_cons.mpr ⟨dotless_piece shown first, ih others⟩

/-- What a label is folded to keeps its pieces when it is shown. -/
theorem toUnicode?_eq_some {label shown : List Char} (found : toUnicode? label = some shown) :
    ∃ parts, Shows (pieces (label.flatMap fold)) parts ∧ (∀ part ∈ parts, '.' ∉ part) ∧ shown = joined parts := by
  simp only [toUnicode?, Option.bind_eq_bind, Option.bind_eq_some_iff, Option.some.injEq] at found
  obtain ⟨parts, mapped, rfl⟩ := found
  have shows : Shows _ parts := mapM_eq_some mapped
  exact ⟨parts, shows, dotless_parts shows fun piece => dotless_pieces, rfl⟩

/-- A label shows a dot if and only if it is folded to one. -/
theorem dot_mem_toUnicode {label shown : List Char} (found : toUnicode? label = some shown) :
    '.' ∈ shown ↔ '.' ∈ label.flatMap fold := by
  obtain ⟨parts, shows, dotless, rfl⟩ := toUnicode?_eq_some found
  obtain ⟨more, whole, single⟩ := pieces_eq (label.flatMap fold)
  rw [dot_mem_joined dotless, ← shows.length_eq, whole, List.length_cons, Nat.succ_le_succ_iff, Nat.succ_le_iff,
    List.length_pos_iff, Ne, single, not_not]

/-- A label that carries a code is shown with something in front of its first dot. -/
theorem toUnicode_begins {rest shown : List Char} (found : toUnicode? (mark ++ rest) = some shown) :
    shown ≠ [] ∧ shown.head? ≠ some '.' := by
  obtain ⟨parts, shows, dotless, rfl⟩ := toUnicode?_eq_some found
  obtain ⟨more, whole, _⟩ := pieces_eq ((mark ++ rest).flatMap fold)
  have front : ((mark ++ rest).flatMap fold).takeWhile (· ≠ '.') =
      mark ++ (rest.flatMap fold).takeWhile (· ≠ '.') := by
    have folded : mark.flatMap fold = mark := by decide +kernel
    have dotless : '.' ∉ mark := by simp [mark]
    rw [List.flatMap_append, folded, takeWhile_past dotless]
  rw [whole, front] at shows
  obtain ⟨part, others, first, _, rfl⟩ := List.forall₂_cons_left_iff.mp shows
  obtain ⟨c, line, rfl⟩ := List.exists_cons_of_ne_nil (coded_piece first)
  have other : c ≠ '.' := by
    rintro rfl
    exact (dotless _ List.mem_cons_self) List.mem_cons_self
  cases others with
  | nil => simpa [joined] using other
  | cons second others => simpa [joined] using other

private theorem dotless_byte : ∀ b : UInt8, b < 0x80 → b ≠ 0x2e → '.' ∉ fold (Char.ofNat b.toNat) := by
  decide +kernel

theorem dotless_fold {c : Char} (low : c.toNat < 128) (other : c ≠ '.') : '.' ∉ fold c := by
  have value : (UInt8.ofNat c.toNat).toNat = c.toNat := Nat.mod_eq_of_lt (by omega)
  have whole : Char.ofNat (UInt8.ofNat c.toNat).toNat = c := by rw [value, Char.ofNat_toNat]
  have small : UInt8.ofNat c.toNat < 0x80 := by
    rw [UInt8.lt_iff_toNat_lt, value]
    exact low
  have different : UInt8.ofNat c.toNat ≠ 0x2e := by
    intro same
    rw [same] at whole
    exact other whole.symm
  exact whole ▸ dotless_byte _ small different

end International

/-! ## Readers of codes -/

/-- A reader of labels that carry a code (`to_unicode`). Which codes it reads, and what they stand for, is for it to
say. -/
structure CodeReader where
  toUnicode? : List Char → Option (List Char)
  /-- A label with a code stands for something, and not for something that begins with a dot. -/
  begins : ∀ {rest shown}, toUnicode? (International.mark ++ rest) = some shown → shown ≠ [] ∧ shown.head? ≠ some '.'
  /-- A dot stays a dot. -/
  keepsDots : ∀ {label shown}, toUnicode? label = some shown → '.' ∈ label → '.' ∈ shown
  /-- No character of ASCII becomes a dot. -/
  addsNone : ∀ {label shown}, toUnicode? label = some shown → (∀ c ∈ label, c.toNat < 128) → '.' ∈ shown → '.' ∈ label

/-- The reader that the program runs with. -/
def CodeReader.standard : CodeReader where
  toUnicode? := International.toUnicode?
  begins := International.toUnicode_begins
  keepsDots := by
    intro label shown found dot
    have kept : '.' ∈ International.fold '.' := by decide +kernel
    exact (International.dot_mem_toUnicode found).mpr (List.mem_flatMap.mpr ⟨_, dot, kept⟩)
  addsNone := by
    intro label shown found low dot
    obtain ⟨c, there, folded⟩ := List.mem_flatMap.mp ((International.dot_mem_toUnicode found).mp dot)
    by_contra dotless
    exact International.dotless_fold (low c there) (ne_of_mem_of_not_mem there dotless) folded

namespace Name

/-! ## Labels byte by byte -/

theorem dot_mem_showByte : ∀ (first : Bool) (b : UInt8), '.' ∈ showByte first b ↔ b = 0x2e := by
  decide +kernel

theorem showByte_begins : ∀ (first : Bool) (b : UInt8),
    showByte first b ≠ [] ∧ (showByte first b).head? ≠ some '.' := by
  decide +kernel

theorem dot_mem_showPlain {label : Bytes} : '.' ∈ showPlain label ↔ 0x2e ∈ label := by
  cases label with
  | nil => simp [showPlain]
  | cons b rest => simp [showPlain, dot_mem_showByte, eq_comm]

/-- What is behind a dot in a label is shown as inner bytes. -/
theorem showPlain_cut (before after : Bytes) : showPlain (before ++ 0x2e :: after) =
    (showPlain before ++ ['\\']) ++ '.' :: after.flatMap (showByte false) := by
  have escaped : ∀ first, showByte first 0x2e = ['\\', '.'] := by decide +kernel
  cases before with
  | nil => simp [showPlain, escaped]
  | cons b rest => simp [showPlain, escaped]

/-! ## Labels -/

/-- A label that carries a code for characters beyond ASCII. -/
def IsCoded (label : Bytes) : Prop := International.mark <+: label.map fun b => Char.ofNat b.toNat

theorem isCoded_iff {label : Bytes} :
    International.mark.isPrefixOf (label.map fun b => Char.ofNat b.toNat) = true ↔ IsCoded label :=
  List.isPrefixOf_iff_prefix

theorem showLabel_plain {label : Bytes} (plain : ¬ IsCoded label) (toUnicode? : List Char → Option (List Char)) :
    showLabel toUnicode? label = showPlain label := by
  rw [showLabel, if_neg (mt isCoded_iff.mp plain)]

theorem showLabel_coded {label : Bytes} (coded : IsCoded label) (toUnicode? : List Char → Option (List Char)) :
    showLabel toUnicode? label = (toUnicode? (Utf8.decodeLossy label).toList).getD (showPlain label) := by
  rw [showLabel, if_pos (isCoded_iff.mpr coded)]

theorem IsCoded.begins {label : Bytes} (coded : IsCoded label) :
    ∃ rest, International.mark ++ rest = (Utf8.decodeLossy label).toList :=
  Utf8.decodeLossy_front (by simp [International.mark]) coded

variable {codes : CodeReader}

/-- A label is not shown with a dot in front. -/
theorem showLabel_begins {label : Bytes} (full : label ≠ []) :
    showLabel codes.toUnicode? label ≠ [] ∧ (showLabel codes.toUnicode? label).head? ≠ some '.' := by
  have plain : showPlain label ≠ [] ∧ (showPlain label).head? ≠ some '.' := by
    obtain ⟨b, rest, rfl⟩ := List.exists_cons_of_ne_nil full
    obtain ⟨shows, first⟩ := showByte_begins true b
    simpa [showPlain, shows, List.head?_append] using first
  by_cases coded : IsCoded label
  · rw [showLabel_coded coded]
    obtain ⟨rest, text⟩ := coded.begins
    cases found : codes.toUnicode? (Utf8.decodeLossy label).toList with
    | none => exact plain
    | some shown => exact codes.begins (text.symm ▸ found)
  · rw [showLabel_plain coded]
    exact plain

/-- A label that holds the byte of a dot shows a dot. -/
theorem dot_shown {label : Bytes} (dot : 0x2e ∈ label) : '.' ∈ showLabel codes.toUnicode? label := by
  by_cases coded : IsCoded label
  · rw [showLabel_coded coded]
    cases found : codes.toUnicode? (Utf8.decodeLossy label).toList with
    | none => exact dot_mem_showPlain.mpr dot
    | some shown => exact codes.keepsDots found ((Utf8.mem_decodeLossy (b := 0x2e) (by decide) label).mpr dot)
  · rw [showLabel_plain coded]
    exact dot_mem_showPlain.mpr dot

/-- A label that carries no code, or is one of ASCII, shows a dot only for the byte of one. -/
theorem dot_mem_showLabel {label : Bytes} (usual : ¬ IsCoded label ∨ ∀ b ∈ label, b < 0x80) :
    '.' ∈ showLabel codes.toUnicode? label ↔ 0x2e ∈ label := by
  refine ⟨fun shows => ?_, dot_shown⟩
  by_cases coded : IsCoded label
  · have low := usual.resolve_left (not_not.mpr coded)
    rw [showLabel_coded coded] at shows
    cases found : codes.toUnicode? (Utf8.decodeLossy label).toList with
    | none =>
      rw [found] at shows
      exact dot_mem_showPlain.mp shows
    | some shown =>
      rw [found] at shows
      have ascii : ∀ c ∈ (Utf8.decodeLossy label).toList, c.toNat < 128 := by
        rw [Utf8.decodeLossy_ascii low]
        intro c member
        obtain ⟨b, there, rfl⟩ := List.mem_map.mp member
        have small : b.toNat < 128 := UInt8.lt_iff_toNat_lt.mp (low b there)
        rwa [Char.toNat_ofNat, if_pos (by simp [Nat.isValidChar]; omega)]
      have dot := codes.addsNone found ascii shows
      exact (Utf8.mem_decodeLossy (b := 0x2e) (by decide) label).mp dot
  · rw [showLabel_plain coded] at shows
    exact dot_mem_showPlain.mp shows

end Name
end HostSurvey.Dns
