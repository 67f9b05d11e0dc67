import HostSurvey.Proofs.Probe.Tokens
import HostSurvey.Proofs.Text.Decoding
/-!
# The banner of a terminal server

The text behind the negotiation is shown from its first visible character up to the first zero byte behind it, and of
that the last line ends are left out.

1. A text with a visible character falls into what is skipped, what is shown and what is cut off (`shown_of_visible`).
   What is shown is the banner (`bannerOf_shown`). It holds no zero byte, and it begins with that character, so that
   it is never empty (`isBanner_shown`).
2. What negotiation skips is not visible (`bannerOf_stray`). So a server that gives no command has the banner of all
   that it sends (`feed_plain`).
-/
namespace HostSurvey.Probe.Telnet

open HostSurvey.Text

/-! ## What is shown -/

/-- A character of ASCII that leaves a mark on paper. -/
def IsVisible (b : UInt8) : Prop := 0x21 ≤ b ∧ b ≤ 0x7e

/-- A text in parts: what is in front of the first visible character, this one, what is shown behind it, and what is
cut off. -/
structure Shown (text skipped : Bytes) (first : UInt8) (more cut : Bytes) : Prop where
  whole : text = skipped ++ first :: (more ++ cut)
  skips : ∀ b ∈ skipped, ¬ IsVisible b
  visible : IsVisible first
  unbroken : 0 ∉ more
  /-- What is cut off begins with a zero byte. -/
  cuts : cut = [] ∨ cut.head? = some 0

/-- What is true of a banner for a visible character and what is shown behind it. -/
structure IsBanner (first : UInt8) (more : Bytes) (banner : String) : Prop where
  line : banner = chomp (Utf8.decodeLossy (first :: more))
  full : banner ≠ ""
  begins : banner.toList.head? = some (Char.ofNat first.toNat)
  unbroken : '\x00' ∉ banner.toList
  ends : ∀ c, banner.toList.getLast? = some c → c ≠ '\r' ∧ c ≠ '\n'

theorem isGraphic_iff {b : UInt8} : isGraphic b = true ↔ IsVisible b := by
  simp [isGraphic, IsVisible]

theorem IsVisible.low {b : UInt8} (visible : IsVisible b) : b < 0x80 :=
  UInt8.lt_of_le_of_lt visible.2 (by decide)

theorem IsVisible.nonzero {b : UInt8} (visible : IsVisible b) : b ≠ 0 := by
  rintro rfl
  exact absurd visible.1 (by decide)

/-- A visible character shows as itself, and it ends no line. -/
theorem IsVisible.inLine {b : UInt8} (visible : IsVisible b) : isLineEnd (Char.ofNat b.toNat) = false := by
  have point := Utf8.toNat_ofNat_byte b
  have large := UInt8.le_iff_toNat_le.mp visible.1
  simp only [isLineEnd, Bool.or_eq_false_iff, decide_eq_false_iff_not]
  constructor
  all_goals
    intro same
    rw [same] at point
    rw [← point] at large
    exact absurd large (by decide)

section Parts
variable {text skipped more cut : Bytes} {b first : UInt8}

theorem shown_of_visible (there : b ∈ text) (visible : IsVisible b) :
    ∃ skipped first more cut, Shown text skipped first more cut := by
  have stops : text.dropWhile (!isGraphic ·) ≠ [] := by
    rw [Ne, List.dropWhile_eq_nil_iff]
    intro passed
    simpa [isGraphic_iff.mpr visible] using passed b there
  obtain ⟨first, rest, begun⟩ := List.exists_cons_of_ne_nil stops
  refine ⟨text.takeWhile (!isGraphic ·), first, rest.takeWhile (· ≠ 0), rest.dropWhile (· ≠ 0), ?_⟩
  constructor
  case whole => rw [List.takeWhile_append_dropWhile, ← begun, List.takeWhile_append_dropWhile]
  case skips =>
    intro c skipped
    rw [← isGraphic_iff]
    simpa using List.mem_takeWhile_imp skipped
  case visible =>
    have stopped := List.head_dropWhile_not (!isGraphic ·) stops
    simpa [begun, isGraphic_iff] using stopped
  case unbroken =>
    intro zero
    simpa using List.mem_takeWhile_imp zero
  case cuts =>
    by_cases whole : rest.dropWhile (· ≠ 0) = []
    · exact .inl whole
    · have zero := List.head_dropWhile_not (fun b : UInt8 => b ≠ 0) whole
      exact .inr ((List.head?_eq_some_head whole).trans (by simpa using zero))

theorem isBanner_shown (shown : Shown text skipped first more cut) :
    IsBanner first more (chomp (Utf8.decodeLossy (first :: more))) := by
  have begins : (chomp (Utf8.decodeLossy (first :: more))).toList.head? = some (Char.ofNat first.toNat) :=
    chomp_begins (by rw [Utf8.decodeLossy_cons shown.visible.low, List.head?_cons]) shown.visible.inLine
  constructor
  case line => rfl
  case full =>
    intro empty
    rw [empty] at begins
    cases begins
  case begins => exact begins
  case unbroken =>
    intro zero
    have decoded := (chomp_front _).subset zero
    have there := (Utf8.mem_decodeLossy (b := 0) (by decide) (first :: more)).mp decoded
    rcases List.mem_cons.mp there with same | behind
    · exact shown.visible.nonzero same.symm
    · exact shown.unbroken behind
  case ends => exact fun c last => chomp_ends last

theorem bannerOf_shown (shown : Shown text skipped first more cut) :
    bannerOf text = some (chomp (Utf8.decodeLossy (first :: more))) := by
  have begun : text.dropWhile (!isGraphic ·) = first :: (more ++ cut) := by
    have visible := isGraphic_iff.mpr shown.visible
    rw [shown.whole, List.dropWhile_append_of_pos, List.dropWhile_cons_of_neg (by simp [visible])]
    intro c skipped
    simpa [← isGraphic_iff] using shown.skips c skipped
  have upTo : (first :: (more ++ cut)).takeWhile (· ≠ 0) = first :: more := by
    have nonzero : 0 ∉ first :: more :=
      List.not_mem_cons_of_ne_of_not_mem (Ne.symm shown.visible.nonzero) shown.unbroken
    rw [← List.cons_append, takeWhile_past nonzero]
    rcases shown.cuts with nothing | zero
    · simp [nothing]
    · obtain ⟨later, rfl⟩ := List.head?_eq_some_iff.mp zero
      simp
  rw [bannerOf, begun]
  simp only [upTo]
  rw [if_neg (isBanner_shown shown).full]

end Parts

theorem bannerOf_eq_none {text : Bytes} : bannerOf text = none ↔ ∀ b ∈ text, ¬ IsVisible b := by
  constructor
  · intro nothing b there visible
    obtain ⟨skipped, first, more, cut, shown⟩ := shown_of_visible there visible
    rw [bannerOf_shown shown] at nothing
    cases nothing
  · intro invisible
    have skipped : text.dropWhile (!isGraphic ·) = [] := by
      rw [List.dropWhile_eq_nil_iff]
      intro b there
      simpa [← isGraphic_iff] using invisible b there
    rw [bannerOf, skipped]

/-! ## Servers that give no command -/

/-- What negotiation skips is not shown either. -/
theorem bannerOf_stray {b : UInt8} (high : ¬ b < 0x80) (rest : Bytes) : bannerOf (b :: rest) = bannerOf rest := by
  have invisible : isGraphic b = false :=
    Bool.eq_false_iff.mpr fun graphic => high (isGraphic_iff.mp graphic).low
  simp only [bannerOf, List.dropWhile_cons, invisible, Bool.not_false, if_true]

theorem negotiate_plain {bytes : Bytes} (commandless : iac ∉ bytes) (low : ∃ b ∈ bytes, b < 0x80) :
    ∃ text, negotiate bytes = ([], .text text) ∧ bannerOf text = bannerOf bytes := by
  induction bytes with
  | nil => simp at low
  | cons b rest ih =>
    obtain ⟨other, later⟩ := not_or.mp (mt List.mem_cons.mpr commandless)
    by_cases plain : b < 0x80
    · exact ⟨b :: rest, negotiate_opening (.plain b plain rest), rfl⟩
    · have low : ∃ c ∈ rest, c < 0x80 := by simpa [plain] using low
      obtain ⟨text, negotiated, same⟩ := ih later low
      refine ⟨text, ?_, same.trans (bannerOf_stray plain rest).symm⟩
      rw [negotiate_stray (UInt8.not_lt.mp plain) (Ne.symm other), negotiated]

/-! ## The main theorem -/

/-- What the banner of a text is. -/
structure ShowsVisibleText (text : Bytes) : Prop where
  /-- There is none if nothing in the text is visible. -/
  none : bannerOf text = none ↔ ∀ b ∈ text, ¬ IsVisible b
  /-- Else the text falls into parts. -/
  parts : (∃ b ∈ text, IsVisible b) → ∃ skipped first more cut, Shown text skipped first more cut
  /-- The banner is the line in what is shown. -/
  some : ∀ skipped first more cut, Shown text skipped first more cut →
    ∃ banner, bannerOf text = some banner ∧ IsBanner first more banner
  /-- It is the same whether the text has been negotiated before, if it holds no command and something that is
  text. -/
  plain : iac ∉ text → (∃ b ∈ text, b < 0x80) →
    ∃ rest, Negotiator.fresh.feed text = (.text [] rest, ⟨true, []⟩) ∧ bannerOf rest = bannerOf text

/-- **A banner is the visible text.** Whatever bytes there are, well-formed text or not, the banner is the line from
the first visible character up to the first zero byte behind it, and there is one if there is such a character. A
server that sends the bytes as they are, without a command, has this banner too. -/
theorem a_banner_is_the_visible_text (text : Bytes) : ShowsVisibleText text := by
  constructor
  case none => exact bannerOf_eq_none
  case parts => exact fun ⟨b, there, visible⟩ => shown_of_visible there visible
  case some => exact fun _ _ _ _ shown => ⟨_, bannerOf_shown shown, isBanner_shown shown⟩
  case plain =>
    intro commandless low
    obtain ⟨rest, negotiated, same⟩ := negotiate_plain commandless low
    refine ⟨rest, ?_, same⟩
    simp only [Negotiator.feed, Negotiator.fresh, List.nil_append, negotiated]

/-- Line ends and a bell in front, a byte that is no text, and line ends in front of the zero byte. -/
example : bannerOf [13, 10, 7, 0x4f, 0xc3, 0x6b, 13, 10, 0, 0x78] = some "O\ufffdk" := by
  cbv

end HostSurvey.Probe.Telnet
