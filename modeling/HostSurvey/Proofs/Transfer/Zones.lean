import HostSurvey.Proofs.Dns.Labels
import HostSurvey.Transfer.Zone
/-!
# The zone of a host

The zone of a host is read off the text of its name, whatever reads the codes in it: it is what stands behind the first
dot.

1. If the first label shows no dot, the zone is the name without this label (`zoneOf_dotless`).
2. If it shows one, the zone begins within the label (`zoneOf_cut`). That is never the name without the label
   (`zoneOf_eq_parent`).
3. A label shows a dot if it holds the byte of one. So it depends on this byte whether a host is looked for in its own
   zone (`a_zone_begins_behind_the_first_dot`).
-/
namespace HostSurvey.Transfer

open HostSurvey.Dns HostSurvey.Text

/-! ## Names without their first label -/

theorem fits_tail {labels : List Bytes} (fits : Fits labels) : Fits labels.tail := by
  obtain ⟨each, short⟩ := fits
  cases labels with
  | nil => exact ⟨each, short⟩
  | cons first rest =>
    have shorter : encodedLength rest ≤ 255 := by
      rw [encodedLength] at short
      omega
    exact ⟨(List.forall_mem_cons.mp each).2, shorter⟩

/-- The name without its first label. -/
def parent (name : Name) : Name := ⟨name.labels.tail, fits_tail name.fits⟩

/-- What a name shows without its first label, if there is another one. -/
def parentText? (codes : CodeReader) (name : Name) : Option String :=
  if name.labels.length ≤ 1 then none else some ((parent name).textBy codes.toUnicode?)

/-- Labels as they are shown, with a dot behind each. -/
def shown (codes : CodeReader) (labels : List Bytes) : List Char :=
  labels.flatMap fun label => Name.showLabel codes.toUnicode? label ++ ['.']

section Text
variable {codes : CodeReader} {name : Name} {first : Bytes} {rest : List Bytes}

theorem text_eq (labelled : name.labels ≠ []) :
    name.textBy codes.toUnicode? = String.ofList (shown codes name.labels) :=
  if_neg labelled

theorem text_toList (labels : name.labels = first :: rest) :
    (name.textBy codes.toUnicode?).toList = Name.showLabel codes.toUnicode? first ++ '.' :: shown codes rest := by
  rw [text_eq (by simp [labels]), String.toList_ofList, labels]
  simp [shown]

theorem shown_eq_nil {labels : List Bytes} : shown codes labels = [] ↔ labels = [] := by
  cases labels <;> simp [shown]

theorem parentText?_eq (labels : name.labels = first :: rest) :
    parentText? codes name = if rest = [] then none else some (String.ofList (shown codes rest)) := by
  have tail : (parent name).labels = rest := congrArg List.tail labels
  cases rest with
  | nil => simp [parentText?, labels]
  | cons second others =>
    have two : ¬ name.labels.length ≤ 1 := by simp [labels]
    rw [parentText?, if_neg two, if_neg (by simp), text_eq (by simp [tail]), tail]

theorem full_label (labels : name.labels = first :: rest) : first ≠ [] :=
  (name.fits.1 first (labels ▸ List.mem_cons_self)).1

/-! ## What stands behind the first dot -/

theorem zoneOf_split {text : String} {front behind : List Char} (split : text.toList = front ++ '.' :: behind)
    (dotless : '.' ∉ front) (full : front ≠ []) :
    zoneOf text = if behind = [] then none else some (String.ofList behind) := by
  have label : text.toList.takeWhile (· ≠ '.') = front := by
    rw [split, takeWhile_upTo dotless]
  have left : text.toList.drop front.length = '.' :: behind := by
    rw [split, List.drop_left]
  obtain ⟨c, line, rfl⟩ := List.exists_cons_of_ne_nil full
  simp only [zoneOf, label, left]
  cases behind <;> rfl

theorem zoneOf_dotless (labels : name.labels = first :: rest) (dotless : '.' ∉ Name.showLabel codes.toUnicode? first) :
    zoneOf (name.textBy codes.toUnicode?) = parentText? codes name := by
  rw [zoneOf_split (text_toList labels) dotless (Name.showLabel_begins (full_label labels)).1, parentText?_eq labels]
  simp only [shown_eq_nil]

/-- A label that shows a dot is cut there, and the rest of it is taken for a label of the zone. -/
theorem zoneOf_cut (labels : name.labels = first :: rest) {front back : List Char}
    (split : Name.showLabel codes.toUnicode? first = front ++ '.' :: back) (dotless : '.' ∉ front) :
    zoneOf (name.textBy codes.toUnicode?) = some (String.ofList (back ++ '.' :: shown codes rest)) := by
  have full : front ≠ [] := by
    rintro rfl
    exact (Name.showLabel_begins (full_label labels)).2 (by rw [split]; rfl)
  have text : (name.textBy codes.toUnicode?).toList = front ++ '.' :: (back ++ '.' :: shown codes rest) := by
    rw [text_toList labels, split, List.append_assoc, List.cons_append]
  rw [zoneOf_split text dotless full, if_neg (by simp)]

theorem zoneOf_eq_parent (labels : name.labels = first :: rest) :
    zoneOf (name.textBy codes.toUnicode?) = parentText? codes name ↔
      '.' ∉ Name.showLabel codes.toUnicode? first := by
  refine ⟨fun same dot => ?_, zoneOf_dotless labels⟩
  obtain ⟨front, back, split, dotless⟩ := List.eq_append_cons_of_mem dot
  rw [zoneOf_cut labels split dotless, parentText?_eq labels] at same
  split_ifs at same
  -- What begins within the label is longer than what stands behind it.
  have texts := congrArg String.toList (Option.some.inj same)
  rw [String.toList_ofList, String.toList_ofList] at texts
  have sizes := congrArg List.length texts
  rw [List.length_append, List.length_cons] at sizes
  omega

end Text

/-! ## The main theorem -/

/-- What zone a host gets from its name. -/
structure ZoneBegins (codes : CodeReader) (name : Name) : Prop where
  /-- The name without labels is in no zone. -/
  root : name.labels = [] → zoneOf (name.textBy codes.toUnicode?) = none
  /-- Another one is in the zone that its other labels name, or in none if there is no other one, unless its first
  label shows a dot. -/
  whole : ∀ first rest, name.labels = first :: rest →
    (zoneOf (name.textBy codes.toUnicode?) = parentText? codes name ↔ '.' ∉ Name.showLabel codes.toUnicode? first)
  /-- Else the zone begins behind this dot. -/
  cut : ∀ first rest front back, name.labels = first :: rest →
    Name.showLabel codes.toUnicode? first = front ++ '.' :: back → '.' ∉ front →
    zoneOf (name.textBy codes.toUnicode?) = some (String.ofList (back ++ '.' :: shown codes rest))
  /-- A label shows a dot if it holds the byte of one. -/
  dotted : ∀ label ∈ name.labels, 0x2e ∈ label → '.' ∈ Name.showLabel codes.toUnicode? label
  /-- It shows no other dots, but for labels that carry a code and go beyond ASCII. -/
  undotted : ∀ label ∈ name.labels, (¬ Name.IsCoded label ∨ ∀ b ∈ label, b < 0x80) →
    '.' ∈ Name.showLabel codes.toUnicode? label → 0x2e ∈ label
  /-- Behind the first dot of a label its bytes are shown one by one. -/
  bytes : ∀ label ∈ name.labels, ¬ Name.IsCoded label → ∀ before after, label = before ++ 0x2e :: after →
    0x2e ∉ before → ∃ front, '.' ∉ front ∧
      Name.showLabel codes.toUnicode? label = front ++ '.' :: after.flatMap (Name.showByte false)

/-- **A zone begins behind the first dot.** Whatever reads its codes: the zone that a host gets from its name, as it is
shown, is the name without the first label if and only if that label shows no dot, so if it does not hold the byte of
one. Else the zone is what stands behind this dot: the rest of the label, and then the other labels. -/
theorem a_zone_begins_behind_the_first_dot (codes : CodeReader) (name : Name) : ZoneBegins codes name := by
  constructor
  case root =>
    intro unlabelled
    rw [Name.textBy, if_pos unlabelled]
    decide +kernel
  case whole => exact fun first rest labels => zoneOf_eq_parent labels
  case cut => exact fun first rest front back labels split dotless => zoneOf_cut labels split dotless
  case dotted => exact fun label _ dot => Name.dot_shown dot
  case undotted => exact fun label _ usual => (Name.dot_mem_showLabel usual).mp
  case bytes =>
    rintro label _ plain before after rfl dotless
    refine ⟨Name.showPlain before ++ ['\\'], ?_, ?_⟩
    · simpa [Name.dot_mem_showPlain] using dotless
    · rw [Name.showLabel_plain plain, Name.showPlain_cut]

/-- A host whose name has a dot in its first label. -/
private def dottedHost : Name :=
  ⟨[Utf8.encode "john.doe", Utf8.encode "example", Utf8.encode "com"], by decide +kernel⟩

/-- The dot of the first label is taken for its end, although it is escaped. -/
theorem an_escaped_dot_ends_a_label : dottedHost.text = "john\\.doe.example.com." ∧
    parentText? .standard dottedHost = some "example.com." ∧ zoneOf dottedHost.text = some "doe.example.com." ∧
    zoneOf dottedHost.text ≠ parentText? .standard dottedHost := by
  decide +kernel

end HostSurvey.Transfer
