import HostSurvey.Proofs.Probe.Tokens
/-!
# Details that hold their own end

The byte that begins commands is written twice where it is meant as data, also in the details of an option. In front
of the text this is understood, but the end of details is looked for among the bytes as they come. So a doubled byte
and the byte behind it can be taken for the end.

1. The doubled bytes hold the mark of the end where the details do (`marked_doubled`). Details without the mark are
   skipped as a whole, and those that end with the byte that begins commands are too.
2. Otherwise what is behind the first mark is read as if it stood outside (`negotiate_marked`). If it has no meaning
   there, nothing is lost. Else the details spill: the text begins in the middle of them (`negotiate_spilled`).
3. So the text is told as it was sent just if no details spill (`details_end_at_their_first_mark`).
-/
namespace HostSurvey.Probe.Telnet

/-! ## What is sent -/

/-- Bytes with the one that begins commands written twice. -/
def doubled (bytes : Bytes) : Bytes :=
  bytes.flatMap fun b => if b = iac then [iac, iac] else [b]

/-- What a server sends in front of its text. Details may be any bytes. -/
inductive Sent where
  | offer (kind : Offer) (option : UInt8)
  /-- A command that consists of its code. -/
  | command (code : UInt8) (other : code ∉ iac :: sb :: Offer.all.map Offer.code)
  | details (payload : Bytes)
  /-- A byte that is no text and begins no command. -/
  | stray (b : UInt8) (high : 0x80 ≤ b) (other : b ≠ iac)

namespace Sent

def encode : Sent → Bytes
  | .offer kind option => [iac, kind.code, option]
  | .command code _ => [iac, code]
  | .details payload => iac :: sb :: (doubled payload ++ [iac, se])
  | .stray b _ _ => [b]

/-- An offer is to be declined, and nothing else is to be answered. -/
def answer : Sent → Bytes
  | .offer kind option => [iac, kind.declined, option]
  | _ => []

end Sent

def stream (sent : List Sent) : Bytes := sent.flatMap Sent.encode

def refusals (sent : List Sent) : Bytes := sent.flatMap Sent.answer

/-- Details spill: behind the first mark in them, and bytes that mean nothing, there is one that begins a text. -/
def Spills (payload : Bytes) (b : UInt8) (more : Bytes) : Prop :=
  ∃ front skipped, payload = front ++ iac :: se :: (skipped ++ b :: more) ∧ ¬ [iac, se] <:+: front ∧
    (∀ other ∈ skipped, 0x80 ≤ other ∧ other ≠ iac) ∧ (b < 0x80 ∨ b = iac)

/-- What was sent are details that spill. -/
def Sent.Spilled : Sent → Prop
  | .details payload => ∃ b more, Spills payload b more
  | _ => False

/-! ## Doubled bytes -/

section Doubled
variable {b : UInt8} {payload rest front skipped more : Bytes}

theorem doubled_append (front rest : Bytes) : doubled (front ++ rest) = doubled front ++ doubled rest :=
  List.flatMap_append

theorem doubled_iac (rest : Bytes) : doubled (iac :: rest) = iac :: iac :: doubled rest := rfl

theorem doubled_other (other : b ≠ iac) (rest : Bytes) : doubled (b :: rest) = b :: doubled rest := by
  simp [doubled, other]

/-- Bytes that begin no command stay as they are. -/
theorem doubled_skipped (plain : ∀ other ∈ skipped, 0x80 ≤ other ∧ other ≠ iac) : doubled skipped = skipped := by
  induction skipped with
  | nil => rfl
  | cons b rest ih =>
    obtain ⟨first, later⟩ := List.forall_mem_cons.mp plain
    rw [doubled_other first.2, ih later]

theorem head?_doubled (payload : Bytes) : (doubled payload).head? = payload.head? := by
  cases payload with
  | nil => rfl
  | cons b rest =>
    by_cases begins : b = iac
    · rw [begins]
      rfl
    · rw [doubled_other begins]
      rfl

/-- Doubled bytes hold the mark where the bytes do. -/
theorem marked_doubled : [iac, se] <:+: doubled payload ↔ [iac, se] <:+: payload := by
  induction payload with
  | nil => rfl
  | cons b rest ih =>
    by_cases begins : b = iac
    · subst begins
      have apart : iac ≠ se := by decide
      rw [doubled_iac, marked_cons, marked_cons, marked_cons, ih, head?_doubled]
      simp [apart]
    · rw [doubled_other begins, marked_cons, marked_cons, ih]
      simp [begins]

/-- Before the mark the first byte of it may stand by itself. -/
theorem unmarked_doubled (unmarked : ¬ [iac, se] <:+: front) : ¬ [iac, se] <:+: doubled front ++ [iac] := by
  rw [List.infix_concat_iff, marked_doubled]
  refine not_or.mpr ⟨?_, unmarked⟩
  rintro ⟨before, same⟩
  have last : se = iac := by simpa using congrArg List.getLast? same
  exact absurd last (by decide)

end Doubled

/-- None in a list is of a kind, or there is a first one. -/
private theorem none_or_first {α : Type} (kind : α → Prop) (list : List α) : (∀ item ∈ list, ¬ kind item) ∨
    ∃ before item after, list = before ++ item :: after ∧ (∀ other ∈ before, ¬ kind other) ∧ kind item := by
  classical
  cases found : list.find? fun item => decide (kind item) with
  | none => exact .inl (by simpa using List.find?_eq_none.mp found)
  | some item =>
    obtain ⟨holds, before, after, split, others⟩ := List.find?_eq_some_iff_append.mp found
    exact .inr ⟨before, item, after, split, by simpa using others, by simpa using holds⟩

/-! ## What is understood -/

section Understood
variable {b : UInt8} {payload rest front back skipped more : Bytes} {sent : Sent}

theorem negotiate_skipped (plain : ∀ other ∈ skipped, 0x80 ≤ other ∧ other ≠ iac) (rest : Bytes) :
    negotiate (skipped ++ rest) = negotiate rest := by
  induction skipped with
  | nil => rfl
  | cons b later ih =>
    obtain ⟨first, others⟩ := List.forall_mem_cons.mp plain
    rw [List.cons_append, negotiate_stray first.1 first.2, ih others]

/-- Behind the first mark in details everything is read as if it stood outside. -/
theorem negotiate_marked (unmarked : ¬ [iac, se] <:+: front) (rest : Bytes) :
    negotiate ((Sent.details (front ++ iac :: se :: back)).encode ++ rest) =
      negotiate (doubled back ++ iac :: se :: rest) := by
  have apart : se ≠ iac := by decide
  have shape : (Sent.details (front ++ iac :: se :: back)).encode ++ rest =
      iac :: sb :: ((doubled front ++ [iac]) ++ iac :: se :: (doubled back ++ iac :: se :: rest)) := by
    simp [Sent.encode, doubled_append, doubled_iac, doubled_other apart]
  rw [shape, negotiate_details (unmarked_doubled unmarked)]

/-- What begins a text within details is taken for the text. -/
theorem negotiate_spilled (spills : Spills payload b more) (rest : Bytes) :
    negotiate ((Sent.details payload).encode ++ rest) = ([], .text (b :: doubled more ++ iac :: se :: rest)) := by
  obtain ⟨front, skipped, rfl, unmarked, plain, begins⟩ := spills
  rw [negotiate_marked unmarked, doubled_append, doubled_skipped plain, List.append_assoc,
    negotiate_skipped plain]
  rcases begins with low | rfl
  · have other : b ≠ iac := by
      rintro rfl
      exact absurd low (by decide)
    rw [doubled_other other]
    exact negotiate_opening (.plain b low _)
  · rw [doubled_iac]
    exact negotiate_opening (.escaped _)

/-- Details that do not spill are without the mark, or what is behind it means nothing. -/
theorem spills_or_not (payload : Bytes) : (∃ b more, Spills payload b more) ∨ ¬ [iac, se] <:+: payload ∨
    ∃ front skipped, payload = front ++ iac :: se :: skipped ∧ ¬ [iac, se] <:+: front ∧
      ∀ other ∈ skipped, 0x80 ≤ other ∧ other ≠ iac := by
  have plain (b : UInt8) : ¬(b < 0x80 ∨ b = iac) ↔ 0x80 ≤ b ∧ b ≠ iac := by
    rw [not_or, UInt8.not_lt]
  cases ended : afterDetails payload with
  | none => exact .inr (.inl (afterDetails_eq_none.mp ended))
  | some back =>
    obtain ⟨front, unmarked, rfl⟩ := afterDetails_eq_some ended
    rcases none_or_first (fun b => b < 0x80 ∨ b = iac) back with all | ⟨skipped, b, more, rfl, before, begins⟩
    · exact .inr (.inr ⟨front, back, rfl, unmarked, fun other member => (plain other).mp (all other member)⟩)
    · exact .inl ⟨b, more, front, skipped, rfl, unmarked, fun other member => (plain other).mp (before other member),
        begins⟩

/-- What does not spill is answered, and what follows it is read as if it stood alone. -/
theorem negotiate_sent (kept : ¬ sent.Spilled) (rest : Bytes) :
    negotiate (sent.encode ++ rest) = (sent.answer ++ (negotiate rest).1, (negotiate rest).2) := by
  cases sent with
  | offer kind option => exact negotiate_offer kind option
  | command code other => exact negotiate_command other
  | stray b high other => exact negotiate_stray high other
  | details payload =>
    rcases spills_or_not payload with spills | unmarked | ⟨front, skipped, rfl, unmarked, plain⟩
    · exact absurd spills kept
    · have shape : (Sent.details payload).encode ++ rest = iac :: sb :: (doubled payload ++ iac :: se :: rest) := by
        simp [Sent.encode]
      rw [shape, negotiate_details (mt marked_doubled.mp unmarked)]
      rfl
    · rw [negotiate_marked unmarked, doubled_skipped plain, negotiate_skipped plain,
        negotiate_command (by decide)]
      rfl

theorem negotiate_stream {all : List Sent} (kept : ∀ sent ∈ all, ¬ sent.Spilled) (rest : Bytes) :
    negotiate (stream all ++ rest) = (refusals all ++ (negotiate rest).1, (negotiate rest).2) := by
  induction all with
  | nil => rfl
  | cons sent later ih =>
    obtain ⟨first, others⟩ := List.forall_mem_cons.mp kept
    simp only [stream, refusals, List.flatMap_cons, List.append_assoc] at ih ⊢
    rw [negotiate_sent first, ih others]

end Understood

/-! ## The main theorem -/

/-- What is read of a stream that ends with a text. -/
structure EndsAtFirstMark (sent : List Sent) (text : Bytes) : Prop where
  /-- The text is told, and each offer in front of it declined, just if no details spill. -/
  told : Negotiator.fresh.feed (stream sent ++ text) = (.text (refusals sent) text, ⟨true, []⟩) ↔
    ∀ other ∈ sent, ¬ other.Spilled
  /-- Otherwise the text begins in the first details that spill, and what follows them is not answered. -/
  spilled : ∀ before payload after b more, sent = before ++ .details payload :: after →
    (∀ other ∈ before, ¬ other.Spilled) → Spills payload b more →
      Negotiator.fresh.feed (stream sent ++ text) =
        (.text (refusals before) (b :: doubled more ++ iac :: se :: (stream after ++ text)), ⟨true, []⟩)

/-- **Details end at their first mark**, doubled bytes or not. A text behind any offers, commands, stray bytes and
details is told as it was sent, with one refusal for each offer, as long as no details spill. If some do, the text
begins in the middle of the first ones. -/
theorem details_end_at_their_first_mark (sent : List Sent) (b : UInt8) (low : b < 0x80) (more : Bytes) :
    EndsAtFirstMark sent (b :: more) := by
  have spilled : ∀ before payload after c rest, sent = before ++ .details payload :: after →
      (∀ other ∈ before, ¬ other.Spilled) → Spills payload c rest →
        Negotiator.fresh.feed (stream sent ++ b :: more) =
          (.text (refusals before) (c :: doubled rest ++ iac :: se :: (stream after ++ b :: more)), ⟨true, []⟩) := by
    rintro before payload after c rest rfl kept spills
    have shape : stream (before ++ .details payload :: after) ++ b :: more =
        stream before ++ ((Sent.details payload).encode ++ (stream after ++ b :: more)) := by
      simp [stream]
    simp only [Negotiator.feed, Negotiator.fresh, List.nil_append, shape, negotiate_stream kept,
      negotiate_spilled spills, List.append_nil]
  refine ⟨⟨?_, ?_⟩, spilled⟩
  · intro told
    rcases none_or_first Sent.Spilled sent with kept | ⟨before, first, after, split, kept, spills⟩
    · exact kept
    · cases first with
      | details payload =>
        obtain ⟨c, rest, spills⟩ := spills
        rw [spilled before payload after c rest split kept spills] at told
        simp only [Prod.mk.injEq, Step.text.injEq, and_true] at told
        -- The text that is told is longer than the one that was sent.
        have size := congrArg List.length told.2
        simp only [List.length_append, List.length_cons] at size
        omega
      | offer | command | stray => exact spills.elim
  · intro kept
    have opened : negotiate (b :: more) = ([], .text (b :: more)) := negotiate_opening (.plain b low more)
    have read := negotiate_stream kept (b :: more)
    rw [opened, List.append_nil] at read
    simp only [Negotiator.feed, Negotiator.fresh, List.nil_append, read]

/-- Details that end with the byte that begins commands, and others whose mark is followed by a byte without
meaning. -/
theorem a_text_behind_harmless_details : (0x6f : UInt8) < 0x80 ∧
    EndsAtFirstMark [.offer .will 1, .details [0x18, iac], .details [iac, se, 0x90]] [0x6f, 0x6b] ∧
    Negotiator.fresh.feed
      (stream [.offer .will 1, .details [0x18, iac], .details [iac, se, 0x90]] ++ [0x6f, 0x6b]) =
        (.text [iac, dont, 1] [0x6f, 0x6b], ⟨true, []⟩) :=
  ⟨by decide, details_end_at_their_first_mark _ 0x6f (by decide) [0x6b], by cbv⟩

/-- Details whose mark is followed by a letter. The text begins with this letter, and the offer behind the details is
not declined but told as text. -/
theorem details_are_taken_for_text :
    Negotiator.fresh.feed (stream [.details [iac, se, 0x41], .offer .doOption 0x18] ++ [0x6f, 0x6b]) =
      (.text [] [0x41, iac, se, iac, doOption, 0x18, 0x6f, 0x6b], ⟨true, []⟩) ∧
    Negotiator.fresh.feed (stream [.details [iac, se, 0x41], .offer .doOption 0x18] ++ [0x6f, 0x6b]) ≠
      (.text (refusals [.details [iac, se, 0x41], .offer .doOption 0x18]) [0x6f, 0x6b], ⟨true, []⟩) := by
  have fed : Negotiator.fresh.feed (stream [.details [iac, se, 0x41], .offer .doOption 0x18] ++ [0x6f, 0x6b]) =
      (.text [] [0x41, iac, se, iac, doOption, 0x18, 0x6f, 0x6b], ⟨true, []⟩) := by cbv
  refine ⟨fed, ?_⟩
  rw [fed]
  decide

end HostSurvey.Probe.Telnet
