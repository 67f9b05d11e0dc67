import HostSurvey.Proofs.Probe.Tokens
/-!
# Cuts between reads

A server's bytes come in reads, and a read may end anywhere: between commands, within one, or in the middle of the
text.

1. What is left of a command waits, and nothing of what was answered before is answered again
   (`feed_append_more`). Once there is text, whatever comes is text (`feed_append_text`).
2. So several reads come to the same as one of all their bytes (`feedAll_eq`), as long as what waits is a piece of a
   command. It always is (`isCut_afterReads`).
3. The replies, the text and what is left are the same wherever the bytes are cut (`cuts_are_ignored`).
-/
namespace HostSurvey.Probe.Telnet

/-- What a step comes to when something was answered before it. -/
def Step.after (earlier : Bytes) : Step → Step
  | .needMore reply => .needMore (earlier ++ reply)
  | .text reply shown => .text (earlier ++ reply) shown

namespace Negotiator

/-- Takes one read after the other, until there is text. What the other reads bring is text too. -/
def feedAll (n : Negotiator) : List Bytes → Step × Negotiator
  | [] => (.needMore [], n)
  | bytes :: later =>
    match n.feed bytes with
    | (.needMore reply, next) => ((next.feedAll later).1.after reply, (next.feedAll later).2)
    | (.text reply text, last) => (.text reply (text ++ later.flatten), last)

/-- The negotiation after some reads. -/
def afterReads (n : Negotiator) (reads : List Bytes) : Negotiator :=
  reads.foldl (fun n bytes => (n.feed bytes).2) n

end Negotiator

/-! ## More bytes -/

/-- Bytes that leave a piece of a command go on with it. -/
theorem negotiate_append_pending {bytes reply left : Bytes} (negotiated : negotiate bytes = (reply, .pending left))
    (more : Bytes) : IsCut left ∧
      negotiate (bytes ++ more) = (reply ++ (negotiate (left ++ more)).1, (negotiate (left ++ more)).2) := by
  obtain ⟨tokens, rest, rfl, cut | ⟨opening, rfl⟩⟩ := bytes_are_tokens bytes
  · rw [negotiate_encode, negotiate_cut cut, List.append_nil] at negotiated
    cases negotiated
    rw [List.append_assoc]
    exact ⟨cut, negotiate_encode tokens (left ++ more)⟩
  · rw [negotiate_encode, negotiate_opening] at negotiated
    cases negotiated

/-- A text goes on with whatever comes. -/
theorem opening_append (opening : Opening) (more : Bytes) : ∃ longer : Opening,
    longer.encode = opening.encode ++ more ∧ longer.text = opening.text ++ more := by
  cases opening with
  | plain b low rest => exact ⟨.plain b low (rest ++ more), rfl, rfl⟩
  | escaped rest => exact ⟨.escaped (rest ++ more), rfl, rfl⟩

theorem opening_suffix (opening : Opening) : opening.text <:+ opening.encode := by
  cases opening with
  | plain b low rest => exact List.suffix_refl _
  | escaped rest => exact List.suffix_cons iac _

theorem negotiate_append_text {bytes reply text : Bytes} (negotiated : negotiate bytes = (reply, .text text))
    (more : Bytes) : text <:+ bytes ∧ negotiate (bytes ++ more) = (reply, .text (text ++ more)) := by
  obtain ⟨tokens, rest, rfl, cut | ⟨opening, rfl⟩⟩ := bytes_are_tokens bytes
  · rw [negotiate_encode, negotiate_cut cut] at negotiated
    cases negotiated
  · rw [negotiate_encode, negotiate_opening, List.append_nil] at negotiated
    cases negotiated
    obtain ⟨longer, written, told⟩ := opening_append opening more
    refine ⟨(opening_suffix opening).trans (List.suffix_append _ _), ?_⟩
    rw [List.append_assoc, ← written, negotiate_encode, negotiate_opening, told, List.append_nil]

/-! ## More reads -/

namespace Negotiator

variable {n next : Negotiator} {a b reply text : Bytes}

theorem feed_needMore (fed : n.feed a = (.needMore reply, next)) :
    negotiate (n.pending ++ a) = (reply, .pending next.pending) ∧ next.textFound = n.textFound := by
  unfold feed at fed
  split at fed
  · rename_i negotiated
    cases fed
    exact ⟨negotiated, rfl⟩
  · cases fed

theorem feed_text (fed : n.feed a = (.text reply text, next)) :
    negotiate (n.pending ++ a) = (reply, .text text) ∧ next = ⟨true, []⟩ := by
  unfold feed at fed
  split at fed
  · cases fed
  · rename_i negotiated
    cases fed
    exact ⟨negotiated, rfl⟩

theorem feed_append_more (fed : n.feed a = (.needMore reply, next)) (b : Bytes) :
    n.feed (a ++ b) = ((next.feed b).1.after reply, (next.feed b).2) := by
  obtain ⟨negotiated, found⟩ := feed_needMore fed
  have onward := (negotiate_append_pending negotiated b).2
  unfold feed
  rw [← List.append_assoc, onward]
  cases negotiate (next.pending ++ b) with
  | mk later tail =>
    cases tail with
    | pending left => simp only [Step.after, found]
    | text text => rfl

theorem feed_append_text (fed : n.feed a = (.text reply text, next)) (b : Bytes) :
    n.feed (a ++ b) = (.text reply (text ++ b), next) := by
  obtain ⟨negotiated, rfl⟩ := feed_text fed
  have onward := (negotiate_append_text negotiated b).2
  unfold feed
  rw [← List.append_assoc, onward]

/-- After a read, what waits is a piece of a command. -/
theorem isCut_feed (n : Negotiator) (bytes : Bytes) : IsCut (n.feed bytes).2.pending := by
  cases fed : n.feed bytes with
  | mk step next =>
    cases step with
    | needMore reply => exact (negotiate_append_pending (feed_needMore fed).1 []).1
    | text reply text => exact (feed_text fed).2 ▸ .nothing

theorem isCut_afterReads (waiting : IsCut n.pending) (reads : List Bytes) : IsCut (n.afterReads reads).pending := by
  induction reads generalizing n with
  | nil => exact waiting
  | cons bytes later ih => exact ih (isCut_feed n bytes)

/-- Several reads come to the same as one. -/
theorem feedAll_eq (waiting : IsCut n.pending) (reads : List Bytes) : n.feedAll reads = n.feed reads.flatten := by
  induction reads generalizing n with
  | nil =>
    unfold feed
    rw [List.flatten_nil, List.append_nil, negotiate_cut waiting]
    rfl
  | cons bytes later ih =>
    unfold feedAll
    rw [List.flatten_cons]
    cases fed : n.feed bytes with
    | mk step next =>
      cases step with
      | needMore reply =>
        have waits : IsCut next.pending := by simpa only [fed] using isCut_feed n bytes
        rw [feed_append_more fed, ← ih waits]
      | text reply text => rw [feed_append_text fed]

end Negotiator

/-! ## The main theorem -/

/-- What is true of a negotiation into whose reads the next bytes may be cut in any way. -/
structure IgnoresCuts (n : Negotiator) : Prop where
  /-- If there is no text yet, a second read brings the rest, and the replies add up. -/
  more : ∀ a b reply next, n.feed a = (.needMore reply, next) →
    n.feed (a ++ b) = ((next.feed b).1.after reply, (next.feed b).2)
  /-- If there is text, what a second read brings is text. -/
  text : ∀ a b reply text last, n.feed a = (.text reply text, last) →
    n.feed (a ++ b) = (.text reply (text ++ b), last)
  /-- Any reads of the same bytes come to the same. -/
  reads : ∀ reads others : List Bytes, reads.flatten = others.flatten → n.feedAll reads = n.feedAll others
  /-- The text is the end of all bytes, so its length tells where it starts. -/
  start : ∀ reads reply text last, n.feedAll reads = (.text reply text, last) →
    text <:+ n.pending ++ reads.flatten

/-- **Cuts are ignored.** Whatever was read before, it makes no difference how the next bytes are cut into reads: the
replies in a row, the text and where it starts, and what is left of a command are always the same. -/
theorem cuts_are_ignored (before : List Bytes) : IgnoresCuts (Negotiator.fresh.afterReads before) := by
  have waiting := Negotiator.isCut_afterReads (n := .fresh) .nothing before
  refine ⟨?_, ?_, ?_, ?_⟩
  · intro a b reply next fed
    exact Negotiator.feed_append_more fed b
  · intro a b reply text last fed
    exact Negotiator.feed_append_text fed b
  · intro reads others same
    rw [Negotiator.feedAll_eq waiting, Negotiator.feedAll_eq waiting, same]
  · intro reads reply text last fed
    rw [Negotiator.feedAll_eq waiting] at fed
    exact (negotiate_append_text (Negotiator.feed_text fed).1 []).1

/-- Two offers and a text, cut behind the first bytes of both offers. -/
example : Negotiator.fresh.feedAll [[iac, doOption], [0x20, iac], [will, 3, 0x58], [0xff]] =
    (.text [iac, wont, 0x20, iac, dont, 3] [0x58, 0xff], ⟨true, []⟩) := by
  cbv

end HostSurvey.Probe.Telnet
