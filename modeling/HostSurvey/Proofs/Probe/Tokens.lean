import HostSurvey.Probe.Telnet
/-!
# The language of terminal servers

What a server says in front of its text is a list of tokens: offers, other commands, details of options, and
bytes that mean nothing.

1. A token is answered by itself, and what follows it is read as if it stood alone (`negotiate_token`).
2. Whatever bytes come, they are tokens, and behind them text or a piece of a command (`bytes_are_tokens`). So
   nothing else has to be considered when bytes are negotiated.
3. Each offer is declined, in order, nothing else is answered, and the text is told as it is
   (`offers_are_declined_in_order`).
-/
namespace HostSurvey.Probe.Telnet

/-! ## Tokens -/

/-- What is said about an option. -/
inductive Offer where
  | will
  | wont
  | doOption
  | dont
  deriving Repr, DecidableEq

namespace Offer

def code : Offer → UInt8
  | .will => Telnet.will
  | .wont => Telnet.wont
  | .doOption => Telnet.doOption
  | .dont => Telnet.dont

/-- The command that declines it. What the server says of itself it is asked not to do, and what it asks for is
not done. -/
def declined : Offer → UInt8
  | .will | .wont => Telnet.dont
  | .doOption | .dont => Telnet.wont

def all : List Offer := [.will, .wont, .doOption, .dont]

end Offer

/-- What may stand in front of the text. -/
inductive Token where
  | offer (kind : Offer) (option : UInt8)
  /-- A command that consists of its code. -/
  | command (code : UInt8) (other : code ∉ iac :: sb :: Offer.all.map Offer.code)
  /-- Details of an option. They go on until their end is marked. -/
  | details (payload : Bytes) (unmarked : ¬ [iac, se] <:+: payload)
  /-- A byte that is no text and begins no command. -/
  | stray (b : UInt8) (high : 0x80 ≤ b) (other : b ≠ iac)

namespace Token

def encode : Token → Bytes
  | .offer kind option => [iac, kind.code, option]
  | .command code _ => [iac, code]
  | .details payload _ => iac :: sb :: (payload ++ [iac, se])
  | .stray b _ _ => [b]

/-- An offer is declined, and nothing else is answered. -/
def answer : Token → Bytes
  | .offer kind option => [iac, kind.declined, option]
  | _ => []

end Token

def encode (tokens : List Token) : Bytes := tokens.flatMap Token.encode

def answers (tokens : List Token) : Bytes := tokens.flatMap Token.answer

/-- How a text begins. -/
inductive Opening where
  | plain (b : UInt8) (low : b < 0x80) (more : Bytes)
  /-- The byte that begins commands is written twice where it is text. -/
  | escaped (more : Bytes)

namespace Opening

def encode : Opening → Bytes
  | .plain b _ more => b :: more
  | .escaped more => iac :: iac :: more

def text : Opening → Bytes
  | .plain b _ more => b :: more
  | .escaped more => iac :: more

end Opening

/-- A piece of a command whose rest is still to come. -/
inductive IsCut : Bytes → Prop where
  | nothing : IsCut []
  | command : IsCut [iac]
  | option (kind : Offer) : IsCut [iac, kind.code]
  | details {payload : Bytes} (unmarked : ¬ [iac, se] <:+: payload) : IsCut (iac :: sb :: payload)

/-! ## Details -/

/-- The end of details may be marked by the first two bytes, or later. -/
theorem marked_cons {a : UInt8} {rest : Bytes} :
    [iac, se] <:+: a :: rest ↔ (a = iac ∧ rest.head? = some se) ∨ [iac, se] <:+: rest := by
  rw [List.infix_cons_iff]
  refine or_congr_left ?_
  cases rest <;> simp [List.cons_prefix_cons, eq_comm]

theorem afterDetails_cons (a : UInt8) (rest : Bytes) : afterDetails (a :: rest) =
    if a = iac ∧ rest.head? = some se then some rest.tail else afterDetails rest := by
  cases rest with
  | nil => simp [afterDetails]
  | cons b more => simp [afterDetails]

/-- Details end where their end is first marked. -/
theorem afterDetails_encode {payload : Bytes} (unmarked : ¬ [iac, se] <:+: payload) (rest : Bytes) :
    afterDetails (payload ++ iac :: se :: rest) = some rest := by
  induction payload with
  | nil => rfl
  | cons a more ih =>
    obtain ⟨first, later⟩ := not_or.mp (mt marked_cons.mpr unmarked)
    have apart : ¬(a = iac ∧ (more ++ iac :: se :: rest).head? = some se) := by
      rintro ⟨rfl, second⟩
      cases more with
      -- The details may end with the byte that begins commands. The mark is still the two bytes behind it.
      | nil => simp [iac, se] at second
      | cons b others => exact first ⟨rfl, second⟩
    rw [List.cons_append, afterDetails_cons, if_neg apart]
    exact ih later

theorem afterDetails_eq_some {bytes rest : Bytes} (ended : afterDetails bytes = some rest) :
    ∃ payload, ¬ [iac, se] <:+: payload ∧ bytes = payload ++ iac :: se :: rest := by
  induction bytes with
  | nil => cases ended
  | cons a more ih =>
    rw [afterDetails_cons] at ended
    by_cases marked : a = iac ∧ more.head? = some se
    · obtain ⟨rfl, second⟩ := marked
      obtain ⟨others, rfl⟩ := List.head?_eq_some_iff.mp second
      rw [if_pos ⟨rfl, second⟩] at ended
      cases ended
      exact ⟨[], by simp, rfl⟩
    · rw [if_neg marked] at ended
      obtain ⟨payload, unmarked, rfl⟩ := ih ended
      refine ⟨a :: payload, ?_, rfl⟩
      rw [marked_cons]
      refine not_or.mpr ⟨?_, unmarked⟩
      rintro ⟨rfl, second⟩
      exact marked ⟨rfl, by simp [List.head?_append, second]⟩

theorem afterDetails_eq_none {bytes : Bytes} : afterDetails bytes = none ↔ ¬ [iac, se] <:+: bytes := by
  induction bytes with
  | nil => simp [afterDetails]
  | cons a more ih =>
    rw [afterDetails_cons, marked_cons, not_or, ← ih]
    by_cases marked : a = iac ∧ more.head? = some se
    · simp [marked]
    · simp [marked]

/-! ## What is in front -/

section Front
variable {rest : Bytes}

/-- What is read behind the byte that begins commands. -/
theorem negotiate_iac (code : UInt8) : negotiate (iac :: code :: rest) =
    if isOffer code then
      match rest with
      | [] => ([], .pending [iac, code])
      | option :: more => (iac :: refusal code :: option :: (negotiate more).1, (negotiate more).2)
    else if code = sb then
      match afterDetails rest with
      | none => ([], .pending (iac :: code :: rest))
      | some more => negotiate more
    else if code = iac then ([], .text (code :: rest))
    else negotiate rest := by
  rw [negotiate.eq_def]
  simp only [ne_eq, not_true_eq_false, if_false]
  refine ite_congr rfl (fun _ => rfl) fun _ => ?_
  refine ite_congr rfl (fun _ => ?_) fun _ => rfl
  split <;> rename_i found <;> rw [found]

theorem negotiate_offer (kind : Offer) (option : UInt8) : negotiate (iac :: kind.code :: option :: rest) =
    (iac :: kind.declined :: option :: (negotiate rest).1, (negotiate rest).2) := by
  rw [negotiate_iac]
  cases kind <;> rfl

theorem negotiate_command {code : UInt8} (other : code ∉ iac :: sb :: Offer.all.map Offer.code) :
    negotiate (iac :: code :: rest) = negotiate rest := by
  simp only [Offer.all, Offer.code, List.map_cons, List.map_nil, List.mem_cons, List.not_mem_nil, or_false,
    not_or] at other
  rw [negotiate_iac]
  simp [isOffer, other]

theorem negotiate_details {payload : Bytes} (unmarked : ¬ [iac, se] <:+: payload) :
    negotiate (iac :: sb :: (payload ++ iac :: se :: rest)) = negotiate rest := by
  rw [negotiate_iac, afterDetails_encode unmarked]
  rfl

theorem negotiate_stray {b : UInt8} (high : 0x80 ≤ b) (other : b ≠ iac) :
    negotiate (b :: rest) = negotiate rest := by
  have notLow : ¬ b < 0x80 := UInt8.not_lt.mpr high
  rw [negotiate.eq_def]
  simp only [other, notLow, ne_eq, not_false_eq_true, if_true, if_false]

end Front

/-- A token is answered, and what follows it is read as if it stood alone. -/
theorem negotiate_token (token : Token) (rest : Bytes) :
    negotiate (token.encode ++ rest) = (token.answer ++ (negotiate rest).1, (negotiate rest).2) := by
  cases token with
  | offer kind option => exact negotiate_offer kind option
  | command code other => exact negotiate_command other
  | details payload unmarked =>
    simp only [Token.encode, List.cons_append, List.append_assoc, List.nil_append]
    exact negotiate_details unmarked
  | stray b high other => exact negotiate_stray high other

theorem negotiate_encode (tokens : List Token) (rest : Bytes) :
    negotiate (encode tokens ++ rest) = (answers tokens ++ (negotiate rest).1, (negotiate rest).2) := by
  induction tokens with
  | nil => rfl
  | cons token later ih =>
    simp only [encode, answers, List.flatMap_cons, List.append_assoc] at ih ⊢
    rw [negotiate_token, ih]

/-! ## What is behind -/

theorem negotiate_opening (opening : Opening) : negotiate opening.encode = ([], .text opening.text) := by
  cases opening with
  | plain b low more =>
    have other : b ≠ iac := by
      rintro rfl
      exact absurd low (by decide)
    rw [Opening.encode, negotiate.eq_def]
    simp only [other, low, ne_eq, not_false_eq_true, if_true]
    rfl
  | escaped more => exact negotiate_iac iac

theorem negotiate_cut {bytes : Bytes} (cut : IsCut bytes) : negotiate bytes = ([], .pending bytes) := by
  cases cut with
  | nothing => rw [negotiate.eq_def]
  | command => rw [negotiate.eq_def]; rfl
  | option kind =>
    rw [negotiate_iac]
    cases kind <;> rfl
  | details unmarked =>
    rw [negotiate_iac, afterDetails_eq_none.mpr unmarked]
    rfl

/-! ## Bytes as tokens -/

/-- Some bytes are tokens, and behind them a piece of a command or text. -/
def IsRead (bytes : Bytes) : Prop :=
  ∃ tokens rest, bytes = encode tokens ++ rest ∧ (IsCut rest ∨ ∃ opening : Opening, rest = opening.encode)

theorem isRead_token (token : Token) {bytes : Bytes} (read : IsRead bytes) : IsRead (token.encode ++ bytes) := by
  obtain ⟨tokens, rest, rfl, stops⟩ := read
  exact ⟨token :: tokens, rest, by simp [encode], stops⟩

theorem offer_of_isOffer {code : UInt8} (about : isOffer code = true) : ∃ kind : Offer, code = kind.code := by
  simp only [isOffer, Bool.or_eq_true, decide_eq_true_eq] at about
  rcases about with ((rfl | rfl) | rfl) | rfl
  · exact ⟨.will, rfl⟩
  · exact ⟨.wont, rfl⟩
  · exact ⟨.doOption, rfl⟩
  · exact ⟨.dont, rfl⟩

/-- **Bytes are tokens.** Whatever bytes come, they are tokens, and behind them a piece of a command or text. -/
theorem bytes_are_tokens (bytes : Bytes) : IsRead bytes := by
  -- One case for each way in which the negotiation goes on or stops.
  fun_induction negotiate bytes with
  | case1 => exact ⟨[], [], rfl, .inl .nothing⟩
  | case2 b rest other low => exact ⟨[], _, rfl, .inr ⟨.plain b low rest, rfl⟩⟩
  | case3 b rest other high ih => exact isRead_token (.stray b (UInt8.not_lt.mp high) other) ih
  | case4 b begins =>
    obtain rfl := Decidable.not_not.mp begins
    exact ⟨[], _, rfl, .inl .command⟩
  | case5 b begins code about =>
    obtain rfl := Decidable.not_not.mp begins
    obtain ⟨kind, rfl⟩ := offer_of_isOffer about
    exact ⟨[], _, rfl, .inl (.option kind)⟩
  | case6 b begins code about option more _ _ _ ih =>
    obtain rfl := Decidable.not_not.mp begins
    obtain ⟨kind, rfl⟩ := offer_of_isOffer about
    exact isRead_token (.offer kind option) ih
  | case7 b begins details open_ =>
    obtain rfl := Decidable.not_not.mp begins
    exact ⟨[], _, rfl, .inl (.details (afterDetails_eq_none.mp open_))⟩
  | case8 b begins details more ended _ ih =>
    obtain rfl := Decidable.not_not.mp begins
    obtain ⟨payload, unmarked, rfl⟩ := afterDetails_eq_some ended
    simpa [Token.encode] using isRead_token (.details payload unmarked) ih
  | case9 b begins more =>
    obtain rfl := Decidable.not_not.mp begins
    exact ⟨[], _, rfl, .inr ⟨.escaped more, rfl⟩⟩
  | case10 b begins code more unrelated notSb notIac ih =>
    obtain rfl := Decidable.not_not.mp begins
    have other : code ∉ iac :: sb :: Offer.all.map Offer.code := by
      simp only [isOffer, Bool.or_eq_true, decide_eq_true_eq, not_or] at unrelated
      simp [Offer.all, Offer.code, notSb, notIac, unrelated]
    exact isRead_token (.command code other) ih

/-! ## The main theorem -/

/-- **Offers are declined in order.** Of any list of tokens, each offer is declined, with the option that it is
about, and nothing is left over. If text follows them, the same is answered, and the text is told, with the byte
that begins commands written once. -/
theorem offers_are_declined_in_order (tokens : List Token) :
    Negotiator.fresh.feed (encode tokens) = (.needMore (answers tokens), .fresh) ∧
      ∀ opening : Opening, Negotiator.fresh.feed (encode tokens ++ opening.encode) =
        (.text (answers tokens) opening.text, ⟨true, []⟩) := by
  constructor
  · have read := negotiate_encode tokens []
    rw [negotiate_cut .nothing, List.append_nil, List.append_nil] at read
    simp only [Negotiator.feed, Negotiator.fresh, List.nil_append, read]
  · intro opening
    have read := negotiate_encode tokens opening.encode
    rw [negotiate_opening, List.append_nil] at read
    simp only [Negotiator.feed, Negotiator.fresh, List.nil_append, read]

/-- Options and details may look like commands or like text, and details may end with the byte that begins
commands. -/
example : Negotiator.fresh.feed
    ([iac, will, iac, iac, sb, 0x18, se, 0x41, iac, iac, se, 0x90, iac, 0xf9, iac, doOption, se] ++ [iac, iac, 0x42]) =
      (.text [iac, dont, iac, iac, wont, se] [iac, 0x42], ⟨true, []⟩) := by
  cbv

end HostSurvey.Probe.Telnet
