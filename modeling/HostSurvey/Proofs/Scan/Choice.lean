import HostSurvey.Scan.Ports
import Mathlib.Data.List.Find
/-!
# Which port comes next

The source of a host and the beginning of its name speak for some ports. `preferred` lists them, the likeliest
first, and it knows nothing of what was tried.

1. The choice is the first port not yet tried, of the preferred ones and then of the candidates as chance has put
   them (`select_eq`). Everything else follows from this.
2. So a hint decides, whatever chance says, and a hint that is used up leaves it to the next one.
3. Without a hint every candidate that is left may come, and nothing else may (`mem_selectable`).
-/
namespace HostSurvey.Scan

/-! ## Hints -/

/-- A name begins with some letters, small or capital. Only the letters of ASCII are both. -/
def BeginsWith (name opening : String) : Prop :=
  opening.toList.map Char.toLower <+: name.toList.map Char.toLower

instance (name opening : String) : Decidable (BeginsWith name opening) :=
  inferInstanceAs (Decidable (_ <+: _))

/-- The ports that the source and the name of a host speak for, the likeliest first. A mail exchanger is nothing
else, whatever its name. -/
def preferred (host : Host) : List UInt16 :=
  if host.source = .exchanger then [25, 110, 143]
  else
    (if host.source = .nameserver then [53] else []) ++
    (if BeginsWith host.name "www" then [80] else []) ++
    (if BeginsWith host.name "ftp" then [21] else []) ++
    (if ∃ opening ∈ ["mx", "mail", "smtp", "pop", "imap"], BeginsWith host.name opening then [25, 110, 143]
      else [])

/-- A port is the first one in a list that was not tried. -/
def IsFirstUntried (ports tried : List UInt16) (port : UInt16) : Prop :=
  ∃ before after, ports = before ++ port :: after ∧ port ∉ tried ∧ ∀ earlier ∈ before, earlier ∈ tried

section Choice
variable {ports order tried others : List UInt16} {host : Host} {port : UInt16}

theorem opensWith_iff (name opening : String) (small : opening.toList.map Char.toLower = opening.toList) :
    opensWith name opening = true ↔ BeginsWith name opening := by
  rw [opensWith, List.isPrefixOf_iff_prefix, List.map_take, List.prefix_take_iff, BeginsWith, small]
  exact and_iff_left (Nat.le_of_eq String.length_toList)

theorem firstUntried_append (ports more tried : List UInt16) :
    firstUntried (ports ++ more) tried = (firstUntried ports tried).or (firstUntried more tried) :=
  List.find?_append

/-- A port that some hosts prefer comes first if the host is one of them and the port was not tried. -/
theorem firstUntried_if (fits : Prop) [Decidable fits] (port : UInt16) (more tried : List UInt16) :
    firstUntried ((if fits then [port] else []) ++ more) tried =
      if fits ∧ port ∉ tried then some port else firstUntried more tried := by
  by_cases fit : fits <;> by_cases used : port ∈ tried <;> simp [firstUntried, fit, used]

theorem firstUntried_eq_some : firstUntried ports tried = some port ↔ IsFirstUntried ports tried port := by
  simp only [firstUntried, List.find?_eq_some_iff_append, IsFirstUntried]
  constructor
  · rintro ⟨untried, before, after, rfl, used⟩
    exact ⟨before, after, rfl, by simpa using untried, by simpa using used⟩
  · rintro ⟨before, after, rfl, untried, used⟩
    exact ⟨by simpa using untried, before, after, rfl, by simpa using used⟩

theorem firstUntried_eq_none : firstUntried ports tried = none ↔ ∀ port ∈ ports, port ∈ tried := by
  simp [firstUntried]

theorem opens_mail_iff (name : String) : mailOpenings.any (opensWith name) = true ↔
    ∃ opening ∈ ["mx", "mail", "smtp", "pop", "imap"], BeginsWith name opening := by
  rw [List.any_eq_true]
  refine exists_congr fun opening => and_congr_right fun member => opensWith_iff name opening ?_
  revert opening
  decide

/-- A hint is the first of the preferred ports that was not tried. -/
theorem hinted_eq (host : Host) (tried : List UInt16) :
    hinted host tried = firstUntried (preferred host) tried := by
  unfold hinted preferred
  by_cases exchanger : host.source = .exchanger
  · rw [if_pos exchanger, if_pos exchanger]
    rfl
  · rw [if_neg exchanger, if_neg exchanger, List.append_assoc, List.append_assoc, firstUntried_if,
      firstUntried_if, firstUntried_if]
    simp only [opensWith_iff host.name "www" (by decide), opensWith_iff host.name "ftp" (by decide),
      opens_mail_iff, apply_ite (firstUntried · tried)]
    rfl

/-- The port that comes next is the first one that was not tried, of those that the host prefers and then of the
candidates as chance has put them. -/
theorem select_eq (order : List UInt16) (host : Host) (tried : List UInt16) :
    select order host tried = firstUntried (preferred host ++ order) tried := by
  rw [firstUntried_append, ← hinted_eq, select]
  cases hinted host tried <;> rfl

theorem preferred_candidates (host : Host) : preferred host ⊆ candidatePorts := by
  unfold preferred
  split_ifs <;> simp [candidatePorts, candidates]

/-- Whatever chance says, the ports to choose from are the candidates. -/
theorem mem_choices (shuffled : order.Perm candidatePorts) :
    port ∈ preferred host ++ order ↔ port ∈ candidatePorts := by
  rw [List.mem_append, shuffled.mem_iff]
  exact or_iff_right_of_imp fun member => preferred_candidates host member

/-! ## Choices -/

/-- No port is chosen that was tried. -/
theorem select_untried (chosen : select order host tried = some port) : port ∉ tried := by
  rw [select_eq, firstUntried_eq_some] at chosen
  obtain ⟨_, _, _, untried, _⟩ := chosen
  exact untried

theorem select_mem (shuffled : order.Perm candidatePorts) (chosen : select order host tried = some port) :
    port ∈ candidatePorts := by
  rw [select_eq, firstUntried_eq_some] at chosen
  obtain ⟨before, after, split, _, _⟩ := chosen
  have member : port ∈ preferred host ++ order := by simp [split]
  exact (mem_choices shuffled).mp member

theorem select_eq_none (shuffled : order.Perm candidatePorts) :
    select order host tried = none ↔ ∀ port ∈ candidatePorts, port ∈ tried := by
  rw [select_eq, firstUntried_eq_none]
  exact forall_congr' fun port => imp_congr_left (mem_choices shuffled)

theorem select_hint (hint : IsFirstUntried (preferred host) tried port) (order : List UInt16) :
    select order host tried = some port := by
  rw [select_eq, firstUntried_append, firstUntried_eq_some.mpr hint]
  rfl

/-- A candidate that was not tried is chosen where chance puts it first, unless a hint goes before it. -/
theorem select_first (untried : port ∉ tried) :
    select (port :: order) host tried = (hinted host tried <|> some port) := by
  have first : firstUntried (port :: order) tried = some port := by
    simp [firstUntried, untried]
  unfold select
  rw [first]

/-- Tried ports that are no candidates make no difference. -/
theorem select_congr (shuffled : order.Perm candidatePorts)
    (same : ∀ port ∈ candidatePorts, port ∈ tried ↔ port ∈ others) :
    select order host tried = select order host others := by
  rw [select_eq, select_eq]
  apply List.find?_congr
  intro port member
  have candidate : port ∈ candidatePorts := (mem_choices shuffled).mp member
  simp [same port candidate]

/-- Without a hint every candidate that was not tried is chosen where chance puts it first. -/
theorem select_chance (none : hinted host tried = none) (candidate : port ∈ candidatePorts)
    (untried : port ∉ tried) : ∃ order, order.Perm candidatePorts ∧ select order host tried = some port := by
  refine ⟨port :: candidatePorts.erase port, (List.perm_cons_erase candidate).symm, ?_⟩
  rw [select_first untried, none]
  rfl

/-- The ports that are told to be possible are those that some order of the candidates leads to. -/
theorem mem_selectable : port ∈ selectable host tried ↔
    ∃ order, order.Perm candidatePorts ∧ select order host tried = some port := by
  unfold selectable
  cases hint : hinted host tried with
  | some first =>
    have decided (order : List UInt16) : select order host tried = some first := by
      rw [hinted_eq] at hint
      exact select_hint (firstUntried_eq_some.mp hint) order
    simp only [List.mem_singleton, decided, Option.some.injEq]
    exact ⟨fun same => ⟨candidatePorts, .refl _, same.symm⟩, fun ⟨_, _, same⟩ => same.symm⟩
  | none =>
    constructor
    · intro left
      obtain ⟨candidate, untried⟩ := List.mem_filter.mp left
      exact select_chance hint candidate (by simpa using untried)
    · rintro ⟨order, shuffled, chosen⟩
      refine List.mem_filter.mpr ⟨select_mem shuffled chosen, ?_⟩
      simpa using select_untried chosen

end Choice

/-! ## The main theorem -/

/-- What is true of the choice of a port for a host on which some ports were tried. Chance may put the candidates
in any order. -/
structure FollowsHints (host : Host) (tried : List UInt16) : Prop where
  /-- A port that is chosen is a candidate that was not tried. It is never 0, which stands for no port. -/
  untried : ∀ order, order.Perm candidatePorts → ∀ port, select order host tried = some port →
    port ∈ candidatePorts ∧ port ∉ tried ∧ port ≠ 0
  /-- None is chosen if all candidates were tried, and only then. -/
  exhausted : ∀ order, order.Perm candidatePorts →
    (select order host tried = none ↔ ∀ port ∈ candidatePorts, port ∈ tried)
  /-- The first of the preferred ports that was not tried is chosen, whatever chance says. -/
  hint : ∀ port, IsFirstUntried (preferred host) tried port → ∀ order, order.Perm candidatePorts →
    select order host tried = some port
  /-- If there is no such port, each candidate that was not tried is chosen in some order, and no other port. -/
  chance : (∀ port, ¬ IsFirstUntried (preferred host) tried port) → ∀ port,
    (∃ order, order.Perm candidatePorts ∧ select order host tried = some port) ↔
      port ∈ candidatePorts ∧ port ∉ tried
  /-- Tried ports that are no candidates make no difference. -/
  foreign : ∀ others, (∀ port ∈ candidatePorts, port ∈ tried ↔ port ∈ others) →
    ∀ order, order.Perm candidatePorts → select order host tried = select order host others

/-- **Hints are followed.** For any host and any ports that were tried, the choice never falls on a tried port or on
one that is no candidate, and it fails only if there is nothing left. The ports that source and name speak for come
first and in their order; when they are used up, or there are none, any candidate that is left may come. -/
theorem hints_are_followed (host : Host) (tried : List UInt16) : FollowsHints host tried := by
  refine ⟨?_, ?_, ?_, ?_, ?_⟩
  · intro order shuffled port chosen
    have candidate := select_mem shuffled chosen
    refine ⟨candidate, select_untried chosen, ?_⟩
    rintro rfl
    exact absurd candidate (by decide)
  · intro order shuffled
    exact select_eq_none shuffled
  · intro port hint order _
    exact select_hint hint order
  · intro unhinted port
    have none : hinted host tried = none := by
      rw [hinted_eq, Option.eq_none_iff_forall_ne_some]
      exact fun port found => unhinted port (firstUntried_eq_some.mp found)
    rw [← mem_selectable, selectable, none]
    simp [List.mem_filter]
  · intro others same order shuffled
    exact select_congr shuffled same

/-- A name server that is called like a web server. With port 53 tried the name decides, and with port 80 tried too it
is left to chance. -/
example : selectable ⟨some 1, .v4 0, "wWw.example.", .nameserver, ⟨0, 0⟩⟩ [53, 21, 443] = [80] ∧
    (selectable ⟨some 1, .v4 0, "wWw.example.", .nameserver, ⟨0, 0⟩⟩ [53, 80]).length = 16 := by
  decide

end HostSurvey.Scan
