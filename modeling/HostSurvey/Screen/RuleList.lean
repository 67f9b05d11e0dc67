/-!
# Self-organizing lists of rules

A list of rules with a counter each. An input is tried against the rules from front to back; the first
rule that fits is credited and the list is sorted by falling counters, so that the few rules that
refuse most inputs come to stand in front. Sorting is stable: rules with equal counters keep their
order.
-/
namespace HostSurvey.Screen

/-- A rule and how often it has been credited (`BlacklistItem`). -/
structure Ranked (ρ : Type) where
  rule : ρ
  /-- How often it was the first one that fitted. -/
  hits : Nat
  deriving Repr, DecidableEq

/-- Rules in the order in which they are tried (`Blacklist`). -/
abbrev RuleList (ρ : Type) := List (Ranked ρ)

namespace RuleList

variable {ρ : Type}

/-- A list of rules none of which has been credited (`from_rules`). -/
def ofRules (rules : List ρ) : RuleList ρ :=
  rules.map fun rule => ⟨rule, 0⟩

/-- The rules in their present order. -/
def rules (list : RuleList ρ) : List ρ :=
  list.map (·.rule)

/-- The counters in the present order (`hit_counts`). -/
def hits (list : RuleList ρ) : List Nat :=
  list.map (·.hits)

def fits (test : ρ → Bool) (list : RuleList ρ) : Bool :=
  list.any fun item => test item.rule

/-- Credits the first rule that fits, leaving all in place. -/
def credit (test : ρ → Bool) : RuleList ρ → RuleList ρ
  | [] => []
  | item :: rest =>
    if test item.rule then { item with hits := item.hits + 1 } :: rest
    else item :: credit test rest

/-- The rules in the order of falling counters; equal ones keep their order. -/
def arrange (list : RuleList ρ) : RuleList ρ :=
  list.mergeSort fun a b => decide (b.hits ≤ a.hits)

/-- Tries an input, given by which rules it fits: whether one does, and the list afterwards (`matches`). -/
def check (test : ρ → Bool) (list : RuleList ρ) : Bool × RuleList ρ :=
  if list.fits test then (true, (list.credit test).arrange) else (false, list)

end RuleList
end HostSurvey.Screen
