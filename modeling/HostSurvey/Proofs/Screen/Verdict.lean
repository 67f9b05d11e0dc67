import HostSurvey.Screen.Names
import HostSurvey.Screen.Networks
/-!
# Verdicts of a screen

A list of rules changes with every input that it refuses, but only in its counters and its order. Which
inputs it refuses is settled by the rules alone (`check_refuses`), and those stay (`check_rules`).
-/
namespace HostSurvey.Screen

open Net Pattern

namespace RuleList

variable {ρ : Type} {test : ρ → Bool}

theorem credit_rules (list : RuleList ρ) : (list.credit test).rules = list.rules := by
  induction list with
  | nil => rfl
  | cons item rest ih =>
    unfold credit
    split
    · rfl
    · exact congrArg (item.rule :: ·) ih

theorem arrange_rules (list : RuleList ρ) : list.arrange.rules.Perm list.rules :=
  (List.mergeSort_perm list _).map _

/-- Trying an input keeps all rules. -/
theorem check_rules (list : RuleList ρ) : (list.check test).2.rules.Perm list.rules := by
  unfold check
  split
  · exact (arrange_rules _).trans (.of_eq (credit_rules list))
  · exact .refl _

/-- An input is refused if and only if it fits a rule, wherever in the list that is. -/
theorem check_refuses (list : RuleList ρ) : (list.check test).1 = list.rules.any test := by
  have fits : list.fits test = list.rules.any test := by
    simp [RuleList.fits, RuleList.rules, Function.comp_def]
  unfold check
  split
  · rename_i yes
    rw [← fits, yes]
  · rename_i no
    rw [← fits, eq_false_of_ne_true no]

/-- An input that is not refused fits none of the rules that the list began with. -/
theorem check_passes {list : RuleList ρ} {rules : List ρ} (same : list.rules.Perm rules)
    (passed : (list.check test).1 = false) : ∀ rule ∈ rules, test rule = false := by
  rw [check_refuses] at passed
  intro rule member
  have still := List.any_eq_false.mp passed rule (same.mem_iff.mpr member)
  exact eq_false_of_ne_true still

/-- An input is let through if and only if it fits none of the rules that the list began with. -/
theorem check_eq_false {list : RuleList ρ} {rules : List ρ} (same : list.rules.Perm rules) :
    (list.check test).1 = false ↔ ∀ rule ∈ rules, test rule = false := by
  refine ⟨check_passes same, ?_⟩
  intro passes
  rw [check_refuses, List.any_eq_false]
  intro rule member
  exact ne_true_of_eq_false (passes rule (same.mem_iff.mp member))

end RuleList
end HostSurvey.Screen
