import HostSurvey.Proofs.Screen.Verdict
import Mathlib.Algebra.GroupWithZero.Nat
/-!
# Lists of rules over many inputs

A list of rules is tried on one input after the other, by whomever; each refusal changes the list that the next
input is tried on.

1. `Ordered` is what trying an input keeps: the rules are the original ones in some order, their counters fall
   along the list, and the counters add up to the refusals so far.
2. A refusal adds one to one counter (`credit_hits`) and sorts; an input that is let through leaves the list as
   it is (`check_miss`). So one input keeps `Ordered` (`ordered_check`), and so do many (`ordered_checkAll`).
3. Because the rules stay, what the list says to an input does not depend on what it was tried on before
   (`a_list_is_a_filter`).
-/
namespace HostSurvey.Screen.RuleList

variable {ρ ι : Type} {test : ρ → Bool} {fits : ι → ρ → Bool} {list : RuleList ρ} {rules : List ρ}

/-- Tries inputs one after the other: what the list said to each, and the list afterwards. -/
def checkAll (fits : ι → ρ → Bool) : RuleList ρ → List ι → List Bool × RuleList ρ
  | list, [] => ([], list)
  | list, input :: later =>
    let (refused, after) := list.check (fits input)
    let (verdicts, last) := checkAll fits after later
    (refused :: verdicts, last)

/-! ## One input -/

/-- If a rule fits, one counter goes up by one. -/
theorem credit_hits (test : ρ → Bool) (list : RuleList ρ) :
    (list.credit test).hits.sum = list.hits.sum + if list.fits test then 1 else 0 := by
  induction list with
  | nil => rfl
  | cons item rest ih =>
    unfold credit
    split
    · rename_i first
      have any : RuleList.fits test (item :: rest) = true := by simp [RuleList.fits, first]
      simp only [any, hits, List.map_cons, List.sum_cons, if_true]
      omega
    · rename_i other
      have same : RuleList.fits test (item :: rest) = RuleList.fits test rest := by
        simp [RuleList.fits, other]
      simp only [hits, List.map_cons, List.sum_cons, same] at ih ⊢
      omega

theorem arrange_hits (list : RuleList ρ) : list.arrange.hits.Perm list.hits :=
  (List.mergeSort_perm list _).map _

/-- A list that was sorted has falling counters. -/
theorem arrange_falling (list : RuleList ρ) : list.arrange.hits.Pairwise (· ≥ ·) := by
  have sorted : list.arrange.Pairwise fun a b => decide (b.hits ≤ a.hits) = true :=
    List.pairwise_mergeSort (fun a b c first second => by
      simp only [decide_eq_true_eq] at first second ⊢
      exact Nat.le_trans second first)
      (fun a b => by simpa using Nat.le_total b.hits a.hits) list
  exact List.pairwise_map.mpr (sorted.imp fun least => of_decide_eq_true least)

/-- An input that is let through changes nothing. -/
theorem check_miss (passed : (list.check test).1 = false) : (list.check test).2 = list := by
  unfold check at passed ⊢
  split at passed
  · cases passed
  · rename_i none
    rw [if_neg none]

/-- The counters after an input add up to one more, if it was refused. -/
theorem check_hits (list : RuleList ρ) :
    (list.check test).2.hits.sum = list.hits.sum + if (list.check test).1 then 1 else 0 := by
  unfold check
  split
  · rename_i some
    have credited := credit_hits test list
    rw [some] at credited
    exact (arrange_hits _).sum_nat.trans credited
  · rfl

/-! ## Many inputs -/

/-- A list that is made of rules, with falling counters that add up to a number of refusals. -/
structure Ordered (rules : List ρ) (refusals : Nat) (list : RuleList ρ) : Prop where
  /-- No rule is lost and none has come. -/
  rules : list.rules.Perm rules
  falling : list.hits.Pairwise (· ≥ ·)
  total : list.hits.sum = refusals

theorem ordered_ofRules (rules : List ρ) : Ordered rules 0 (ofRules rules) := by
  have zeros : (ofRules rules).hits = List.replicate rules.length 0 := by
    simp [hits, ofRules, Function.comp_def, List.map_const']
  refine ⟨.of_eq (by simp [RuleList.rules, ofRules, Function.comp_def]), ?_, ?_⟩
  · rw [zeros]
    exact List.pairwise_replicate.mpr (.inr (Nat.le_refl 0))
  · simp [zeros]

theorem ordered_check {refusals : Nat} (ordered : Ordered rules refusals list) (test : ρ → Bool) :
    Ordered rules (refusals + if (list.check test).1 then 1 else 0) (list.check test).2 where
  rules := (check_rules list).trans ordered.rules
  falling := by
    unfold check
    split
    · exact arrange_falling _
    · exact ordered.falling
  total := by rw [check_hits, ordered.total]

theorem ordered_checkAll {refusals : Nat} (ordered : Ordered rules refusals list) (inputs : List ι) :
    Ordered rules (refusals + (list.checkAll fits inputs).1.count true) (list.checkAll fits inputs).2 := by
  induction inputs generalizing list refusals with
  | nil => exact ordered
  | cons input later ih =>
    have after := ih (ordered_check ordered (fits input))
    have counted : (list.checkAll fits (input :: later)).1.count true =
        (if (list.check (fits input)).1 then 1 else 0) +
          ((list.check (fits input)).2.checkAll fits later).1.count true := by
      simp only [checkAll, List.count_cons, beq_true]
      exact Nat.add_comm _ _
    rw [counted, ← Nat.add_assoc]
    exact after

/-- What a list says to an input depends on its rules alone. -/
theorem check_verdict {refusals : Nat} (ordered : Ordered rules refusals list) (test : ρ → Bool) :
    (list.check test).1 = rules.any test := by
  rw [check_refuses]
  exact Bool.eq_iff_iff.mpr (by simp only [List.any_eq_true, ordered.rules.mem_iff])

theorem checkAll_verdicts {refusals : Nat} (ordered : Ordered rules refusals list) (inputs : List ι) :
    (list.checkAll fits inputs).1 = inputs.map fun input => rules.any (fits input) := by
  induction inputs generalizing list refusals with
  | nil => rfl
  | cons input later ih =>
    have after := ih (ordered_check ordered (fits input))
    simp only [checkAll, List.map_cons, check_verdict ordered, after]

/-! ## The main theorem -/

/-- What is true of a list that was made of rules and tried on inputs. -/
structure FiltersFaithfully (rules : List ρ) (fits : ι → ρ → Bool) (inputs : List ι) : Prop where
  /-- It refused those inputs that fit one of the rules. -/
  verdicts : ((ofRules rules).checkAll fits inputs).1 = inputs.map fun input => rules.any (fits input)
  /-- No rule is lost and none has come. -/
  same : ((ofRules rules).checkAll fits inputs).2.rules.Perm rules
  falling : ((ofRules rules).checkAll fits inputs).2.hits.Pairwise (· ≥ ·)
  /-- The counters add up to the number of refusals. -/
  total : ((ofRules rules).checkAll fits inputs).2.hits.sum =
    ((ofRules rules).checkAll fits inputs).1.count true
  /-- It refuses a further input if that fits one of the rules, and is left as it is otherwise. -/
  next : ∀ input, let list := ((ofRules rules).checkAll fits inputs).2
    (list.check (fits input)).1 = rules.any (fits input) ∧
      (rules.any (fits input) = false → (list.check (fits input)).2 = list)

/-- **A list of rules is a filter.** Make a list of any rules and try it on any inputs, one after the other.
Whatever was tried before, an input is refused if and only if it fits one of the rules that the list was made
of. The list always has just these rules, in the order of falling counters; the counters add up to the number
of refusals, and an input that is let through changes neither order nor counters. -/
theorem a_list_is_a_filter (rules : List ρ) (fits : ι → ρ → Bool) (inputs : List ι) :
    FiltersFaithfully rules fits inputs := by
  have ordered : Ordered rules _ ((ofRules rules).checkAll fits inputs).2 :=
    ordered_checkAll (ordered_ofRules rules) inputs
  refine ⟨checkAll_verdicts (ordered_ofRules rules) inputs, ordered.rules, ordered.falling, ?_, ?_⟩
  · rw [ordered.total, Nat.zero_add]
  · intro input list
    have verdict := check_verdict ordered (fits input)
    exact ⟨verdict, fun passes => check_miss (verdict.trans passes)⟩

end HostSurvey.Screen.RuleList
