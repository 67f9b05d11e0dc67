import HostSurvey.Proofs.Screen.Ranking
import Mathlib.Data.List.Induction
/-!
# The order of a list of rules

Which of several rules that fit is credited depends on their order, and the order on what was credited before.

1. Sorting after a credit amounts to one move. The credited item passes the items in front of it that now have fewer
   hits than it has, and all others keep their order (`arrange_raised`, `check_moved`).
2. To tell rules apart that may be equal, each rule bears the place that it had at first. That changes nothing
   (`checkAll_relabel`).
3. `Standing` is what one input keeps: the items stand by falling counters, and those with equal counters as they came
   to have them (`standing_check`). So it holds after any inputs (`rules_stand_by_hits_and_arrival`).
-/
namespace HostSurvey.Screen.RuleList

variable {ρ σ ι : Type} {test : ρ → Bool} {list : RuleList ρ}

/-! ## One input -/

/-- The rule that an input credits: the first one that it fits, in the present order. -/
def credited? (test : ρ → Bool) (list : RuleList ρ) : Option ρ :=
  list.rules.find? test

theorem credited?_first {before behind : RuleList ρ} {item : Ranked ρ}
    (earlier : ∀ other ∈ before, test other.rule = false) (fitting : test item.rule = true) :
    credited? test (before ++ item :: behind) = some item.rule := by
  have none : (rules before).find? test = none := by
    refine List.find?_eq_none.mpr fun rule member => ?_
    obtain ⟨other, inside, rfl⟩ := List.mem_map.mp member
    simp [earlier other inside]
  have split : rules (before ++ item :: behind) = rules before ++ item.rule :: rules behind := by simp [rules]
  rw [credited?, split, List.find?_append, none, List.find?_cons_of_pos fitting]
  rfl

/-- One move: the first item that fits is credited, and passes those items that have fewer hits than it has then. It
comes to stand directly behind the last one that has at least as many. -/
inductive Moved (test : ρ → Bool) : RuleList ρ → RuleList ρ → Prop where
  | past {ahead passed behind : RuleList ρ} {item : Ranked ρ}
    (earlier : ∀ other ∈ ahead ++ passed, test other.rule = false) (fitting : test item.rule = true)
    (atLeast : ∀ other ∈ ahead, item.hits + 1 ≤ other.hits)
    (fewer : ∀ other ∈ passed ++ behind, other.hits < item.hits + 1) :
    Moved test (ahead ++ passed ++ item :: behind)
      (ahead ++ { item with hits := item.hits + 1 } :: (passed ++ behind))

/-- The first item that fits gets the credit. -/
theorem credit_first (fitting : list.fits test = true) :
    ∃ before item after, list = before ++ item :: after ∧ (∀ other ∈ before, test other.rule = false) ∧
      test item.rule = true ∧ list.credit test = before ++ { item with hits := item.hits + 1 } :: after := by
  induction list with
  | nil => cases fitting
  | cons first rest ih =>
    cases fits : test first.rule with
    | true => exact ⟨[], first, rest, rfl, by simp, fits, by simp [credit, fits]⟩
    | false =>
      have later : RuleList.fits test rest = true := by simpa [RuleList.fits, fits] using fitting
      obtain ⟨before, item, after, rfl, earlier, first_fits, credited⟩ := ih later
      refine ⟨first :: before, item, after, rfl, ?_, first_fits, by simp [credit, fits, credited]⟩
      intro other member
      rcases List.mem_cons.mp member with rfl | inside
      · exact fits
      · exact earlier other inside

/-- What is sorted in front of the rest: an item that has fewer hits than some of it. -/
private theorem arrange_cons (item : Ranked ρ) (rest : RuleList ρ) :
    ∃ ahead behind, arrange (item :: rest) = ahead ++ item :: behind ∧ arrange rest = ahead ++ behind ∧
      ∀ other ∈ ahead, item.hits < other.hits := by
  obtain ⟨ahead, behind, all, others, more⟩ := @List.mergeSort_cons _ (fun a b : Ranked ρ => decide (b.hits ≤ a.hits))
    (fun a b c first second => by
      simp only [decide_eq_true_eq] at first second ⊢
      exact Nat.le_trans second first)
    (fun a b => by simpa using Nat.le_total b.hits a.hits) item rest
  refine ⟨ahead, behind, all, others, fun other member => ?_⟩
  simpa using more other member

/-- An item in front of others that have no more hits stays there. -/
private theorem arrange_leading {first : Ranked ρ} {rest : RuleList ρ}
    (most : ∀ other ∈ rest, other.hits ≤ first.hits) : arrange (first :: rest) = first :: arrange rest := by
  obtain ⟨ahead, behind, all, others, more⟩ := arrange_cons first rest
  cases ahead with
  | nil => rw [all, others]; rfl
  | cons top between =>
    have inside : top ∈ arrange rest := by simp [others]
    have below := most top (List.mem_mergeSort.mp inside)
    exact absurd (more top List.mem_cons_self) (Nat.not_lt.mpr below)

/-- An item that has more hits than all others is sorted to the front. -/
private theorem arrange_greatest {item : Ranked ρ} {passed behind : RuleList ρ}
    (falling : (passed ++ behind).Pairwise fun a b => b.hits ≤ a.hits)
    (fewer : ∀ other ∈ passed ++ behind, other.hits < item.hits) :
    arrange (passed ++ item :: behind) = item :: (passed ++ behind) := by
  induction passed with
  | nil =>
    apply List.mergeSort_of_pairwise
    refine List.pairwise_cons.mpr ⟨fun other member => ?_, falling.imp fun less => by simpa using less⟩
    simpa using Nat.le_of_lt (fewer other member)
  | cons first rest ih =>
    obtain ⟨least, falling⟩ := List.pairwise_cons.mp (List.cons_append ▸ falling)
    have sorted := ih falling fun other member => fewer other (List.mem_cons_of_mem _ member)
    obtain ⟨ahead, after, all, others, more⟩ := arrange_cons first (rest ++ item :: behind)
    have order := arrange_falling (first :: (rest ++ item :: behind))
    rw [sorted] at others
    rw [all] at order
    rw [List.cons_append, all]
    match ahead with
    | [] =>
      -- The list is sorted, so the first item cannot stand in front of one that has more hits.
      have above : item.hits ≤ first.hits := by
        rw [List.nil_append] at others
        rw [← others] at order
        exact (List.pairwise_cons.mp order).1 _ (by simp)
      exact absurd (fewer first List.mem_cons_self) (Nat.not_lt.mpr above)
    | [top] =>
      obtain ⟨rfl, rfl⟩ := List.cons.inj others
      rfl
    | top :: next :: between =>
      obtain ⟨rfl, behind_top⟩ := List.cons.inj others
      have below := least next (behind_top ▸ List.mem_cons_self)
      exact absurd (more next (by simp)) (Nat.not_lt.mpr below)

/-- Sorting after one counter of a falling list went up moves its item past those that have fewer hits. -/
theorem arrange_raised {ahead passed behind : RuleList ρ} {item : Ranked ρ}
    (falling : (ahead ++ (passed ++ behind)).Pairwise fun a b => b.hits ≤ a.hits)
    (atLeast : ∀ other ∈ ahead, item.hits ≤ other.hits) (fewer : ∀ other ∈ passed ++ behind, other.hits < item.hits) :
    arrange (ahead ++ (passed ++ item :: behind)) = ahead ++ item :: (passed ++ behind) := by
  induction ahead with
  | nil => exact arrange_greatest falling fewer
  | cons first rest ih =>
    obtain ⟨least, falling⟩ := List.pairwise_cons.mp (List.cons_append ▸ falling)
    have sorted := ih falling fun other member => atLeast other (List.mem_cons_of_mem _ member)
    have most : ∀ other ∈ rest ++ (passed ++ item :: behind), other.hits ≤ first.hits := by
      intro other member
      have place : other = item ∨ other ∈ rest ++ (passed ++ behind) := by
        simp only [List.mem_append, List.mem_cons] at member ⊢
        tauto
      rcases place with rfl | inside
      · exact atLeast first List.mem_cons_self
      · exact least other inside
    exact (arrange_leading most).trans (congrArg (first :: ·) sorted)

/-- A falling list is cut where the counters fall below a number. -/
private theorem cut_falling (falling : list.Pairwise fun a b => b.hits ≤ a.hits) (count : Nat) :
    ∃ ahead passed, list = ahead ++ passed ∧ (∀ other ∈ ahead, count ≤ other.hits) ∧
      ∀ other ∈ passed, other.hits < count := by
  induction list with
  | nil => exact ⟨[], [], rfl, by simp, by simp⟩
  | cons first rest ih =>
    obtain ⟨least, falling⟩ := List.pairwise_cons.mp falling
    by_cases enough : count ≤ first.hits
    · obtain ⟨ahead, passed, rfl, atLeast, fewer⟩ := ih falling
      exact ⟨first :: ahead, passed, rfl, by simpa using ⟨enough, atLeast⟩, fewer⟩
    · refine ⟨[], first :: rest, rfl, by simp, fun other member => ?_⟩
      have below : other.hits ≤ first.hits := by
        rcases List.mem_cons.mp member with rfl | inside
        · exact Nat.le_refl _
        · exact least other inside
      omega

/-- In a list with falling counters, an input that is refused moves the item that it credits, and nothing else. -/
theorem check_moved (falling : list.hits.Pairwise (· ≥ ·)) (refused : (list.check test).1 = true) :
    Moved test list (list.check test).2 := by
  have fitting : list.fits test = true := by
    by_contra none
    simp [check, none] at refused
  have checked : (list.check test).2 = (list.credit test).arrange := by rw [check, if_pos fitting]
  obtain ⟨before, item, behind, rfl, earlier, fits, credited⟩ := credit_first fitting
  have falling : (before ++ item :: behind).Pairwise fun a b => b.hits ≤ a.hits := List.pairwise_map.mp falling
  have others : (before ++ behind).Pairwise fun a b => b.hits ≤ a.hits :=
    falling.sublist ((List.sublist_cons_self item behind).append_left before)
  obtain ⟨front, back, _⟩ := List.pairwise_append.mp falling
  obtain ⟨ahead, passed, rfl, atLeast, fewer⟩ := cut_falling front (item.hits + 1)
  have below : ∀ other ∈ passed ++ behind, other.hits < item.hits + 1 := by
    intro other member
    rcases List.mem_append.mp member with inside | inside
    · exact fewer other inside
    · exact Nat.lt_succ_of_le ((List.pairwise_cons.mp back).1 other inside)
  have moved : arrange (ahead ++ passed ++ { item with hits := item.hits + 1 } :: behind) =
      ahead ++ { item with hits := item.hits + 1 } :: (passed ++ behind) := by
    rw [List.append_assoc] at others ⊢
    exact arrange_raised others atLeast below
  rw [checked, credited, moved]
  exact .past earlier fits atLeast below

/-! ## Rules with places -/

/-- The list with other names for its rules. -/
def relabel (f : ρ → σ) (list : RuleList ρ) : RuleList σ :=
  list.map fun item => ⟨f item.rule, item.hits⟩

section Relabel
variable (f : ρ → σ) (test : σ → Bool)

private theorem credit_relabel (list : RuleList ρ) :
    (list.relabel f).credit test = (list.credit (test ∘ f)).relabel f := by
  induction list with
  | nil => rfl
  | cons item rest ih =>
    simp only [relabel, List.map_cons, credit, Function.comp_apply] at ih ⊢
    split
    · rfl
    · rw [ih, List.map_cons]

private theorem arrange_relabel (list : RuleList ρ) : (list.relabel f).arrange = list.arrange.relabel f :=
  (List.map_mergeSort (f := fun item : Ranked ρ => (⟨f item.rule, item.hits⟩ : Ranked σ)) fun _ _ _ _ => rfl).symm

/-- How rules are named is of no account. -/
theorem check_relabel (list : RuleList ρ) :
    (list.relabel f).check test = ((list.check (test ∘ f)).1, (list.check (test ∘ f)).2.relabel f) := by
  have same : (list.relabel f).fits test = list.fits (test ∘ f) := by simp [RuleList.fits, relabel, Function.comp_def]
  unfold check
  rw [same, credit_relabel, arrange_relabel]
  split <;> rfl

theorem checkAll_relabel (fits : ι → σ → Bool) (list : RuleList ρ) (inputs : List ι) :
    (list.relabel f).checkAll fits inputs =
      ((list.checkAll (fun input => fits input ∘ f) inputs).1,
        (list.checkAll (fun input => fits input ∘ f) inputs).2.relabel f) := by
  induction inputs generalizing list with
  | nil => rfl
  | cons input later ih => simp only [checkAll, check_relabel, ih]

end Relabel

/-- A list of rules each of which bears its place. None has been credited. -/
def placed (rules : List ρ) : RuleList (ρ × Nat) :=
  ofRules rules.zipIdx

theorem relabel_placed (rules : List ρ) : (placed rules).relabel Prod.fst = ofRules rules := by
  have same : rules.zipIdx.map Prod.fst = rules := List.zipIdx_map_fst 0 rules
  calc (placed rules).relabel Prod.fst = ofRules (rules.zipIdx.map Prod.fst) := by
        rw [placed, relabel, ofRules, ofRules, List.map_map, List.map_map]
        rfl
    _ = ofRules rules := by rw [same]

/-! ## Credits in a row -/

/-- The rules that inputs credit, one after the other. -/
def credits (fits : ι → ρ → Bool) : RuleList ρ → List ι → List (Option ρ)
  | _, [] => []
  | list, input :: later => list.credited? (fits input) :: credits fits (list.check (fits input)).2 later

/-- How many inputs there were when the rule of a place was credited last: none, if it never was. -/
def lastCredit (log : List (Option Nat)) (place : Nat) : Nat :=
  log.length - log.reverse.idxOf (some place)

section LastCredit
variable {log : List (Option Nat)} {place : Nat}

theorem lastCredit_le : lastCredit log place ≤ log.length := Nat.sub_le _ _

theorem lastCredit_self : lastCredit (log ++ [some place]) place = log.length + 1 := by
  simp [lastCredit]

theorem lastCredit_other {credit : Option Nat} (other : credit ≠ some place) :
    lastCredit (log ++ [credit]) place = lastCredit log place := by
  simp [lastCredit, List.idxOf_cons, beq_false_of_ne other]

end LastCredit

/-- Why an item stands in front of another one. -/
inductive Stands (log : List (Option Nat)) (a b : Ranked (ρ × Nat)) : Prop where
  | oftener (more : b.hits < a.hits)
  /-- It came to have as many hits before the other one did. -/
  | sooner (same : a.hits = b.hits) (earlier : lastCredit log a.rule.2 < lastCredit log b.rule.2)
  /-- Neither was ever credited, and it was in front of the other one at first. -/
  | untouched (none : a.hits = 0) (neither : b.hits = 0) (first : a.rule.2 < b.rule.2)

/-- How a list stands after some credits. -/
structure Standing (log : List (Option Nat)) (list : RuleList (ρ × Nat)) : Prop where
  /-- No two rules have the same place. -/
  distinct : (list.map (·.rule.2)).Nodup
  /-- The counters count the credits. -/
  counted : ∀ item ∈ list, item.hits = log.count (some item.rule.2)
  inOrder : list.Pairwise (Stands log)

section Standing
variable {log : List (Option Nat)} {list : RuleList (ρ × Nat)} {a b : Ranked (ρ × Nat)}

theorem Stands.falling (stands : Stands log a b) : b.hits ≤ a.hits := by
  cases stands with
  | oftener more => exact Nat.le_of_lt more
  | sooner same _ => exact Nat.le_of_eq same.symm
  | untouched none neither _ => omega

/-- A credit of another rule changes nothing between two items. -/
theorem Stands.later {credit : Option Nat} (stands : Stands log a b) (notFirst : credit ≠ some a.rule.2)
    (notSecond : credit ≠ some b.rule.2) : Stands (log ++ [credit]) a b := by
  cases stands with
  | oftener more => exact .oftener more
  | sooner same earlier =>
    refine .sooner same ?_
    rwa [lastCredit_other notFirst, lastCredit_other notSecond]
  | untouched none neither first => exact .untouched none neither first

theorem Standing.falling (standing : Standing log list) : list.hits.Pairwise (· ≥ ·) :=
  List.pairwise_map.mpr (standing.inOrder.imp Stands.falling)

theorem standing_placed (rules : List ρ) : Standing [] (placed rules) where
  distinct := by
    have places : (placed rules).map (·.rule.2) = List.range' 0 rules.length := by
      simp [placed, ofRules, Function.comp_def, ← List.zipIdx_map_snd]
    rw [places]
    exact List.nodup_range'
  counted item member := by
    obtain ⟨rule, _, rfl⟩ := List.mem_map.mp member
    rfl
  inOrder := by
    have rising : (rules.zipIdx.map Prod.snd).Pairwise (· < ·) := by
      rw [List.zipIdx_map_snd]
      exact List.pairwise_lt_range'
    exact List.pairwise_map.mpr ((List.pairwise_map.mp rising).imp fun first => .untouched rfl rfl first)

/-- An input that credits no rule leaves the standing as it is. -/
private theorem standing_miss (standing : Standing log list) : Standing (log ++ [none]) list where
  distinct := standing.distinct
  counted item member := by simpa using standing.counted item member
  inOrder := standing.inOrder.imp fun stands => stands.later nofun nofun

private theorem standing_moved {ahead passed behind : RuleList (ρ × Nat)} {item : Ranked (ρ × Nat)}
    (standing : Standing log (ahead ++ passed ++ item :: behind))
    (atLeast : ∀ other ∈ ahead, item.hits + 1 ≤ other.hits)
    (fewer : ∀ other ∈ passed ++ behind, other.hits < item.hits + 1) :
    Standing (log ++ [some item.rule.2]) (ahead ++ { item with hits := item.hits + 1 } :: (passed ++ behind)) := by
  have split : (ahead ++ passed ++ item :: behind).Perm (item :: (ahead ++ (passed ++ behind))) := by
    rw [← List.append_assoc]
    exact List.perm_middle
  have distinct := (split.map (·.rule.2)).nodup_iff.mp standing.distinct
  have unlike : ∀ other ∈ ahead ++ (passed ++ behind), some item.rule.2 ≠ some other.rule.2 := by
    intro other member same
    exact (List.nodup_cons.mp distinct).1 (List.mem_map.mpr ⟨other, member, (Option.some.inj same).symm⟩)
  refine ⟨?_, ?_, ?_⟩
  · have places : (ahead ++ { item with hits := item.hits + 1 } :: (passed ++ behind)).map (·.rule.2) =
        (ahead ++ item :: (passed ++ behind)).map (·.rule.2) := by simp
    rw [places]
    exact (List.perm_middle.map fun other : Ranked (ρ × Nat) => other.rule.2).nodup_iff.mpr distinct
  · intro other member
    rcases List.mem_cons.mp (List.perm_middle.mem_iff.mp member) with rfl | inside
    · have own := standing.counted item (by simp)
      simp [own]
    · have same := standing.counted other (split.mem_iff.mpr (List.mem_cons_of_mem _ inside))
      rw [same, List.count_append, List.count_singleton, beq_false_of_ne (unlike other inside)]
      rfl
  · have others : (ahead ++ (passed ++ behind)).Pairwise (Stands (log ++ [some item.rule.2])) := by
      have before : (ahead ++ passed ++ behind).Pairwise (Stands log) :=
        standing.inOrder.sublist ((List.sublist_cons_self item behind).append_left _)
      rw [List.append_assoc] at before
      exact before.imp_of_mem fun first second stands => stands.later (unlike _ first) (unlike _ second)
    obtain ⟨front, back, across⟩ := List.pairwise_append.mp others
    refine List.pairwise_append.mpr ⟨front, List.pairwise_cons.mpr ⟨fun other member => ?_, back⟩, ?_⟩
    · exact .oftener (fewer other member)
    · intro other member next behindOther
      rcases List.mem_cons.mp behindOther with rfl | inside
      · -- Who has as many hits came to have them before this credit.
        rcases Nat.lt_or_eq_of_le (atLeast other member) with more | same
        · exact .oftener more
        · refine .sooner same.symm ?_
          rw [lastCredit_self, lastCredit_other (unlike other (List.mem_append_left _ member))]
          exact Nat.lt_succ_of_le lastCredit_le
      · exact across other member next inside

/-- An input credits the first rule that it fits, if there is one. -/
theorem standing_check (standing : Standing log list) (test : ρ × Nat → Bool) :
    Standing (log ++ [(list.credited? test).map Prod.snd]) (list.check test).2 := by
  cases refused : (list.check test).1 with
  | false =>
    have none : list.credited? test = none := by
      rw [check_refuses] at refused
      exact List.find?_eq_none.mpr fun rule member => List.any_eq_false.mp refused rule member
    rw [none, check_miss refused]
    exact standing_miss standing
  | true =>
    have moved := check_moved standing.falling refused
    generalize (list.check test).2 = after at moved ⊢
    cases moved with
    | @past ahead passed behind item earlier fitting atLeast fewer =>
      rw [credited?_first earlier fitting]
      exact standing_moved standing atLeast fewer

theorem standing_checkAll (standing : Standing log list) (fits : ι → ρ × Nat → Bool) (inputs : List ι) :
    Standing (log ++ (credits fits list inputs).map (Option.map Prod.snd)) (list.checkAll fits inputs).2 := by
  induction inputs generalizing log list with
  | nil => simpa [credits, checkAll] using standing
  | cons input later ih =>
    have after := ih (standing_check standing (fits input))
    simpa [credits, checkAll] using after

end Standing

/-! ## The main theorem -/

/-- The rules with their places, as they stand after some inputs. -/
def placedAfter (rules : List ρ) (fits : ι → ρ → Bool) (inputs : List ι) : RuleList (ρ × Nat) :=
  ((placed rules).checkAll (fun input => fits input ∘ Prod.fst) inputs).2

/-- The places of the rules that inputs credited, one after the other. -/
def creditLog (rules : List ρ) (fits : ι → ρ → Bool) (inputs : List ι) : List (Option Nat) :=
  (credits (fun input => fits input ∘ Prod.fst) (placed rules) inputs).map (Option.map Prod.snd)

/-- How a list that was made of rules stands after some inputs. -/
structure StandsByArrival (rules : List ρ) (fits : ι → ρ → Bool) (inputs : List ι) : Prop where
  /-- Without the places it is the list itself. -/
  unplaced : (placedAfter rules fits inputs).relabel Prod.fst = ((ofRules rules).checkAll fits inputs).2
  /-- Each rule is there with the place that it had at first. -/
  places : (placedAfter rules fits inputs).rules.Perm rules.zipIdx
  /-- The counters count the credits. -/
  counted : ∀ item ∈ placedAfter rules fits inputs, item.hits = (creditLog rules fits inputs).count (some item.rule.2)
  /-- Who has more hits stands in front, and of those with equal hits who came to have them first. -/
  inOrder : (placedAfter rules fits inputs).Pairwise (Stands (creditLog rules fits inputs))
  /-- A further input that is refused moves the item that it credits, and nothing else. -/
  moves : ∀ input, let list := ((ofRules rules).checkAll fits inputs).2
    (list.check (fits input)).1 = true → Moved (fits input) list (list.check (fits input)).2

/-- **Rules stand by hits and arrival.** Make a list of any rules and try it on any inputs, one after the other. Its
items stand by falling counters; of two items with equal counters that one is in front which came to have them first,
and items that were never credited keep the order that they had at first. A further input that is refused moves the
first item that it fits to directly behind the last other one that has at least as many hits as it has then, or to the
front, and all others keep their order. -/
theorem rules_stand_by_hits_and_arrival (rules : List ρ) (fits : ι → ρ → Bool) (inputs : List ι) :
    StandsByArrival rules fits inputs := by
  have standing : Standing (creditLog rules fits inputs) (placedAfter rules fits inputs) :=
    standing_checkAll (standing_placed rules) (fun input => fits input ∘ Prod.fst) inputs
  refine ⟨?_, ?_, standing.counted, standing.inOrder, ?_⟩
  · rw [← relabel_placed, checkAll_relabel]
    rfl
  · exact (ordered_checkAll (ordered_ofRules rules.zipIdx) inputs).rules
  · intro input list refused
    exact check_moved (ordered_checkAll (ordered_ofRules rules) inputs).falling refused

end HostSurvey.Screen.RuleList
