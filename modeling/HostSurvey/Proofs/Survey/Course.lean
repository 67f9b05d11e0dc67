import HostSurvey.Proofs.Survey.Terms
/-!
# The course of an activity

How far an activity has come is settled by what it has asked and what it was answered.

1. `Reaches` leads an activity along exchanges. Along the exchanges of two activities in a row either the first
   one is still going on, or it has ended and the second one is (`reaches_bind`).
2. In a crew an activity has come as far as its own exchanges lead it, whatever the others do
   (`reaches_in_history`). So what is to be known of it can be read off the activity alone.
3. A run is one of the courses that lead an activity to its end (`reaches_run`), and there always is one. Two
   activities in a row are run one after the other (`run_bind`).
-/
namespace HostSurvey

open Net

namespace Activity

variable {α β γ : Type}

/-- The activity, answered as in some exchanges, has come to another one. -/
inductive Reaches : Activity α → List Exchange → Activity α → Prop where
  | here {a : Activity α} : Reaches a [] a
  | on {r : Request} {next : r.Answer → Activity α} {given : r.Answer} {later : List Exchange}
    {b : Activity α} (rest : Reaches (next given) later b) : Reaches (.ask r next) (⟨r, given⟩ :: later) b

/-- The next request, unless the activity is over. -/
def asks? : Activity α → Option Request
  | .done _ => none
  | .ask r _ => some r

variable {a b c : Activity α} {asked : List Exchange}

theorem reaches_done {value : α} (reached : (done value).Reaches asked a) : asked = [] ∧ a = .done value := by
  cases reached
  exact ⟨rfl, rfl⟩

theorem reaches_ask {r : Request} {next : r.Answer → Activity α} (reached : (ask r next).Reaches asked a) :
    (asked = [] ∧ a = .ask r next) ∨
      ∃ given later, asked = ⟨r, given⟩ :: later ∧ (next given).Reaches later a := by
  cases reached with
  | here => exact .inl ⟨rfl, rfl⟩
  | on rest => exact .inr ⟨_, _, rfl, rest⟩

theorem reaches_request {r : Request} {next : r.Answer → Activity α}
    (reached : (Activity.request r >>= next).Reaches asked a) :
    (asked = [] ∧ a.asks? = some r) ∨
      ∃ given later, asked = ⟨r, given⟩ :: later ∧ (next given).Reaches later a := by
  rcases reaches_ask reached with ⟨nothing, rfl⟩ | onward
  · exact .inl ⟨nothing, rfl⟩
  · exact .inr onward

/-- The exchanges settle where an activity is. -/
theorem reaches_unique (one : a.Reaches asked b) (other : a.Reaches asked c) : b = c := by
  induction one with
  | here =>
    cases other
    rfl
  | on _ ih =>
    cases other with
    | on rest => exact ih rest

theorem reaches_trans {later : List Exchange} (first : a.Reaches asked b) (second : b.Reaches later c) :
    a.Reaches (asked ++ later) c := by
  induction first with
  | here => exact second
  | on _ ih => exact .on (ih second)

/-- Of two activities in a row, the first one is still going on, or the second one is. -/
theorem reaches_bind {first : Activity α} {second : α → Activity β} {now : Activity β}
    (reached : (first >>= second).Reaches asked now) :
    (∃ rest, first.Reaches asked rest ∧ now = rest >>= second) ∨
      ∃ before after value, asked = before ++ after ∧ first.Reaches before (.done value) ∧
        (second value).Reaches after now := by
  induction first generalizing asked with
  | done value => exact .inr ⟨[], asked, value, rfl, .here, reached⟩
  | ask r next ih =>
    rcases reaches_ask reached with ⟨rfl, rfl⟩ | ⟨given, later, rfl, onward⟩
    · exact .inl ⟨.ask r next, .here, rfl⟩
    · rcases ih given onward with ⟨rest, begun, rfl⟩ | ⟨before, after, value, rfl, begun, ended⟩
      · exact .inl ⟨rest, .on begun, rfl⟩
      · exact .inr ⟨⟨r, given⟩ :: before, after, value, rfl, .on begun, ended⟩

/-- An activity that has ended got the answer to its first request. -/
theorem ended_request {r : Request} {next : r.Answer → Activity α} {value : α}
    (ended : (Activity.request r >>= next).Reaches asked (.done value)) :
    ∃ given later, asked = ⟨r, given⟩ :: later ∧ (next given).Reaches later (.done value) := by
  rcases reaches_request ended with ⟨_, asks⟩ | onward
  · cases asks
  · exact onward

/-- Two activities in a row have ended when the first one has and then the second one has. -/
theorem ended_bind {first : Activity α} {second : α → Activity β} {result : β}
    (ended : (first >>= second).Reaches asked (.done result)) :
    ∃ before after value, asked = before ++ after ∧ first.Reaches before (.done value) ∧
      (second value).Reaches after (.done result) := by
  rcases reaches_bind ended with ⟨rest, begun, same⟩ | both
  · cases rest with
    | done value => exact ⟨asked, [], value, (List.append_nil _).symm, begun, same ▸ .here⟩
    | ask r next => cases same
  · exact both

/-- An activity that relies on no answer asks only what is permitted, and goes on observing. -/
theorem reaches_observes {terms : Terms} {ends : α → Prop} (grants : ∀ r given, terms.grants r given)
    (observes : a.Observes terms ends) (reached : a.Reaches asked b) :
    (∀ exchange ∈ asked, terms.permits exchange.1) ∧ b.Observes terms ends := by
  induction reached with
  | here => exact ⟨by simp, observes⟩
  | on _ ih =>
    obtain ⟨permitted, after⟩ := ih (observes.2 _ (grants _ _))
    refine ⟨?_, after⟩
    intro exchange member
    rcases List.mem_cons.mp member with rfl | later
    · exact observes.1
    · exact permitted exchange later

/-! ## Activities in a row -/

theorem bind_bind (first : Activity α) (second : α → Activity β) (third : β → Activity γ) :
    first >>= second >>= third = first >>= fun value => second value >>= third := by
  induction first with
  | done value => rfl
  | ask r next ih => exact congrArg (Activity.ask r) (funext ih)

theorem bind_done (first : Activity α) : first >>= Activity.done = first := by
  induction first with
  | done value => rfl
  | ask r next ih => exact congrArg (Activity.ask r) (funext ih)

instance : LawfulMonad Activity := LawfulMonad.mk' Activity bind_done (fun _ _ => rfl) bind_bind

/-! ## Runs -/

section Runs
variable {σ : Type} (answer : (r : Request) → σ → r.Answer × σ)

/-- A run asks the first request and goes on as it is answered. -/
theorem run_request (r : Request) (next : r.Answer → Activity α) (s : σ) :
    (Activity.request r >>= next).run answer s =
      let later := (next (answer r s).1).run answer (answer r s).2
      (⟨r, (answer r s).1⟩ :: later.1, later.2) := rfl

/-- A run of two activities in a row is a run of the first one and then one of the second one. -/
theorem run_bind (first : Activity α) (second : α → Activity β) (s : σ) :
    (first >>= second).run answer s =
      let begun := first.run answer s
      let ended := (second begun.2.1).run answer begun.2.2
      (begun.1 ++ ended.1, ended.2) := by
  induction first generalizing s with
  | done value => rfl
  | ask r next ih =>
    have later := ih (answer r s).1 (answer r s).2
    exact congrArg (fun run : List Exchange × β × σ => (⟨r, (answer r s).1⟩ :: run.1, run.2)) later

/-- A run leads an activity to its end. -/
theorem reaches_run (first : Activity α) (s : σ) :
    first.Reaches (first.run answer s).1 (.done (first.run answer s).2.1) := by
  induction first generalizing s with
  | done value => exact .here
  | ask r next ih => exact .on (ih (answer r s).1 (answer r s).2)

end Runs

end Activity

/-! ## Activities of a crew -/

namespace Crew

open Activity

/-- What the activity at a place has asked, out of what all have asked. -/
def heard (place : Nat) (log : List (Nat × Exchange)) : List Exchange :=
  (log.filter (·.1 = place)).map Prod.snd

theorem heard_append (place : Nat) (first later : List (Nat × Exchange)) :
    heard place (first ++ later) = heard place first ++ heard place later := by
  simp [heard]

theorem mem_heard {place : Nat} {log : List (Nat × Exchange)} {exchange : Exchange} :
    exchange ∈ heard place log ↔ (place, exchange) ∈ log := by
  simp [heard]

variable {c : Crew} {place : Nat} {activity : Activity Unit}

/-- In one step an activity gets the answer to its next request, or nothing happens to it. -/
private theorem reaches_in_step (there : c.activities[place]? = some activity) (step : Step) :
    ∃ now, (c.step step).activities[place]? = some now ∧
      activity.Reaches (heard place (c.exchange? step).toList) now := by
  cases c.step_does step with
  | asks other r next _ asking said after =>
    rw [said, after]
    by_cases same : other = place
    · subst same
      cases asking.symm.trans there
      have inside : other < c.activities.length := (List.getElem?_eq_some_iff.mp there).1
      refine ⟨next (World.answer r c.world).1, List.getElem?_set_self inside, ?_⟩
      have own : heard other [(other, ⟨r, (World.answer r c.world).1⟩)] = [⟨r, (World.answer r c.world).1⟩] := by
        simp [heard]
      exact own ▸ .on .here
    · refine ⟨activity, (List.getElem?_set_ne same).trans there, ?_⟩
      have foreign : heard place [(other, ⟨r, (World.answer r c.world).1⟩)] = [] := by
        simp [heard, same]
      exact foreign ▸ .here
  | idles silent same _ =>
    rw [silent, same]
    exact ⟨activity, there, .here⟩

/-- Every activity has come as far as its own exchanges lead it. -/
theorem reaches_in_history (there : c.activities[place]? = some activity) (history : List Step) :
    ∃ now, (c.follow history).activities[place]? = some now ∧
      activity.Reaches (heard place (c.exchanges history)) now := by
  induction history generalizing c activity with
  | nil => exact ⟨activity, there, .here⟩
  | cons step later ih =>
    obtain ⟨next, stays, first⟩ := reaches_in_step there step
    obtain ⟨now, ended, rest⟩ := ih stays
    refine ⟨now, ended, ?_⟩
    show activity.Reaches (heard place ((c.exchange? step).toList ++ _)) now
    rw [heard_append]
    exact reaches_trans first rest

theorem step_length (c : Crew) (step : Step) : (c.step step).activities.length = c.activities.length := by
  cases c.step_does step with
  | asks place r next _ _ _ after => simp [after]
  | idles _ same _ => rw [same]

theorem follow_length (c : Crew) (history : List Step) :
    (c.follow history).activities.length = c.activities.length := by
  induction history generalizing c with
  | nil => rfl
  | cons step later ih => exact (ih (c.step step)).trans (step_length c step)

/-- Whatever is asked, an activity of the crew asks it. -/
theorem exchanges_place (history : List Step) :
    ∀ exchange ∈ c.exchanges history, exchange.1 < c.activities.length := by
  induction history generalizing c with
  | nil => intro exchange member; cases member
  | cons step later ih =>
    intro exchange member
    rcases List.mem_append.mp member with first | others
    · cases c.step_does step with
      | asks place r next _ there said _ =>
        cases said.symm.trans (Option.mem_toList.mp first)
        exact (List.getElem?_eq_some_iff.mp there).1
      | idles silent _ _ => cases silent.symm.trans (Option.mem_toList.mp first)
    · have inside := ih exchange others
      rwa [step_length] at inside

theorem heard_filter (place other : Nat) (log : List (Nat × Exchange)) :
    heard place (log.filter (·.1 ≠ other)) = if place = other then [] else heard place log := by
  unfold heard
  rw [List.filter_filter]
  split
  · rename_i same
    subst same
    simp
  · rename_i different
    congr 1
    apply List.filter_congr
    intro exchange _
    by_cases own : exchange.1 = place
    · simp [own, different]
    · simp [own]

/-- What happens less often than something else at every place happens less often in all. -/
theorem countP_le_of_heard {P Q : Exchange → Bool} (log : List (Nat × Exchange))
    (each : ∀ place, (heard place log).countP P ≤ (heard place log).countP Q) :
    (log.countP fun exchange => P exchange.2) ≤ log.countP fun exchange => Q exchange.2 := by
  -- The exchanges of one place after the other are taken out.
  match log with
  | [] => exact Nat.le_refl 0
  | (place, exchange) :: rest =>
    let log := (place, exchange) :: rest
    have split : ∀ R : Exchange → Bool, (log.countP fun e => R e.2) =
        (heard place log).countP R + ((log.filter (·.1 ≠ place)).countP fun e => R e.2) := by
      intro R
      rw [List.countP_eq_countP_filter_add log (fun e => R e.2) (·.1 = place)]
      simp only [heard, List.countP_map, ne_eq, decide_not]
      rfl
    have others := countP_le_of_heard (P := P) (Q := Q) (log.filter (·.1 ≠ place)) (by
      intro other
      rw [heard_filter]
      split
      · exact Nat.le_refl 0
      · exact each other)
    have own : (heard place log).countP P ≤ (heard place log).countP Q := each place
    show (log.countP fun e => P e.2) ≤ log.countP fun e => Q e.2
    rw [split P, split Q]
    omega
termination_by log.length
decreasing_by
  simp only [List.filter_cons, ne_eq, not_true_eq_false, decide_false, List.length_cons]
  exact Nat.lt_succ_of_le (List.length_filter_le _ _)

end Crew
end HostSurvey
