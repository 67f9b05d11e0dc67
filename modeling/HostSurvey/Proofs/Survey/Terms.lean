import HostSurvey.Survey.Crew
/-!
# Terms

What activities may ask of the world, and what they may rely on in return.

1. An activity observes terms if it asks only what they permit, as long as its answers are what they grant.
   This is read off the activity, one request after the other.
2. A property of worlds upholds terms if a world with the property grants what is permitted, and keeps the
   property. So whatever is permitted may be asked in any order.
3. A crew whose activities observe terms in a world that upholds them asks only what they permit, in every
   history (`permitted_in_history`).
-/
namespace HostSurvey

open Net

/-- What may be asked, and what answers may be relied upon. -/
structure Terms where
  /-- A request that may be made. -/
  permits : Request → Prop
  /-- An answer to a request that may be relied upon. -/
  grants : (r : Request) → r.Answer → Prop

/-! ## Activities that observe terms -/

namespace Activity

variable {terms : Terms} {α β : Type} {ends mid : α → Prop}

/-- An activity that asks only what is permitted and ends as told, if it gets what is granted. -/
def Observes (terms : Terms) (ends : α → Prop) : Activity α → Prop
  | .done a => ends a
  | .ask r next => terms.permits r ∧ ∀ given, terms.grants r given → (next given).Observes terms ends

theorem observes_pure {a : α} (ended : ends a) : (pure a : Activity α).Observes terms ends := ended

theorem observes_bind {first : Activity α} {ends : β → Prop} {second : α → Activity β}
    (begins : first.Observes terms mid) (goesOn : ∀ a, mid a → (second a).Observes terms ends) :
    (first >>= second).Observes terms ends := by
  induction first with
  | done a => exact goesOn a begins
  | ask r next ih => exact ⟨begins.1, fun given granted => ih given (begins.2 given granted)⟩

/-- A request, and what comes of it. -/
theorem observes_ask {r : Request} {next : r.Answer → Activity α} (permitted : terms.permits r)
    (goesOn : ∀ given, terms.grants r given → (next given).Observes terms ends) :
    (Activity.request r >>= next).Observes terms ends :=
  ⟨permitted, goesOn⟩

end Activity

/-! ## What a step does -/

/-- What a step does to a crew. -/
inductive Crew.Does (c : Crew) (step : Crew.Step) : Prop where
  /-- An activity asks its next request, and gets an answer. -/
  | asks (place : Nat) (r : Request) (next : r.Answer → Activity Unit) (turn : step = .turn place)
      (there : c.activities[place]? = some (.ask r next))
      (said : c.exchange? step = some (place, ⟨r, (World.answer r c.world).1⟩))
      (after : c.step step =
        ⟨(World.answer r c.world).2, c.activities.set place (next (World.answer r c.world).1)⟩)
  /-- No activity asks anything. -/
  | idles (silent : c.exchange? step = none) (same : (c.step step).activities = c.activities)
      (outside : ∃ directory servers cache now, (c.step step).world =
        { c.world with directory := directory, servers := servers, cache := cache, now := now })

theorem Crew.step_does (c : Crew) (step : Crew.Step) : c.Does step := by
  cases step with
  | turn place =>
    have silence : (∀ r next, c.activities[place]? ≠ some (.ask r next)) → c.Does (.turn place) := by
      intro silent
      have stays : c.turn place = c := by
        unfold turn
        split
        · rename_i r next there
          exact absurd there (silent r next)
        · rfl
      refine .idles ?_ ?_ ⟨c.world.directory, c.world.servers, c.world.cache, c.world.now, ?_⟩
      · simp only [exchange?]
      · exact congrArg Crew.activities stays
      · exact congrArg Crew.world stays
    cases there : c.activities[place]? with
    | none => exact silence fun r next same => nomatch there.symm.trans same
    | some activity =>
      cases activity with
      | done value => exact silence fun r next same => nomatch there.symm.trans same
      | ask r next =>
        refine .asks place r next rfl there ?_ ?_
        · simp only [exchange?, there]
        · simp only [step, turn, there]
  | change directory servers now => exact .idles rfl rfl ⟨directory, servers, c.world.cache, now, rfl⟩
  | recache cache => exact .idles rfl rfl ⟨_, _, cache, _, rfl⟩

/-! ## Crews that observe terms -/

/-- A property of worlds that upholds terms. -/
structure Terms.UpheldBy (terms : Terms) (holds : World → Prop) : Prop where
  /-- What is permitted is answered as granted. -/
  granted : ∀ w r, holds w → terms.permits r → terms.grants r (World.answer r w).1
  /-- What is permitted keeps the property. -/
  kept : ∀ w r, holds w → terms.permits r → holds (World.answer r w).2
  /-- What the world outside and the cache say is of no account. -/
  outside : ∀ w directory servers cache now, holds w →
    holds { w with directory := directory, servers := servers, cache := cache, now := now }

namespace Crew

variable {terms : Terms} {holds : World → Prop} {c : Crew}

/-- A crew whose activities observe terms, in a world with a property. -/
structure Abides (terms : Terms) (holds : World → Prop) (c : Crew) : Prop where
  /-- The world has the property. -/
  world : holds c.world
  /-- Every activity observes the terms. -/
  activities : ∀ activity ∈ c.activities, activity.Observes terms fun _ => True

theorem abides_step (upheld : terms.UpheldBy holds) (abides : c.Abides terms holds) (step : Step) :
    (c.step step).Abides terms holds := by
  cases c.step_does step with
  | asks place r next _ there _ after =>
    obtain ⟨permitted, goesOn⟩ := abides.activities _ (List.mem_of_getElem? there)
    rw [after]
    refine ⟨upheld.kept _ _ abides.world permitted, ?_⟩
    intro activity member
    rcases List.mem_or_eq_of_mem_set member with old | rfl
    · exact abides.activities activity old
    · exact goesOn _ (upheld.granted _ _ abides.world permitted)
  | idles _ same outside =>
    obtain ⟨directory, servers, cache, now, after⟩ := outside
    refine ⟨?_, same ▸ abides.activities⟩
    rw [after]
    exact upheld.outside _ _ _ _ _ abides.world

theorem abides_follow (upheld : terms.UpheldBy holds) (abides : c.Abides terms holds)
    (history : List Step) : (c.follow history).Abides terms holds := by
  induction history generalizing c with
  | nil => exact abides
  | cons step later ih => exact ih (abides_step upheld abides step)

theorem permitted_in_step (abides : c.Abides terms holds) {step : Step}
    {exchange : Nat × Activity.Exchange} (happened : c.exchange? step = some exchange) :
    terms.permits exchange.2.1 := by
  cases c.step_does step with
  | asks place r next _ there said _ =>
    cases said.symm.trans happened
    exact (abides.activities _ (List.mem_of_getElem? there)).1
  | idles silent _ _ => cases silent.symm.trans happened

/-- Whatever is asked in a history is permitted. -/
theorem permitted_in_history (upheld : terms.UpheldBy holds) (abides : c.Abides terms holds)
    (history : List Step) : ∀ exchange ∈ c.exchanges history, terms.permits exchange.2.1 := by
  induction history generalizing c with
  | nil => intro exchange member; cases member
  | cons step later ih =>
    intro exchange member
    rcases List.mem_append.mp member with first | others
    · exact permitted_in_step abides (Option.mem_toList.mp first)
    · exact ih (abides_step upheld abides step) exchange others

end Crew
end HostSurvey
