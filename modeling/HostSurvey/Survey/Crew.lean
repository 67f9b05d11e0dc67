import HostSurvey.Survey.World
/-!
# Crews

Activities that go on side by side in one world. They take turns request by request, in any order, and the
world outside changes between the turns: what the name system says, what servers there are, what time it
is. The cache may go away and come back, with whatever keys. A history is a list of such steps.

1. A turn of an activity that is over, or of none, changes nothing.
2. Nobody's turn changes another activity: they meet in the world alone.
3. `exchanges` tells who asked what in a history, and what the answer was.
-/
namespace HostSurvey

open Net

/-- A world and what goes on in it. -/
structure Crew where
  world : World
  activities : List (Activity Unit)

/-- What happens next to a crew. -/
inductive Crew.Step where
  /-- The activity at a place asks its next request. -/
  | turn (place : Nat)
  | change (directory : Directory) (servers : Endpoint → Probe.Peer) (now : Moment)
  | recache (cache : Cache)

namespace Crew

/-- One request of an activity. -/
def turn (c : Crew) (place : Nat) : Crew :=
  match c.activities[place]? with
  | some (.ask request next) =>
    let (given, world) := World.answer request c.world
    ⟨world, c.activities.set place (next given)⟩
  | _ => c

/-- What a step changes. -/
def step (c : Crew) : Step → Crew
  | .turn place => c.turn place
  | .change directory servers now =>
    { c with world := { c.world with directory := directory, servers := servers, now := now } }
  | .recache cache => { c with world := { c.world with cache := cache } }

/-- What a history changes. -/
def follow (c : Crew) (history : List Step) : Crew :=
  history.foldl step c

/-- Who asks what in a step, and what the answer is. -/
def exchange? (c : Crew) : Step → Option (Nat × Activity.Exchange)
  | .turn place =>
    match c.activities[place]? with
    | some (.ask request _) => some (place, ⟨request, (World.answer request c.world).1⟩)
    | _ => none
  | .change _ _ _ => none
  | .recache _ => none

/-- Who asks what in a history, and what the answers are. -/
def exchanges (c : Crew) : List Step → List (Nat × Activity.Exchange)
  | [] => []
  | now :: later => (c.exchange? now).toList ++ (c.step now).exchanges later

/-- Whether all activities are over. -/
def isOver (c : Crew) : Bool :=
  c.activities.all fun activity =>
    match activity with
    | .done _ => true
    | .ask _ _ => false

theorem follow_append (c : Crew) (first later : List Step) :
    c.follow (first ++ later) = (c.follow first).follow later :=
  List.foldl_append

theorem exchanges_append (c : Crew) (first later : List Step) :
    c.exchanges (first ++ later) = c.exchanges first ++ (c.follow first).exchanges later := by
  induction first generalizing c with
  | nil => rfl
  | cons now others ih =>
    simp only [List.cons_append, exchanges, ih, List.append_assoc]
    rfl

theorem follow_snoc (c : Crew) (history : List Step) (step : Step) :
    c.follow (history ++ [step]) = (c.follow history).step step :=
  follow_append c history [step]

theorem exchanges_snoc (c : Crew) (history : List Step) (step : Step) :
    c.exchanges (history ++ [step]) = c.exchanges history ++ ((c.follow history).exchange? step).toList := by
  rw [exchanges_append]
  exact congrArg (c.exchanges history ++ ·) (List.append_nil _)

end Crew
end HostSurvey
