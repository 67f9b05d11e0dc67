import HostSurvey.Generate.Generator
import HostSurvey.Proofs.Screen.Ranking
/-!
# Draws until one is free

Addresses are drawn until one is outside every screened network. There is no bound on the draws, and each one that is
passed over changes the screen on which the next one is tried.

1. What a screen says to a draw depends on its networks alone, and those stay. So the draws that are passed over are
   those in some network, whatever the screen has become by then (`draw_passed`).
2. The first draw outside all networks ends the drawing and leaves the screen as it is (`draw_free`); before it comes,
   a further draw is asked for (`draw_unfinished`).
3. So the address and the number of draws are the same for all screens of the same networks, and only the counters tell
   how many draws were passed over (`the_first_free_draw_is_taken`).
-/
namespace HostSurvey.Generate

open Net Screen

/-- The address is in none of the networks. -/
def IsFree (tests : Tests) (networks : List Network) (address : Address) : Prop :=
  ∀ network ∈ networks, tests.fitsAddress network address = false

instance (tests : Tests) (networks : List Network) (address : Address) : Decidable (IsFree tests networks address) :=
  inferInstanceAs (Decidable (∀ network ∈ networks, tests.fitsAddress network address = false))

/-- A screen after it was tried on addresses, one after the other. -/
def tryAll (tests : Tests) (screen : AddressScreen) (tried : List Address) : AddressScreen :=
  (RuleList.checkAll (fun address network => tests.fitsAddress network address) screen tried).2

/-- A screen of networks after it was tried on addresses. -/
def screenAfter (tests : Tests) (networks : List Network) (tried : List Address) : AddressScreen :=
  tryAll tests (.ofRules networks) tried

/-! ## Screens -/

section Screens
variable {tests : Tests} {networks : List Network} {screen : AddressScreen} {address : Address}

theorem tryAll_append (screen : AddressScreen) (tried later : List Address) :
    tryAll tests screen (tried ++ later) = tryAll tests (tryAll tests screen tried) later := by
  induction tried generalizing screen with
  | nil => rfl
  | cons first others ih => exact ih (screen.check tests first).2

/-- A screen lets through what is in none of its networks, in whatever order they stand. -/
theorem check_iff_free (same : screen.rules.Perm networks) :
    (screen.check tests address).1 = false ↔ IsFree tests networks address :=
  RuleList.check_eq_false same

theorem check_within (same : screen.rules.Perm networks) (within : ¬ IsFree tests networks address) :
    (screen.check tests address).1 = true :=
  eq_true_of_ne_false fun passed => within ((check_iff_free same).mp passed)

theorem check_same (tests : Tests) (same : screen.rules.Perm networks) (address : Address) :
    (screen.check tests address).2.rules.Perm networks :=
  (RuleList.check_rules screen).trans same

theorem tryAll_rules (tests : Tests) (same : screen.rules.Perm networks) (tried : List Address) :
    (tryAll tests screen tried).rules.Perm networks := by
  induction tried generalizing screen with
  | nil => exact same
  | cons first others ih => exact ih (check_same tests same first)

theorem screenAfter_rules (tests : Tests) (networks : List Network) (tried : List Address) :
    (screenAfter tests networks tried).rules.Perm networks :=
  tryAll_rules tests (RuleList.ordered_ofRules networks).rules tried

theorem screenAfter_append (networks : List Network) (tried later : List Address) :
    screenAfter tests networks (tried ++ later) = tryAll tests (screenAfter tests networks tried) later :=
  tryAll_append _ tried later

end Screens

/-! ## Drawing -/

section Drawing
variable {tests : Tests} {networks : List Network} {screen : AddressScreen} {address : Address} {refused : List Address}

/-- A draw outside all networks is taken, and the screen stays as it is. -/
theorem draw_free (same : screen.rules.Perm networks) (free : IsFree tests networks address) (later : List Address) :
    draw tests screen (address :: later) = some (address, 1, screen) := by
  have passed := (check_iff_free same).mpr free
  have kept : (screen.check tests address).2 = screen := RuleList.check_miss passed
  simp [draw, passed, kept]

/-- Draws within networks are passed over, one by one. -/
theorem draw_passed (same : screen.rules.Perm networks) (within : ∀ passed ∈ refused, ¬ IsFree tests networks passed)
    (draws : List Address) : draw tests screen (refused ++ draws) =
      (draw tests (tryAll tests screen refused) draws).map fun (taken, used, last) =>
        (taken, used + refused.length, last) := by
  induction refused generalizing screen with
  | nil => simp [tryAll, RuleList.checkAll]
  | cons first others ih =>
    have found := check_within same (within first List.mem_cons_self)
    have onward := ih (check_same tests same first) fun passed member => within passed (List.mem_cons_of_mem _ member)
    have further : tryAll tests screen (first :: others) = tryAll tests (screen.check tests first).2 others := rfl
    simp only [List.cons_append, draw, found, if_true, onward, further, Option.map_map]
    rfl

/-- As long as all draws are within networks, a further one is asked for. -/
theorem draw_unfinished (same : screen.rules.Perm networks)
    (within : ∀ passed ∈ refused, ¬ IsFree tests networks passed) : draw tests screen refused = none := by
  have passed := draw_passed same within []
  rwa [List.append_nil] at passed

theorem tryAll_hits (same : screen.rules.Perm networks) (within : ∀ passed ∈ refused, ¬ IsFree tests networks passed) :
    (tryAll tests screen refused).hits.sum = screen.hits.sum + refused.length := by
  induction refused generalizing screen with
  | nil => rfl
  | cons first others ih =>
    have found := check_within same (within first List.mem_cons_self)
    have onward := ih (check_same tests same first) fun passed member => within passed (List.mem_cons_of_mem _ member)
    have credited : (screen.check tests first).2.hits.sum =
        screen.hits.sum + if (screen.check tests first).1 then 1 else 0 :=
      RuleList.check_hits screen
    have further : tryAll tests screen (first :: others) = tryAll tests (screen.check tests first).2 others := rfl
    rw [found, if_pos rfl] at credited
    rw [further, onward, credited, List.length_cons]
    omega

/-- Draws can be cut in front of the first one that is free. -/
theorem first_free {draws : List Address} (found : ∃ address ∈ draws, IsFree tests networks address) :
    ∃ refused address later, draws = refused ++ address :: later ∧
      (∀ passed ∈ refused, ¬ IsFree tests networks passed) ∧ IsFree tests networks address := by
  have present : (draws.find? fun address => decide (IsFree tests networks address)).isSome :=
    List.find?_isSome.mpr (by simpa using found)
  obtain ⟨address, taken⟩ := Option.isSome_iff_exists.mp present
  obtain ⟨free, refused, later, parts, within⟩ := List.find?_eq_some_iff_append.mp taken
  exact ⟨refused, address, later, parts, by simpa using within, by simpa using free⟩

end Drawing

/-! ## The main theorem -/

/-- What is true of a drawing in which some draws are within networks and the next one is not. -/
structure TakesFirstFree (tests : Tests) (networks : List Network) (tried refused : List Address)
    (address : Address) : Prop where
  /-- The first draw outside all networks is taken, whatever would be drawn later. The screen is what it would be if it
  had been tried on the other draws alone. -/
  taken : ∀ later, draw tests (screenAfter tests networks tried) (refused ++ address :: later) =
    some (address, refused.length + 1, screenAfter tests networks (tried ++ refused))
  /-- No fewer draws are enough. -/
  asks : ∀ fewer, fewer <+: refused → draw tests (screenAfter tests networks tried) fewer = none
  /-- Each draw that was passed over has been counted. -/
  counted : (screenAfter tests networks (tried ++ refused)).hits.sum =
    (screenAfter tests networks tried).hits.sum + refused.length
  /-- Neither the order of the networks nor their counters matter. -/
  anyScreen : ∀ screen : AddressScreen, screen.rules.Perm networks → ∀ later,
    (draw tests screen (refused ++ address :: later)).map (fun (taken, used, _) => (taken, used)) =
      some (address, refused.length + 1)

/-- **The first free draw is taken.** Take any networks, any way to tell what lies in them, and any draws one of which
is outside all of them. Whatever the screen of the networks was tried on before, the drawing ends with the first such
draw, having used the draws up to it and no others, and the counters have gone up by the number of draws that were
passed over. Any other screen of the same networks, in any order and with any counters, yields the same address after
as many draws. -/
theorem the_first_free_draw_is_taken (tests : Tests) (networks : List Network) (draws : List Address)
    (found : ∃ address ∈ draws, IsFree tests networks address) :
    ∃ refused address later, draws = refused ++ address :: later ∧
      (∀ passed ∈ refused, ¬ IsFree tests networks passed) ∧ IsFree tests networks address ∧
      ∀ tried, TakesFirstFree tests networks tried refused address := by
  obtain ⟨refused, address, later, parts, within, free⟩ := first_free found
  refine ⟨refused, address, later, parts, within, free, fun tried => ?_⟩
  have same := screenAfter_rules tests networks tried
  refine ⟨?_, ?_, ?_, ?_⟩
  · intro others
    rw [draw_passed same within, ← screenAfter_append, draw_free (screenAfter_rules tests networks _) free]
    simp [Nat.add_comm]
  · intro fewer begins
    exact draw_unfinished same fun passed member => within passed (begins.subset member)
  · rw [screenAfter_append]
    exact tryAll_hits same within
  · intro screen same others
    rw [draw_passed same within, draw_free (tryAll_rules tests same refused) free]
    simp [Nat.add_comm]

private def reserved : List Network := [⟨.ofOctets [203, 0, 113, 0], 24⟩, ⟨.ofOctets [10, 0, 0, 0], 8⟩]

private def threeDraws : List Address :=
  [.ofOctets [203, 0, 113, 7], .ofOctets [10, 9, 8, 7], .ofOctets [93, 184, 216, 34]]

theorem two_reserved_draws_come_first :
    (∃ address ∈ threeDraws, IsFree .standard reserved address) ∧
      (∃ refused address later, threeDraws = refused ++ address :: later ∧
        (∀ passed ∈ refused, ¬ IsFree .standard reserved passed) ∧ IsFree .standard reserved address ∧
        ∀ tried, TakesFirstFree .standard reserved tried refused address) ∧
      threeDraws.map (fun address => decide (IsFree .standard reserved address)) = [false, false, true] := by
  have found : ∃ address ∈ threeDraws, IsFree .standard reserved address := by decide
  exact ⟨found, the_first_free_draw_is_taken .standard reserved threeDraws found, by decide⟩

end HostSurvey.Generate
