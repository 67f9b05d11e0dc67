import HostSurvey.Proofs.Survey.Course
import HostSurvey.Proofs.Transfer.Conduct
/-!
# The stages of an errand

What has been asked about an errand, and what is asked next, in whatever way the answers came (`Stage`). It is
one of these:

1. nothing was stored for it, and it may be about to store a transfer that begins;
2. a transfer was stored, and the zone is being asked for, by what `perform` asks and by nothing else;
3. it is over, and the end of the transfer was noted, according to what `perform` ended with.
-/
namespace HostSurvey

open Net Activity

/-- Neither the beginning of a transfer nor a change of its record. -/
def Request.IsPlain : Request → Prop
  | .nameservers _ | .zoneAdd _ | .zoneFinish _ _ => False
  | _ => True

/-- The terms that permit just that, and rely on nothing. -/
def Terms.plain : Terms := ⟨Request.IsPlain, fun _ _ => True⟩

theorem Terms.plain_allows : Terms.plain.AllowTransfers where
  permitted r ordinary := by
    cases r with
    | nameservers zone => exact ordinary.elim
    | zoneAdd transfer => exact ordinary.elim
    | zoneFinish transfer status => exact ordinary.elim
    | _ => trivial
  passed _ _ _ := trivial

namespace Transfer

/-! ## What begins, keeps and ends a transfer -/

/-- A transfer of a zone begins: this is the first thing that `perform` asks, and nobody else asks it. -/
def begins (zone : String) : Exchange → Bool
  | ⟨.nameservers other, _⟩ => other = zone
  | _ => false

/-- A transfer of a zone was stored. -/
def claims (zone : String) : Exchange → Bool
  | ⟨.zoneAdd _, .ok stored⟩ => stored.zone = zone
  | _ => false

/-- What is noted of a transfer that ended with a result. -/
def statusOf : Except Error Nat → ZoneStatus
  | .ok _ => .success
  | .error _ => .refused

/-- What comes after `perform`. -/
def conclude (stored : ZoneTransfer) (result : Except Error Nat) : Activity Unit :=
  Activity.request (.zoneFinish stored (statusOf result)) >>= fun _ => pure ()

/-- What was asked before `perform`, if it comes to that. -/
def opening (zone : String) (start : Moment) (stored : ZoneTransfer) : List Exchange :=
  [⟨.zoneGet zone, .ok none⟩, ⟨.now, start⟩, ⟨.zoneAdd (.begin zone start), .ok stored⟩]

namespace Errand

variable {errand : Errand} {zone : String} {asked : List Exchange}

private theorem carryOut_performs (errand : Errand) (stored : ZoneTransfer) :
    carryOut errand.dns errand.settings errand.arrange errand.id stored =
      (errand.perform stored.zone >>= conclude stored) :=
  rfl

/-- What `perform` asks: the name servers of its zone, and then nothing but what is plain. -/
theorem performing_asks {rest : Activity (Except Error Nat)}
    (performing : (errand.perform zone).Reaches asked rest) :
    (asked = [] ∧ rest.asks? = some (.nameservers zone)) ∨
      ∃ given later, asked = ⟨.nameservers zone, given⟩ :: later ∧
        (∀ exchange ∈ later, exchange.1.IsPlain) ∧ ∀ r, rest.asks? = some r → r.IsPlain := by
  obtain ⟨next, first, observed⟩ := errand.perform_begins zone
  rw [first] at performing
  rcases reaches_ask performing with ⟨nothing, rfl⟩ | ⟨given, later, rfl, onward⟩
  · exact .inl ⟨nothing, rfl⟩
  · obtain ⟨plain, goesOn⟩ :=
      reaches_observes (fun _ _ => trivial) (observed _ Terms.plain_allows given) onward
    refine .inr ⟨given, later, rfl, plain, ?_⟩
    intro r asks
    cases rest with
    | done value => cases asks
    | ask other next =>
      cases asks
      exact goesOn.1

/-- How far an errand has come. -/
inductive Stage (errand : Errand) (asked : List Exchange) (now : Activity Unit) : Prop where
  /-- No transfer was stored. -/
  | before (heard : ∀ exchange ∈ asked, exchange.1.IsPlain ∨
        ∃ transfer fault, exchange = ⟨.zoneAdd transfer, .error fault⟩)
      (next : ∀ r, now.asks? = some r → r.IsPlain ∨ ∃ zone start, r = .zoneAdd (.begin zone start))
  /-- A transfer was stored, and got no number. -/
  | unnumbered (zone : String) (start : Moment) (stored : ZoneTransfer) (id : stored.id = none)
      (heard : asked = opening zone start stored) (closed : now = .done ())
  /-- A transfer was stored, and the zone is being asked for. -/
  | during (zone : String) (start : Moment) (stored : ZoneTransfer) (since : List Exchange)
      (rest : Activity (Except Error Nat)) (heard : asked = opening zone start stored ++ since)
      (performing : (errand.perform stored.zone).Reaches since rest) (next : now = rest >>= conclude stored)
  /-- The end of the transfer was noted. -/
  | after (zone : String) (start : Moment) (stored : ZoneTransfer) (since : List Exchange)
      (result : Except Error Nat) (given : Except Error Unit)
      (heard : asked = opening zone start stored ++
        (since ++ [⟨.zoneFinish stored (statusOf result), given⟩]))
      (performed : (errand.perform stored.zone).Reaches since (.done result)) (closed : now = .done ())

variable {now : Activity Unit}

private theorem closed_before (heard : ∀ exchange ∈ asked, exchange.1.IsPlain ∨
      ∃ transfer fault, exchange = ⟨.zoneAdd transfer, .error fault⟩) (closed : now = .done ()) :
    errand.Stage asked now := by
  subst closed
  exact .before heard fun r asks => nomatch asks

private theorem carryOut_stage {stored : ZoneTransfer} {start : Moment}
    (reached : (carryOut errand.dns errand.settings errand.arrange errand.id stored).Reaches asked now) :
    errand.Stage (opening zone start stored ++ asked) now := by
  rw [carryOut_performs] at reached
  rcases reaches_bind reached with ⟨rest, performing, next⟩ | ⟨since, later, result, rfl, performed, ended⟩
  · exact .during zone start stored asked rest rfl performing next
  · rcases reaches_ask ended with ⟨rfl, rfl⟩ | ⟨given, last, rfl, onward⟩
    · exact .during zone start stored since (.done result) (by rw [List.append_nil]) performed rfl
    · obtain ⟨rfl, rfl⟩ := reaches_done onward
      exact .after zone start stored since result given rfl performed rfl

/-- An errand is at one of the stages, whatever it was answered. -/
theorem activity_stage (reached : errand.activity.Reaches asked now) : errand.Stage asked now := by
  unfold activity process at reached
  split at reached
  · obtain ⟨rfl, closed⟩ := reaches_done reached
    exact closed_before (by simp) closed
  · rename_i zone _
    rcases reaches_request reached with ⟨rfl, asks⟩ | ⟨known, later, rfl, knowing⟩
    · refine .before (by simp) fun r also => ?_
      cases asks.symm.trans also
      exact .inl trivial
    · split at knowing
      · obtain ⟨rfl, closed⟩ := reaches_done knowing
        exact closed_before (by simp [Request.IsPlain]) closed
      · obtain ⟨rfl, closed⟩ := reaches_done knowing
        exact closed_before (by simp [Request.IsPlain]) closed
      · rcases reaches_request knowing with ⟨rfl, asks⟩ | ⟨start, later, rfl, starting⟩
        · refine .before (by simp [Request.IsPlain]) fun r also => ?_
          cases asks.symm.trans also
          exact .inl trivial
        · rcases reaches_request starting with ⟨rfl, asks⟩ | ⟨added, later, rfl, adding⟩
          · refine .before (by simp [Request.IsPlain]) fun r also => ?_
            cases asks.symm.trans also
            exact .inr ⟨zone, start, rfl⟩
          · split at adding
            · rename_i fault
              obtain ⟨rfl, closed⟩ := reaches_done adding
              refine closed_before ?_ closed
              intro exchange member
              simp only [List.mem_cons, List.not_mem_nil, or_false] at member
              rcases member with rfl | rfl | rfl
              · exact .inl trivial
              · exact .inl trivial
              · exact .inr ⟨_, fault, rfl⟩
            · rename_i stored
              split at adding
              · rename_i unnumbered
                obtain ⟨rfl, closed⟩ := reaches_done adding
                exact .unnumbered zone start stored (by simpa using unnumbered) rfl closed
              · exact carryOut_stage adding

/-! ## What can be read off a stage -/

private theorem begins_not_plain {exchange : Exchange} (first : begins zone exchange = true) :
    ¬exchange.1.IsPlain := by
  obtain ⟨r, given⟩ := exchange
  cases r with
  | nameservers other => exact fun plain => plain
  | _ => cases first

private theorem performing_begins_once {rest : Activity (Except Error Nat)} (other : String)
    (performing : (errand.perform zone).Reaches asked rest) :
    asked.countP (begins other) ≤ if zone = other then 1 else 0 := by
  rcases performing_asks performing with ⟨rfl, _⟩ | ⟨given, later, rfl, plain, _⟩
  · exact Nat.zero_le _
  · have none : later.countP (begins other) = 0 :=
      List.countP_eq_zero.mpr fun exchange member first => begins_not_plain first (plain exchange member)
    rw [List.countP_cons, none]
    simp [begins]

private theorem opening_begins (other : String) (start : Moment) (stored : ZoneTransfer) :
    (opening zone start stored).countP (begins other) = 0 := by
  simp [opening, begins]

private theorem opening_claims (other : String) (start : Moment) (stored : ZoneTransfer) :
    (opening zone start stored).countP (claims other) = if stored.zone = other then 1 else 0 := by
  simp [opening, claims, List.countP_cons]

/-- A transfer of a zone begins only if it was stored for this errand, and then only once. -/
theorem begins_le_claims (stage : errand.Stage asked now) (zone : String) :
    asked.countP (begins zone) ≤ asked.countP (claims zone) := by
  have counted : ∀ name start stored since rest tail, (errand.perform stored.zone).Reaches since rest →
      tail.countP (begins zone) = 0 →
      (opening name start stored ++ (since ++ tail)).countP (begins zone) ≤
        (opening name start stored ++ (since ++ tail)).countP (claims zone) := by
    intro name start stored since rest tail performing none
    have once := performing_begins_once zone performing
    rw [List.countP_append, List.countP_append, List.countP_append, opening_begins, opening_claims, none]
    omega
  cases stage with
  | before heard next =>
    have none : asked.countP (begins zone) = 0 := by
      refine List.countP_eq_zero.mpr fun exchange member first => ?_
      rcases heard exchange member with plain | ⟨transfer, fault, rfl⟩
      · exact begins_not_plain first plain
      · cases first
    omega
  | unnumbered name start stored id heard closed =>
    rw [heard, opening_begins]
    exact Nat.zero_le _
  | during name start stored since rest heard performing next =>
    rw [heard]
    simpa using counted name start stored since rest [] performing rfl
  | after name start stored since result given heard performed closed =>
    rw [heard]
    exact counted name start stored since (.done result) _ performed (by simp [begins])

/-- What may be asked next about an errand. -/
theorem asks_cases (stage : errand.Stage asked now) {r : Request} (asks : now.asks? = some r) :
    r.IsPlain ∨ (∃ zone, r = .nameservers zone) ∨ (∃ zone start, r = .zoneAdd (.begin zone start)) ∨
      ∃ zone start stored since result, r = .zoneFinish stored (statusOf result) ∧
        asked = opening zone start stored ++ since ∧
        (errand.perform stored.zone).Reaches since (.done result) := by
  cases stage with
  | before heard next =>
    rcases next r asks with plain | keeps
    · exact .inl plain
    · exact .inr (.inr (.inl keeps))
  | unnumbered zone start stored id heard closed => cases closed ▸ asks
  | after zone start stored since result given heard performed closed => cases closed ▸ asks
  | during zone start stored since rest heard performing next =>
    subst next
    cases rest with
    | done result =>
      cases asks
      exact .inr (.inr (.inr ⟨zone, start, stored, since, result, rfl, heard, performing⟩))
    | ask other next =>
      cases asks
      rcases performing_asks performing with ⟨_, first⟩ | ⟨given, later, _, _, plain⟩
      · cases first
        exact .inr (.inl ⟨_, rfl⟩)
      · exact .inl (plain r rfl)

/-- If the end of a transfer was noted, this transfer was stored for the errand, which is over. -/
theorem finish_heard (stage : errand.Stage asked now) {stored : ZoneTransfer} {status : ZoneStatus}
    {given : Except Error Unit} (member : ⟨.zoneFinish stored status, given⟩ ∈ asked) :
    (∃ transfer, ⟨.zoneAdd transfer, .ok stored⟩ ∈ asked) ∧ now = .done () := by
  have unopened : ∀ zone start other, (⟨.zoneFinish stored status, given⟩ : Exchange) ∉ opening zone start other := by
    simp [opening]
  have unperformed : ∀ zone since rest, (errand.perform zone).Reaches since rest →
      (⟨.zoneFinish stored status, given⟩ : Exchange) ∉ since := by
    intro zone since rest performing inside
    rcases performing_asks performing with ⟨rfl, _⟩ | ⟨_, later, rfl, plain, _⟩
    · cases inside
    · rcases List.mem_cons.mp inside with same | later
      · cases same
      · exact plain _ later
  cases stage with
  | before heard next =>
    rcases heard _ member with plain | ⟨_, _, same⟩
    · exact plain.elim
    · cases same
  | unnumbered zone start other id heard closed => exact absurd (heard ▸ member) (unopened _ _ _)
  | during zone start other since rest heard performing next =>
    rcases List.mem_append.mp (heard ▸ member) with opened | asking
    · exact absurd opened (unopened _ _ _)
    · exact absurd asking (unperformed _ _ _ performing)
  | after zone start other since result answer heard performed closed =>
    refine ⟨?_, closed⟩
    rcases List.mem_append.mp (heard ▸ member) with opened | others
    · exact absurd opened (unopened _ _ _)
    · rcases List.mem_append.mp others with asking | last
      · exact absurd asking (unperformed _ _ _ performed)
      · cases List.mem_singleton.mp last
        exact ⟨.begin zone start, by rw [heard]; simp [opening]⟩

/-- A list is cut in one way at the only element of a kind. -/
private theorem cut_unique {α : Type} {kind : α → Prop} {front back before later : List α} {x y : α}
    (same : before ++ x :: later = front ++ y :: back) (first : kind x)
    (noFront : ∀ e ∈ front, ¬kind e) (noBack : ∀ e ∈ back, ¬kind e) :
    before = front ∧ x = y ∧ later = back := by
  rcases List.append_eq_append_iff.mp same with ⟨between, rfl, rest⟩ | ⟨between, rfl, rest⟩
  · cases between with
    | nil =>
      cases rest
      exact ⟨by simp, rfl, rfl⟩
    | cons e more =>
      cases rest
      exact absurd first (noFront x (by simp))
  · cases between with
    | nil =>
      cases rest
      exact ⟨by simp, rfl, rfl⟩
    | cons e more =>
      cases rest
      exact absurd first (noBack x (by simp))

/-- Once `perform` has ended with a result, the end of the stored transfer is about to be noted. -/
theorem performed_stage {before since : List Exchange} {result : Except Error Nat}
    (stage : errand.Stage (before ++ since) now) (performed : (errand.perform zone).Reaches since (.done result)) :
    ∃ name start stored, before = opening name start stored ∧ stored.zone = zone ∧
      now = conclude stored result := by
  have unopened : ∀ name start stored, ∀ exchange ∈ opening name start stored,
      ¬∃ zone, begins zone exchange = true := by
    simp [opening, begins]
  rcases performing_asks performed with ⟨_, asks⟩ | ⟨given, later, rfl, plain, _⟩
  · cases asks
  have first : begins zone ⟨.nameservers zone, given⟩ = true := by simp [begins]
  have inside : (⟨.nameservers zone, given⟩ : Exchange) ∈ before ++ ⟨.nameservers zone, given⟩ :: later := by simp
  cases stage with
  | before heard next =>
    rcases heard _ inside with plain | ⟨_, _, same⟩
    · exact plain.elim
    · cases same
  | unnumbered name start stored id heard closed =>
    exact absurd ⟨zone, first⟩ (unopened name start stored _ (heard ▸ inside))
  | during name start stored mid rest heard performing next =>
    rcases performing_asks performing with ⟨rfl, _⟩ | ⟨_, tail, rfl, calm, _⟩
    · rw [List.append_nil] at heard
      exact absurd ⟨zone, first⟩ (unopened name start stored _ (heard ▸ inside))
    · obtain ⟨rfl, same, rfl⟩ := cut_unique heard ⟨zone, first⟩ (unopened name start stored)
        fun e member ⟨_, other⟩ => begins_not_plain other (calm e member)
      cases same
      cases reaches_unique performing performed
      exact ⟨name, start, stored, rfl, rfl, next⟩
  | after name start stored mid ended answer heard concluded closed =>
    rcases performing_asks concluded with ⟨_, asks⟩ | ⟨_, tail, rfl, calm, _⟩
    · cases asks
    · -- What `perform` asked would go on to the end of the errand, which is nothing that it asks.
      obtain ⟨_, _, rfl⟩ := cut_unique heard ⟨zone, first⟩ (unopened name start stored) (by
        rintro e member ⟨_, other⟩
        rcases List.mem_append.mp member with asked | last
        · exact begins_not_plain other (calm e asked)
        · cases List.mem_singleton.mp last
          cases other)
      exact (plain ⟨.zoneFinish stored (statusOf ended), answer⟩ (by simp)).elim

end Errand
end Transfer
end HostSurvey
