import HostSurvey.Generate.Generator
import HostSurvey.Proofs.Survey.Course
import Mathlib.Data.List.Induction
import Mathlib.Data.List.TakeWhile
/-!
# How often an address is looked up

Drawers share one cache. Whether it has a key is one request, and adding the key is another, so a second drawer
may ask for the key in between.

1. Of one drawer: a host that it sends was looked up, a lookup follows a miss, and after a miss the key is noted
   before anything else is asked. This is read off its activity (`drawer_course`).
2. Of the cache: nobody misses a key that was noted (`Minded`). So no drawer misses a key twice, and all of them
   miss it at most as often as they asked for it before it was noted.
3. The main theorem follows by counting. The cache is meant to keep all drawers together from looking an address up
   twice. That it does not is shown behind the theorem (`one_address_is_looked_up_twice`).
-/
namespace HostSurvey.Generate

open Net Activity

/-- A world in which drawers look into what they draw. -/
def drawers (w : World) (draws : List (List Address)) : Crew := ⟨w, draws.map workThrough⟩

/-! ## What is asked about an address -/

/-- The cache says that it does not have a key. -/
def misses (key : String) : Exchange → Bool
  | ⟨.cacheHas other, .ok false⟩ => other = key
  | _ => false

/-- The cache is told a key. -/
def notes (key : String) : Exchange → Bool
  | ⟨.cacheAdd other, _⟩ => other = key
  | _ => false

/-- The names of the host at an address are asked for. -/
def looksUp (address : Address) : Exchange → Bool
  | ⟨.reverse other, _⟩ => other = address
  | _ => false

/-- A host at an address is passed on. -/
def sends (address : Address) : Exchange → Bool
  | ⟨.sendHost host, _⟩ => host.address = address
  | _ => false

/-- What was asked before a key was noted for the first time. -/
def beforeNoted (key : String) (log : List (Nat × Exchange)) : List (Nat × Exchange) :=
  log.takeWhile fun exchange => !notes key exchange.2

/-! ## One drawer -/

/-- The cache did not fail. -/
def Answered : Exchange → Prop
  | ⟨.cacheHas _, .error _⟩ => False
  | _ => True

/-- Nothing is sent that was not looked up, and nothing is looked up that the cache had. -/
structure Careful (asked : List Exchange) : Prop where
  sent : ∀ address, asked.countP (sends address) ≤ asked.countP (looksUp address)
  lookedUp : ∀ address, asked.countP (looksUp address) ≤ asked.countP (misses address.text)

/-- What the cache did not have was noted. -/
def Settled (asked : List Exchange) : Prop :=
  ∀ key, asked.countP (misses key) ≤ asked.countP (notes key)

/-- How far a drawer has come. -/
structure DrawerCourse (asked : List Exchange) (now : Activity Unit) : Prop where
  careful : Careful asked
  /-- All is settled, unless the drawer is about to note a key. -/
  settled : (∀ key, now.asks? ≠ some (.cacheAdd key)) → Settled asked

variable {address : Address} {asked later : List Exchange} {now : Activity Unit}

private theorem careful_nil : Careful [] := ⟨fun _ => Nat.le_refl 0, fun _ => Nat.le_refl 0⟩

private theorem Careful.append (first : Careful asked) (second : Careful later) : Careful (asked ++ later) := by
  refine ⟨fun address => ?_, fun address => ?_⟩
  · have one := first.sent address
    have other := second.sent address
    rw [List.countP_append, List.countP_append]
    omega
  · have one := first.lookedUp address
    have other := second.lookedUp address
    rw [List.countP_append, List.countP_append]
    omega

private theorem Settled.append (first : Settled asked) (second : Settled later) : Settled (asked ++ later) := by
  intro key
  have one := first key
  have other := second key
  rw [List.countP_append, List.countP_append]
  omega

private theorem DrawerCourse.after (careful : Careful asked) (settled : Settled asked)
    (course : DrawerCourse later now) : DrawerCourse (asked ++ later) now :=
  ⟨careful.append course.careful, fun silent => settled.append (course.settled silent)⟩

/-- Once an address is looked up, nothing else is, and the cache is left alone. -/
private theorem looked_course {added : Except Error Unit} {names : Except Error (List String)}
    (missless : ∀ key, later.countP (misses key) = 0) (lookless : ∀ other, later.countP (looksUp other) = 0)
    (sent : ∀ other, later.countP (sends other) ≤ if address = other then 1 else 0) :
    Careful (⟨.cacheHas address.text, .ok false⟩ :: ⟨.cacheAdd address.text, added⟩ ::
        ⟨.reverse address, names⟩ :: later) ∧
      Settled (⟨.cacheHas address.text, .ok false⟩ :: ⟨.cacheAdd address.text, added⟩ ::
        ⟨.reverse address, names⟩ :: later) := by
  refine ⟨⟨fun other => ?_, fun other => ?_⟩, fun key => ?_⟩
  · have own := sent other
    simpa [List.countP_cons, sends, looksUp, lookless] using own
  · by_cases same : address = other
    · simp [looksUp, misses, lookless, missless, same]
    · simp [List.countP_cons, looksUp, lookless, same]
  · simp [List.countP_cons, misses, notes, missless]

private theorem work_course (reached : (work address).Reaches asked now)
    (answered : ∀ exchange ∈ asked, Answered exchange) : DrawerCourse asked now := by
  have missed : Careful [⟨.cacheHas address.text, .ok false⟩] :=
    ⟨by simp [sends], by simp [looksUp]⟩
  rcases reaches_ask (r := .cacheHas address.text) reached with ⟨rfl, rfl⟩ | ⟨known, later, rfl, knowing⟩
  · exact ⟨careful_nil, fun _ _ => Nat.le_refl 0⟩
  · rcases known with e | _ | _
    · exact (answered _ List.mem_cons_self).elim
    · rcases reaches_ask (r := .cacheAdd address.text) knowing with ⟨rfl, rfl⟩ | ⟨added, later, rfl, adding⟩
      · exact ⟨missed, fun silent => absurd rfl (silent address.text)⟩
      · rcases reaches_ask (r := .reverse address) adding with ⟨rfl, rfl⟩ | ⟨names, later, rfl, naming⟩
        · refine ⟨⟨by simp [sends], by simp [looksUp]⟩, fun _ key => ?_⟩
          simp [List.countP_cons, misses, notes]
        · suffices rest : (∀ key, later.countP (misses key) = 0) ∧ (∀ other, later.countP (looksUp other) = 0) ∧
              ∀ other, later.countP (sends other) ≤ if address = other then 1 else 0 by
            obtain ⟨careful, settled⟩ := looked_course rest.1 rest.2.1 rest.2.2
            exact ⟨careful, fun _ => settled⟩
          rcases names with e | _ | ⟨name, others⟩
          · obtain ⟨rfl, rfl⟩ := reaches_done naming
            simp
          · obtain ⟨rfl, rfl⟩ := reaches_done naming
            simp
          · rcases reaches_ask (r := .screenName name) naming with ⟨rfl, rfl⟩ | ⟨found, later, rfl, finding⟩
            · simp
            · cases found with
              | true =>
                obtain ⟨rfl, rfl⟩ := reaches_done finding
                simp [misses, looksUp, sends]
              | false =>
                rcases reaches_ask (r := .now) finding with ⟨rfl, rfl⟩ | ⟨time, later, rfl, timing⟩
                · simp [misses, looksUp, sends]
                · rcases reaches_ask (r := .sendHost ⟨none, address, name, .generated, time⟩) timing with
                    ⟨rfl, rfl⟩ | ⟨sent, later, rfl, sending⟩
                  · simp [misses, looksUp, sends]
                  · obtain ⟨rfl, rfl⟩ := reaches_done sending
                    simp [misses, looksUp, sends, List.countP_cons]
    · obtain ⟨rfl, rfl⟩ := reaches_done knowing
      exact ⟨⟨by simp [sends, looksUp], by simp [looksUp, misses]⟩, fun _ key => by simp [misses, notes]⟩

private theorem screened_course {given : Bool} (course : DrawerCourse asked now) :
    DrawerCourse (⟨.screenAddress address, given⟩ :: asked) now := by
  have careful : Careful [⟨.screenAddress address, given⟩] := ⟨by simp [sends], by simp [looksUp]⟩
  have settled : Settled [⟨.screenAddress address, given⟩] := by simp [Settled, misses]
  exact DrawerCourse.after careful settled course

/-- Whatever a drawer draws and is answered, it keeps the order of its requests. -/
theorem drawer_course {draws : List Address} (reached : (workThrough draws).Reaches asked now)
    (answered : ∀ exchange ∈ asked, Answered exchange) : DrawerCourse asked now := by
  induction draws generalizing asked with
  | nil =>
    obtain ⟨rfl, rfl⟩ := reaches_done reached
    exact ⟨careful_nil, fun _ _ => Nat.le_refl 0⟩
  | cons address rest ih =>
    rcases reaches_ask (r := .screenAddress address) reached with ⟨rfl, rfl⟩ | ⟨found, later, rfl, onward⟩
    · exact ⟨careful_nil, fun _ _ => Nat.le_refl 0⟩
    · have later_answered : ∀ exchange ∈ later, Answered exchange :=
        fun exchange member => answered exchange (List.mem_cons_of_mem _ member)
      apply screened_course
      cases found with
      | true => exact ih onward later_answered
      | false =>
        have onward : (work address >>= fun _ => workThrough rest).Reaches later now := onward
        rcases reaches_bind onward with
          ⟨still, working, rfl⟩ | ⟨before, after, value, rfl, worked, resting⟩
        · have course := work_course working later_answered
          refine ⟨course.careful, fun silent => ?_⟩
          cases still with
          | done value => exact course.settled fun key asks => nomatch asks
          | ask r next => exact course.settled silent
        · have worked := work_course worked fun exchange member =>
            later_answered exchange (List.mem_append_left _ member)
          have rested := ih resting fun exchange member => later_answered exchange (List.mem_append_right _ member)
          exact DrawerCourse.after worked.careful (worked.settled fun key asks => nomatch asks) rested

/-! ## The cache -/

/-- A cache that does not fail. -/
structure Works (cache : Cache) : Prop where
  readable : cache.readable = true
  writable : cache.writable = true

private theorem has_works {cache : Cache} (works : Works cache) (key : String) :
    cache.has key = .ok (cache.keys.contains key) := by
  rw [Cache.has, if_pos works.readable]

private theorem add_works {cache : Cache} (works : Works cache) (key : String) :
    ∃ more, cache.add key = .ok more ∧ Works more ∧ key ∈ more.keys ∧ cache.keys ⊆ more.keys := by
  have added : cache.add key =
      .ok (if cache.keys.contains key then cache else { cache with keys := cache.keys ++ [key] }) := by
    simp [Cache.add, works.writable]
  refine ⟨_, added, ?_⟩
  by_cases known : cache.keys.contains key = true
  · rw [if_pos known]
    exact ⟨works, by simpa using known, fun _ member => member⟩
  · rw [if_neg known]
    exact ⟨⟨works.readable, works.writable⟩, by simp, fun _ member => List.mem_append_left _ member⟩

/-- What a step does to a cache that works, and what it says of it. -/
inductive Told (before after : Cache) : Option (Nat × Exchange) → Prop where
  /-- The cache is left alone. -/
  | silent {said : Option (Nat × Exchange)} (same : after = before)
      (elsewhere : ∀ exchange, said = some exchange → Answered exchange.2 ∧
        ∀ key, misses key exchange.2 = false ∧ notes key exchange.2 = false) : Told before after said
  | found (place : Nat) (key : String) (same : after = before) :
      Told before after (some (place, ⟨.cacheHas key, .ok true⟩))
  | missed (place : Nat) (key : String) (same : after = before) (unknown : key ∉ before.keys) :
      Told before after (some (place, ⟨.cacheHas key, .ok false⟩))
  | noted (place : Nat) (key : String) (given : Except Error Unit) (works : Works after)
      (kept : before.keys ⊆ after.keys) (new : key ∈ after.keys) :
      Told before after (some (place, ⟨.cacheAdd key, given⟩))

private theorem storing_cache {α : Type} (w : World) (result : Except Error (α × Store)) :
    (w.storing result).2.cache = w.cache := by
  cases result <;> rfl

private theorem answer_told {w : World} (works : Works w.cache) (place : Nat) (r : Request) :
    Told w.cache (World.answer r w).2.cache (some (place, ⟨r, (World.answer r w).1⟩)) := by
  have elsewhere : ∀ {r : Request}, (World.answer r w).2.cache = w.cache →
      (Answered ⟨r, (World.answer r w).1⟩ ∧ ∀ key,
        misses key ⟨r, (World.answer r w).1⟩ = false ∧ notes key ⟨r, (World.answer r w).1⟩ = false) →
      Told w.cache (World.answer r w).2.cache (some (place, ⟨r, (World.answer r w).1⟩)) := by
    intro r same elsewhere
    refine .silent same ?_
    rintro exchange ⟨⟩
    exact elsewhere
  cases r with
  | cacheHas key =>
    have given := has_works works key
    simp only [World.answer, given]
    cases known : w.cache.keys.contains key with
    | true => exact .found place key rfl
    | false => exact .missed place key rfl (by simpa using known)
  | cacheAdd key =>
    obtain ⟨more, added, still, new, kept⟩ := add_works works key
    simp only [World.answer, added]
    exact .noted place key _ still kept new
  | hostAdd host => exact elsewhere (storing_cache w (w.store.addHost host)) ⟨trivial, fun _ => ⟨rfl, rfl⟩⟩
  | zoneAdd transfer => exact elsewhere (storing_cache w (w.store.addZone transfer)) ⟨trivial, fun _ => ⟨rfl, rfl⟩⟩
  | zoneFinish transfer status =>
    refine elsewhere ?_ ⟨trivial, fun _ => ⟨rfl, rfl⟩⟩
    simp only [World.answer, storing_cache]
  | requestZone name =>
    refine elsewhere ?_ ⟨trivial, fun _ => ⟨rfl, rfl⟩⟩
    simp only [World.answer]
    split <;> rfl
  | _ => exact elsewhere rfl ⟨trivial, fun _ => ⟨rfl, rfl⟩⟩

private theorem step_told {c : Crew} (works : Works c.world.cache) (step : Crew.Step)
    (kept : ∀ cache, step ≠ .recache cache) :
    Told c.world.cache (c.step step).world.cache (c.exchange? step) := by
  cases step with
  | recache cache => exact absurd rfl (kept cache)
  | change directory servers now => exact .silent rfl fun _ said => nomatch said
  | turn place =>
    simp only [Crew.step, Crew.turn, Crew.exchange?]
    split
    · exact answer_told works place _
    · refine .silent rfl fun _ said => ?_
      cases said

/-- How a cache goes with what was asked. -/
structure Minded (log : List (Nat × Exchange)) (cache : Cache) : Prop where
  works : Works cache
  /-- What was noted is there. -/
  noted : ∀ key, ∀ exchange ∈ log, notes key exchange.2 = true → key ∈ cache.keys
  answered : ∀ exchange ∈ log, Answered exchange.2
  /-- A key is missed only before it is noted. -/
  early : ∀ key, (log.countP fun exchange => misses key exchange.2) ≤
    (beforeNoted key log).countP fun exchange => misses key exchange.2

section Steps
variable {log : List (Nat × Exchange)} {before after : Cache} {said : Option (Nat × Exchange)}

private theorem beforeNoted_append (key : String) (log more : List (Nat × Exchange)) :
    beforeNoted key log <+: beforeNoted key (log ++ more) := by
  unfold beforeNoted
  rw [List.takeWhile_append]
  split
  · exact (List.takeWhile_prefix _).trans (List.prefix_append _ _)
  · exact List.prefix_refl _

private theorem early_step (minded : Minded log before) (told : Told before after said) (key : String) :
    ((log ++ said.toList).countP fun exchange => misses key exchange.2) ≤
      (beforeNoted key (log ++ said.toList)).countP fun exchange => misses key exchange.2 := by
  have old := minded.early key
  have more := (beforeNoted_append key log said.toList).countP_le
    (p := fun exchange : Nat × Exchange => misses key exchange.2)
  rw [List.countP_append]
  cases told with
  | silent same elsewhere =>
    have none : said.toList.countP (fun exchange => misses key exchange.2) = 0 := by
      refine List.countP_eq_zero.mpr fun exchange member missed => ?_
      rw [((elsewhere exchange (Option.mem_toList.mp member)).2 key).1] at missed
      cases missed
    omega
  | found place other same =>
    have none : misses key ⟨.cacheHas other, .ok true⟩ = false := rfl
    simp only [Option.toList_some, List.countP_singleton, none, Bool.false_eq_true, if_false]
    exact Nat.le_trans old more
  | missed place other same unknown =>
    by_cases own : other = key
    · subst own
      have unnoted : ∀ exchange ∈ log ++ [(place, (⟨.cacheHas other, .ok false⟩ : Exchange))],
          (!notes other exchange.2) = true := by
        intro exchange member
        rcases List.mem_append.mp member with earlier | now
        · cases noted : notes other exchange.2 with
          | false => rfl
          | true => exact absurd (minded.noted other exchange earlier noted) unknown
        · rw [List.mem_singleton.mp now]
          rfl
      have all := List.takeWhile_eq_self_iff.mpr unnoted
      rw [← List.countP_append, beforeNoted, Option.toList_some, all]
    · have none : misses key ⟨.cacheHas other, .ok false⟩ = false := decide_eq_false own
      simp only [Option.toList_some, List.countP_singleton, none, Bool.false_eq_true, if_false]
      exact Nat.le_trans old more
  | noted place other given works kept new =>
    have none : misses key ⟨.cacheAdd other, given⟩ = false := rfl
    simp only [Option.toList_some, List.countP_singleton, none, Bool.false_eq_true, if_false]
    exact Nat.le_trans old more

private theorem told_works (works : Works before) (told : Told before after said) :
    Works after ∧ before.keys ⊆ after.keys := by
  have alone : after = before → Works after ∧ before.keys ⊆ after.keys := by
    rintro rfl
    exact ⟨works, fun _ member => member⟩
  cases told with
  | silent same elsewhere => exact alone same
  | found place key same => exact alone same
  | missed place key same unknown => exact alone same
  | noted place key given still kept new => exact ⟨still, kept⟩

/-- What a step says of a cache is no failure, and a key that it notes is there. -/
private theorem told_said (told : Told before after said) {exchange : Nat × Exchange}
    (saying : said = some exchange) :
    Answered exchange.2 ∧ ∀ key, notes key exchange.2 = true → key ∈ after.keys := by
  cases told with
  | silent same elsewhere =>
    obtain ⟨answered, unlike⟩ := elsewhere exchange saying
    refine ⟨answered, fun key noted => ?_⟩
    rw [(unlike key).2] at noted
    cases noted
  | found place other same =>
    cases saying
    exact ⟨trivial, fun _ noted => nomatch noted⟩
  | missed place other same unknown =>
    cases saying
    exact ⟨trivial, fun _ noted => nomatch noted⟩
  | noted place other given works kept new =>
    cases saying
    refine ⟨trivial, fun key noted => ?_⟩
    have own : other = key := of_decide_eq_true noted
    exact own ▸ new

private theorem minded_step (minded : Minded log before) (told : Told before after said) :
    Minded (log ++ said.toList) after := by
  obtain ⟨works, kept⟩ := told_works minded.works told
  refine ⟨works, ?_, ?_, early_step minded told⟩
  · intro key exchange member noted
    rcases List.mem_append.mp member with old | new
    · exact kept (minded.noted key exchange old noted)
    · exact (told_said told (Option.mem_toList.mp new)).2 key noted
  · intro exchange member
    rcases List.mem_append.mp member with old | new
    · exact minded.answered exchange old
    · exact (told_said told (Option.mem_toList.mp new)).1

end Steps

/-- A cache that nobody replaces goes with what was asked. -/
theorem minded_history {c : Crew} (works : Works c.world.cache) {history : List Crew.Step}
    (kept : ∀ cache, .recache cache ∉ history) :
    Minded (c.exchanges history) (c.follow history).world.cache := by
  induction history using List.reverseRecOn with
  | nil =>
    exact ⟨works, fun _ _ member => (List.not_mem_nil member).elim, fun _ member => (List.not_mem_nil member).elim,
      fun _ => Nat.le_refl 0⟩
  | append_singleton history step ih =>
    have minded := ih fun cache member => kept cache (List.mem_append_left _ member)
    have told := step_told minded.works step fun cache same => kept cache (by simp [same])
    rw [Crew.exchanges_snoc, Crew.follow_snoc]
    exact minded_step minded told

/-! ## Drawers side by side -/

section Drawers
variable {w : World} {draws : List (List Address)} {history : List Crew.Step} {place : Nat}

/-- Every activity of the drawers has come as far as one drawer can. -/
private theorem drawers_course (works : Works w.cache) (kept : ∀ cache, .recache cache ∉ history)
    (there : ((drawers w draws).follow history).activities[place]? = some now) :
    DrawerCourse (Crew.heard place ((drawers w draws).exchanges history)) now := by
  have minded := minded_history (c := drawers w draws) works kept
  have inside := (List.getElem?_eq_some_iff.mp there).1
  rw [Crew.follow_length] at inside
  have inside : place < draws.length := by simpa [drawers] using inside
  have own : (drawers w draws).activities[place]? = some (workThrough draws[place]) := by
    simp [drawers, List.getElem?_eq_getElem inside]
  obtain ⟨next, goesOn, reached⟩ := Crew.reaches_in_history own history
  cases there.symm.trans goesOn
  exact drawer_course reached fun exchange member => minded.answered _ (Crew.mem_heard.mp member)

private theorem heard_outside (outside : ¬place < draws.length) :
    Crew.heard place ((drawers w draws).exchanges history) = [] := by
  refine List.eq_nil_iff_forall_not_mem.mpr fun exchange member => outside ?_
  simpa [drawers] using Crew.exchanges_place history _ (Crew.mem_heard.mp member)

/-- What a drawer has asked is careful. -/
private theorem drawers_careful (works : Works w.cache) (kept : ∀ cache, .recache cache ∉ history) (place : Nat) :
    Careful (Crew.heard place ((drawers w draws).exchanges history)) := by
  by_cases inside : place < draws.length
  · have still : place < ((drawers w draws).follow history).activities.length := by
      rw [Crew.follow_length]
      simpa [drawers] using inside
    exact (drawers_course works kept (List.getElem?_eq_getElem still)).careful
  · rw [heard_outside inside]
    exact careful_nil

/-- A drawer that misses a key was about to ask for it, and the cache does not have it. -/
private theorem missing {c : Crew} {step : Crew.Step} {exchange : Exchange} {key : String} {after : Cache}
    (told : Told c.world.cache after (c.exchange? step)) (saying : c.exchange? step = some (place, exchange))
    (missed : misses key exchange = true) :
    key ∉ c.world.cache.keys ∧ ∃ now, c.activities[place]? = some now ∧
      ∀ other, now.asks? ≠ some (.cacheAdd other) := by
  have unknown : ∀ {said}, Told c.world.cache after said → said = some (place, exchange) →
      key ∉ c.world.cache.keys := by
    intro said told saying
    cases told with
    | silent same elsewhere =>
      rw [((elsewhere _ saying).2 key).1] at missed
      cases missed
    | found other asked same =>
      cases saying
      cases missed
    | missed other asked same unknown =>
      cases saying
      have own : asked = key := of_decide_eq_true missed
      exact own ▸ unknown
    | noted other noted given works kept new =>
      cases saying
      cases missed
  refine ⟨unknown told saying, ?_⟩
  cases c.step_does step with
  | idles silent _ _ => cases silent.symm.trans saying
  | asks other r next _ there said _ =>
    cases said.symm.trans saying
    refine ⟨_, there, ?_⟩
    rintro noted ⟨⟩
    cases missed

/-- No drawer misses a key twice: it notes the key before it asks again. -/
private theorem missed_once (works : Works w.cache) (kept : ∀ cache, .recache cache ∉ history) (place : Nat)
    (key : String) : (Crew.heard place ((drawers w draws).exchanges history)).countP (misses key) ≤ 1 := by
  induction history using List.reverseRecOn with
  | nil => exact Nat.zero_le 1
  | append_singleton history step ih =>
    have before : ∀ cache, .recache cache ∉ history :=
      fun cache member => kept cache (List.mem_append_left _ member)
    have minded := minded_history (c := drawers w draws) works before
    have told := step_told minded.works step fun cache same => kept cache (by simp [same])
    have once := ih before
    rw [Crew.exchanges_snoc, Crew.heard_append, List.countP_append]
    by_cases new : (Crew.heard place (((drawers w draws).follow history).exchange? step).toList).countP
        (misses key) = 0
    · omega
    · obtain ⟨exchange, member, missed⟩ := List.countP_pos_iff.mp (Nat.pos_of_ne_zero new)
      have saying := Option.mem_toList.mp (Crew.mem_heard.mp member)
      obtain ⟨unknown, now, there, silent⟩ := missing told saying missed
      -- What the drawer missed before is noted by now, and so the cache would have the key.
      have settled := (drawers_course works before there).settled silent key
      have unnoted : (Crew.heard place ((drawers w draws).exchanges history)).countP (notes key) = 0 := by
        refine List.countP_eq_zero.mpr fun other inside noted => unknown ?_
        exact minded.noted key _ (Crew.mem_heard.mp inside) noted
      have single := List.countP_le_length (p := misses key)
        (l := Crew.heard place (((drawers w draws).follow history).exchange? step).toList)
      rw [saying] at single
      have short : (Crew.heard place (some (place, exchange)).toList).length = 1 := by simp [Crew.heard]
      rw [saying]
      omega

end Drawers

/-! ## The main theorem -/

/-- How often addresses are looked up by drawers, and hosts passed on. -/
structure Frugal (log : List (Nat × Exchange)) : Prop where
  /-- A drawer looks up an address at most once. -/
  once : ∀ place address, (Crew.heard place log).countP (looksUp address) ≤ 1
  /-- A drawer passes on at most one host at an address. -/
  sentOnce : ∀ place address, (Crew.heard place log).countP (sends address) ≤ 1
  /-- No more hosts are passed on than were looked up. -/
  sent : ∀ address, (log.countP fun exchange => sends address exchange.2) ≤
    log.countP fun exchange => looksUp address exchange.2
  /-- An address is looked up for those whom the cache told, before its key was noted, that it does not have it. -/
  lookedUp : ∀ address, (log.countP fun exchange => looksUp address exchange.2) ≤
    (beforeNoted address.text log).countP fun exchange => misses address.text exchange.2

/-- **Each drawer looks an address up once.** Any number of drawers share a cache that does not fail, and their
requests are interleaved in any order. Each of them looks up an address at most once and passes on at most one
host there. All of them together look it up at most as often as the cache, before it was first told the key, said
that it does not have it. -/
theorem drawers_look_up_once (w : World) (works : Works w.cache) (draws : List (List Address))
    (history : List Crew.Step) (kept : ∀ cache, .recache cache ∉ history) :
    Frugal ((drawers w draws).exchanges history) := by
  have minded := minded_history (c := drawers w draws) works kept
  have careful : ∀ place, Careful (Crew.heard place ((drawers w draws).exchanges history)) :=
    drawers_careful works kept
  have once : ∀ place address,
      (Crew.heard place ((drawers w draws).exchanges history)).countP (looksUp address) ≤ 1 :=
    fun place address => Nat.le_trans ((careful place).lookedUp address) (missed_once works kept place _)
  refine ⟨once, ?_, ?_, ?_⟩
  · exact fun place address => Nat.le_trans ((careful place).sent address) (once place address)
  · exact fun address => Crew.countP_le_of_heard _ fun place => (careful place).sent address
  · intro address
    have missed := Crew.countP_le_of_heard _ fun place => (careful place).lookedUp address
    exact Nat.le_trans missed (minded.early address.text)

/-- A world in which every address has a name. -/
private def namedWorld : World where
  names := []
  addresses := []
  store := .empty
  cache := .empty
  directory := { Directory.empty with reverse := fun _ => .ok ["host.example."] }
  servers := fun _ => .absent
  traces := .off
  now := ⟨0, 0⟩

/-- Two drawers take turns. -/
private def race : List Crew.Step := (List.replicate 7 [.turn 0, .turn 1]).flatten

private theorem race_kept : ∀ cache, .recache cache ∉ race := by
  simp [race]

/-- Both drawers ask for the key before the first one notes it. -/
theorem two_drawers_miss_one_key :
    let address := Address.ofOctets [93, 184, 216, 34]
    let log := (drawers namedWorld [[address], [address]]).exchanges race
    Frugal log ∧ (beforeNoted address.text log).countP (fun exchange => misses address.text exchange.2) = 2 :=
  ⟨drawers_look_up_once namedWorld ⟨rfl, rfl⟩ _ race race_kept, by decide⟩

/-- So the address is looked up twice and two hosts are passed on, although the cache is there to prevent both: to ask
for a key and to note it are two requests. -/
theorem one_address_is_looked_up_twice :
    let address := Address.ofOctets [93, 184, 216, 34]
    let log := (drawers namedWorld [[address], [address]]).exchanges race
    Works namedWorld.cache ∧ (∀ cache, .recache cache ∉ race) ∧
      ¬(log.countP fun exchange => looksUp address exchange.2) ≤ 1 ∧
      ¬(log.countP fun exchange => sends address exchange.2) ≤ 1 :=
  ⟨⟨rfl, rfl⟩, race_kept, by decide, by decide⟩

end HostSurvey.Generate
