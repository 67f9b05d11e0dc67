import HostSurvey.Proofs.Control.Accounting
/-!
# The items of a pool

Where the items are: some wait in the source, and some are in the hands of workers.

1. `moved_items`: a move that is no end of an item changes nothing about which items there are.
2. `items_working` takes the item of one worker out of all of them, whatever becomes of the worker.
-/
namespace HostSurvey.Control

variable {ι : Type}

/-- The item that a worker has in hand. -/
def Worker.item? (worker : Worker ι) : Option ι :=
  match worker.phase with
  | .working item => some item
  | _ => none

namespace Pool

variable {p q : Pool ι} {worker : Worker ι}

/-- The items in the hands of workers. -/
def hands (p : Pool ι) : List ι := p.held Worker.item?

/-- The items that wait and those in the hands of workers. -/
def items (p : Pool ι) : List ι := p.source.items ++ p.hands

theorem hands_launch (p : Pool ι) (id : Nat) : (p.launch id).hands = p.hands :=
  held_launch Worker.item? p id rfl

/-! ## What a move does to the items -/

section Moves
variable (distinct : p.ids.Nodup) (found : p.worker? worker.id = some worker)
include distinct found

/-- A worker without an item that is replaced by another one without an item leaves the items as they are. -/
private theorem items_put_empty {v : Worker ι} (same : v.id = worker.id) (empty : worker.item? = none)
    (free : v.item? = none) : (p.put v).items.Perm p.items :=
  (held_put_same Worker.item? distinct found same (free.trans empty.symm)).append_left _

private theorem follow_items (empty : worker.item? = none) (message : Message) :
    (p.follow worker message).items.Perm p.items := by
  cases message <;> exact items_put_empty distinct found rfl empty rfl

end Moves

private theorem follow_source (p : Pool ι) (worker : Worker ι) (message : Message) :
    (p.follow worker message).source = p.source := by
  cases message <;> rfl

/-- No move ends the source. -/
theorem moved_isOpen {move : Move} (moved : p.moved? worker move = some q) :
    q.source.isOpen = p.source.isOpen := by
  cases moved_cases moved with
  | follows message told => rw [follow_source]
  | _ => rfl

/-- A move that neither finishes an item nor breaks down over one keeps all items, and a worker that takes
one has it in hand. -/
theorem moved_items (distinct : p.ids.Nodup) {id : Nat} (found : p.worker? id = some worker)
    {move : Move} (finishes : move ≠ .finish) (collapses : move ≠ .collapse)
    (moved : p.moved? worker move = some q) : q.items.Perm p.items := by
  rw [← worker?_id found] at found
  have empty : worker.phase = .waiting → worker.item? = none := fun waiting => by simp [Worker.item?, waiting]
  cases moved_cases moved with
  | goesOn looking running => exact items_put_empty distinct found rfl (by simp [Worker.item?, looking]) rfl
  | lapses looking cleared => exact items_put_empty distinct found rfl (by simp [Worker.item?, looking]) rfl
  | receives message rest waiting first => exact items_put_empty distinct found rfl (empty waiting) rfl
  | follows message told => exact follow_items distinct found (by simp [Worker.item?, told]) message
  | launches next spawning =>
    rw [items, hands_launch]
    exact items_put_empty distinct found rfl (by simp [Worker.item?, spawning]) rfl
  | takes item rest waiting first =>
    let busy : Worker ι := { worker with phase := .working item }
    have same : busy.id = worker.id := rfl
    have grasped : (item :: p.hands).Perm (p.put busy).hands :=
      held_balance Worker.item? distinct found same [item] [] (by rw [empty waiting]; rfl)
    show (rest ++ (p.put busy).hands).Perm (p.source.items ++ p.hands)
    rw [first]
    exact (grasped.symm.append_left rest).trans List.perm_middle
  | misses waiting => exact items_put_empty distinct found rfl (empty waiting) rfl
  | beats waiting => exact items_put_empty distinct found rfl (empty waiting) rfl
  | finishes item working => exact absurd rfl finishes
  | collapses frail => exact absurd rfl collapses
  | leaves cause leaving =>
    have nothing : worker.item? = none := by simp [Worker.item?, leaving]
    have others := held_retire Worker.item? distinct found
    rw [nothing] at others
    exact others.symm.append_left _

/-! ## What else happens to items -/

private theorem launchMany_items (count : Nat) (p : Pool ι) :
    (launchMany count p).items = p.items ∧ (launchMany count p).source = p.source := by
  induction count generalizing p with
  | zero => exact ⟨rfl, rfl⟩
  | succ count ih =>
    obtain ⟨items_, source⟩ := ih (launch { p with nextId := p.nextId + 1 } p.nextId)
    exact ⟨items_.trans (congrArg (p.source.items ++ ·) (hands_launch _ _)), source⟩

theorem items_start (p : Pool ι) (count : Nat) : (p.start count).2.items = p.items := by
  unfold start
  split
  · rfl
  · exact (launchMany_items count _).1

theorem start_isOpen (p : Pool ι) (count : Nat) : (p.start count).2.source.isOpen = p.source.isOpen := by
  unfold start
  split
  · rfl
  · exact congrArg Source.isOpen (launchMany_items count _).2

/-- An item that comes waits behind the others, unless the source has ended. -/
theorem items_offer (p : Pool ι) (item : ι) :
    (p.offer item).items = p.items ∨ (p.offer item).items.Perm (item :: p.items) := by
  unfold offer Source.offer
  split
  · right
    show (p.source.items ++ [item] ++ p.hands).Perm (item :: (p.source.items ++ p.hands))
    rw [List.append_assoc]
    exact List.perm_middle
  · exact .inl rfl

/-- A worker that has an item in hand: the items are this one and the others, whatever becomes of the worker. -/
theorem items_working (distinct : p.ids.Nodup) {id : Nat} (found : p.worker? id = some worker)
    {item : ι} (working : worker.phase = .working item) :
    ∃ others, p.items.Perm (item :: others) ∧
      (∀ other : ι, (p.put { worker with phase := .working other }).items.Perm (other :: others)) ∧
      (p.put { worker with phase := .looking }).items.Perm others := by
  rw [← worker?_id found] at found
  have hand : worker.item? = some item := by simp [Worker.item?, working]
  have before := held_split Worker.item? distinct found
  rw [hand] at before
  refine ⟨p.source.items ++ p.heldElsewhere Worker.item? worker.id, ?_, ?_, ?_⟩
  · exact (before.append_left _).trans List.perm_middle
  · intro other
    let busy : Worker ι := { worker with phase := .working other }
    have same : busy.id = worker.id := rfl
    have after : (p.put busy).hands.Perm (other :: p.heldElsewhere Worker.item? worker.id) :=
      held_put Worker.item? distinct found same
    exact (after.append_left _).trans List.perm_middle
  · let free : Worker ι := { worker with phase := .looking }
    have same : free.id = worker.id := rfl
    have after : (p.put free).hands.Perm (p.heldElsewhere Worker.item? worker.id) :=
      held_put Worker.item? distinct found same
    exact after.append_left _

end Pool
end HostSurvey.Control
