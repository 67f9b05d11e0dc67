import HostSurvey.Proofs.Control.Moves
import Mathlib.Data.List.Nodup
/-!
# What workers hold

A worker may hold an item, a message, or a number that it has given out: at most one thing of each kind, which its
phase tells. The order in which the things come is of no account, so all that follows is up to a permutation.

1. `held_split` takes what one worker holds out of what all of them hold.
2. `held_balance`, `held_retire` and `held_launch` say what becomes of it when a worker is replaced, leaves or
   sets out.
-/
namespace HostSurvey.Control.Pool

variable {ι α : Type} {p : Pool ι} {worker : Worker ι} {holds : Worker ι → Option α}

/-- A worker of the pool is the one that is found under its number. -/
theorem worker?_of_mem (distinct : p.ids.Nodup) (member : worker ∈ p.workers) :
    p.worker? worker.id = some worker := by
  have there : worker.id ∈ p.ids := List.mem_map.mpr ⟨worker, member, rfl⟩
  obtain ⟨first, found⟩ := Option.isSome_iff_exists.mp (worker?_isSome.mpr there)
  have same := List.inj_on_of_nodup_map distinct (worker?_mem found) member (worker?_id found)
  exact same ▸ found

/-- What the workers hold, if `holds` tells what one of them holds. -/
def held (holds : Worker ι → Option α) (p : Pool ι) : List α := p.workers.filterMap holds

/-- What all workers but one hold. -/
def heldElsewhere (holds : Worker ι → Option α) (p : Pool ι) (id : Nat) : List α :=
  (p.workers.filter (·.id ≠ id)).filterMap holds

private theorem held_of_list (holds : Worker ι → Option α) (workers : List (Worker ι))
    (distinct : (workers.map (·.id)).Nodup) (member : worker ∈ workers) (replacement : Worker ι) :
    ((workers.map fun w => if w.id = worker.id then replacement else w).filterMap holds).Perm
      ((holds replacement).toList ++ (workers.filter (·.id ≠ worker.id)).filterMap holds) := by
  induction workers with
  | nil => cases member
  | cons first rest ih =>
    simp only [List.map_cons, List.nodup_cons] at distinct ⊢
    obtain ⟨alone, distinct⟩ := distinct
    rcases List.mem_cons.mp member with rfl | later
    · have others : ∀ w ∈ rest, w.id ≠ worker.id := fun w held same =>
        alone (List.mem_map.mpr ⟨w, held, same⟩)
      have kept : (rest.map fun w => if w.id = worker.id then replacement else w) = rest := by
        conv => rhs; rw [← List.map_id rest]
        exact List.map_congr_left fun w held => by simp [others w held]
      have filtered : rest.filter (fun w => decide (w.id ≠ worker.id)) = rest :=
        List.filter_eq_self.mpr fun w held => by simp [others w held]
      rw [if_pos rfl, kept, List.filter_cons_of_neg (by simp), filtered]
      cases hand : holds replacement <;> simp [hand]
    · have different : first.id ≠ worker.id := fun same =>
        alone (List.mem_map.mpr ⟨worker, later, same.symm⟩)
      have step := ih distinct later
      rw [if_neg different, List.filter_cons_of_pos (by simp [different])]
      cases hand : holds first with
      | none => simpa [hand] using step
      | some thing =>
        simp only [List.filterMap_cons, hand]
        exact (step.cons thing).trans List.perm_middle.symm

/-- Putting a worker in the place of another puts what it holds in the place of what the other one held. -/
theorem held_put (holds : Worker ι → Option α) (distinct : p.ids.Nodup) (found : p.worker? worker.id = some worker)
    {replacement : Worker ι} (same : replacement.id = worker.id) :
    ((p.put replacement).held holds).Perm ((holds replacement).toList ++ p.heldElsewhere holds worker.id) := by
  have list := held_of_list holds p.workers distinct (worker?_mem found) replacement
  simp only [held, put, heldElsewhere, same]
  exact list

/-- What is held is what one worker holds and what the others hold. -/
theorem held_split (holds : Worker ι → Option α) (distinct : p.ids.Nodup)
    (found : p.worker? worker.id = some worker) :
    (p.held holds).Perm ((holds worker).toList ++ p.heldElsewhere holds worker.id) := by
  have itself : (p.workers.map fun w => if w.id = worker.id then worker else w) = p.workers := by
    conv => rhs; rw [← List.map_id p.workers]
    apply List.map_congr_left
    intro w held
    split
    · rename_i same
      exact (List.inj_on_of_nodup_map distinct held (worker?_mem found) same).symm
    · rfl
  have list := held_put holds distinct found rfl
  simpa only [held, put, itself] using list

/-- What comes and what a worker held is what goes and what the worker in its place holds. -/
theorem held_balance (holds : Worker ι → Option α) (distinct : p.ids.Nodup)
    (found : p.worker? worker.id = some worker) {replacement : Worker ι} (same : replacement.id = worker.id)
    (come go : List α) (balance : come ++ (holds worker).toList = go ++ (holds replacement).toList) :
    (come ++ p.held holds).Perm (go ++ (p.put replacement).held holds) := by
  have before := (held_split holds distinct found).append_left come
  have after := (held_put holds distinct found same).append_left go
  rw [← List.append_assoc, balance, List.append_assoc] at before
  exact before.trans after.symm

/-- A worker that is replaced by one that holds the same leaves what is held as it is. -/
theorem held_put_same (holds : Worker ι → Option α) (distinct : p.ids.Nodup)
    (found : p.worker? worker.id = some worker) {replacement : Worker ι} (same : replacement.id = worker.id)
    (alike : holds replacement = holds worker) : ((p.put replacement).held holds).Perm (p.held holds) :=
  (held_balance holds distinct found same [] [] (by rw [alike])).symm

/-- What a worker held goes with it. -/
theorem held_retire (holds : Worker ι → Option α) (distinct : p.ids.Nodup)
    (found : p.worker? worker.id = some worker) :
    (p.held holds).Perm ((holds worker).toList ++ (p.retire worker.id).held holds) :=
  held_split holds distinct found

/-- A worker that sets out holds nothing but what its phase tells. -/
theorem held_launch (holds : Worker ι → Option α) (p : Pool ι) (id : Nat)
    (nothing : holds ⟨id, .looking, false⟩ = none) : (p.launch id).held holds = p.held holds := by
  simp [held, launch, nothing]

end HostSurvey.Control.Pool
