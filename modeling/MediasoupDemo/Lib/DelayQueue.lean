import Mathlib.Algebra.Ring.Nat
import Mathlib.Data.List.Sort

/-!
# Queues of delayed tasks

A queue lists its tasks with the times at which they are due, the earliest first, and carries
the proof that it does.  A task that is posted goes behind the tasks that are due no later, so
tasks with the same time keep the order in which they were posted.

`mem_post` and `mem_of_next` say what a queue holds after a task was posted or taken, and
`weight_post` and `weight_of_next` what its tasks weigh together.
-/

universe u

/-- Tasks and the times at which they are due. -/
structure DelayQueue (T : Type u) where
  tasks : List (Nat × T)
  sorted : tasks.Pairwise fun a b => a.1 ≤ b.1
  deriving DecidableEq

namespace DelayQueue

variable {T : Type u} {queue rest : DelayQueue T} {first : Nat × T}

instance : Membership (Nat × T) (DelayQueue T) := ⟨fun queue entry => entry ∈ queue.tasks⟩

/-- No task is waiting. -/
def empty : DelayQueue T := ⟨[], List.Pairwise.nil⟩

theorem sorted_orderedInsert {tasks : List (Nat × T)}
    (h : tasks.Pairwise fun a b => a.1 ≤ b.1) (entry : Nat × T) :
    (tasks.orderedInsert (fun a b => a.1 < b.1) entry).Pairwise fun a b => a.1 ≤ b.1 := by
  induction tasks with
  | nil => exact List.pairwise_singleton _ _
  | cons head tail ih =>
    obtain ⟨hhead, htail⟩ := List.pairwise_cons.mp h
    unfold List.orderedInsert
    split
    · rename_i hlt
      refine List.pairwise_cons.mpr ⟨fun other hother => ?_, h⟩
      rcases List.mem_cons.mp hother with rfl | hother
      · exact Nat.le_of_lt hlt
      · exact (Nat.le_of_lt hlt).trans (hhead other hother)
    · rename_i hle
      refine List.pairwise_cons.mpr ⟨fun other hother => ?_, ih htail⟩
      rcases (List.mem_orderedInsert _).mp hother with rfl | hother
      · exact Nat.le_of_not_lt hle
      · exact hhead other hother

/-- A task is posted. -/
def post (queue : DelayQueue T) (due : Nat) (task : T) : DelayQueue T :=
  ⟨queue.tasks.orderedInsert (fun a b => a.1 < b.1) (due, task),
    sorted_orderedInsert queue.sorted (due, task)⟩

/-- The task that is due first, and the others. -/
def next : DelayQueue T → Option ((Nat × T) × DelayQueue T)
  | ⟨[], _⟩ => none
  | ⟨first :: rest, h⟩ => some (first, ⟨rest, (List.pairwise_cons.mp h).2⟩)

/-- What the tasks weigh together. -/
def weight (w : T → Nat) (queue : DelayQueue T) : Nat :=
  (queue.tasks.map fun entry => w entry.2).sum

@[simp] theorem not_mem_empty (entry : Nat × T) : entry ∉ (empty : DelayQueue T) :=
  List.not_mem_nil

theorem mem_post {due : Nat} {task : T} {entry : Nat × T} :
    entry ∈ queue.post due task ↔ entry = (due, task) ∨ entry ∈ queue :=
  List.mem_orderedInsert _

theorem eq_empty_of_next (h : queue.next = none) : queue = empty := by
  obtain ⟨tasks, hsorted⟩ := queue
  cases tasks with
  | nil => rfl
  | cons first rest => cases h

theorem mem_of_next (h : queue.next = some (first, rest)) {entry : Nat × T} :
    entry ∈ queue ↔ entry = first ∨ entry ∈ rest := by
  obtain ⟨tasks, hsorted⟩ := queue
  cases tasks with
  | nil => cases h
  | cons head tail =>
    cases h
    exact List.mem_cons

theorem weight_post (w : T → Nat) (due : Nat) (task : T) :
    (queue.post due task).weight w = w task + queue.weight w := by
  have hperm := (List.perm_orderedInsert (fun a b => a.1 < b.1) (due, task) queue.tasks).map
    fun entry => w entry.2
  exact hperm.sum_nat.trans List.sum_cons

theorem weight_of_next (w : T → Nat) (h : queue.next = some (first, rest)) :
    queue.weight w = w first.2 + rest.weight w := by
  obtain ⟨tasks, hsorted⟩ := queue
  cases tasks with
  | nil => cases h
  | cons head tail =>
    cases h
    exact List.sum_cons

end DelayQueue
