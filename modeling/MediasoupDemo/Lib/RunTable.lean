import Mathlib.Data.List.Basic

/-!
# Run-length tables

Media containers store a long list of numbers in one of two compressed forms.

* A *run-length* table is a list of `(count, value)` entries, and `expand`
  repeats every value `count` times.  `push` is the writer that extends the
  last entry when the value repeats, and `expand_push` says that it appends
  one value to what the table describes.
* A *step* table is a list of `(key, value)` entries in which an entry holds
  from its key until the next entry.  `steps` lists the keys at which the
  value changes, `lookup` reads the entry in force at a key, and
  `lookup_steps` says that every value is found at its own key.

Nothing here depends on what the numbers mean.
-/

namespace RunTable

variable {β : Type}

/-! ## Run-length tables -/

/-- The list that a run-length table describes. -/
def expand (table : List (Nat × β)) : List β :=
  table.flatMap (fun entry => List.replicate entry.1 entry.2)

/-- Append one value: extend the last entry when the value repeats, otherwise
open a new entry. -/
def push [DecidableEq β] (table : List (Nat × β)) (value : β) : List (Nat × β) :=
  match table.getLast? with
  | some last =>
      if last.2 = value then table.dropLast ++ [(last.1 + 1, value)]
      else table ++ [(1, value)]
  | none => table ++ [(1, value)]

@[simp] theorem expand_append (left right : List (Nat × β)) :
    expand (left ++ right) = expand left ++ expand right := by
  simp [expand]

@[simp] theorem expand_singleton (entry : Nat × β) :
    expand [entry] = List.replicate entry.1 entry.2 := by
  simp [expand]

/-- `push` appends one value to the list that the table describes. -/
theorem expand_push [DecidableEq β] (table : List (Nat × β)) (value : β) :
    expand (push table value) = expand table ++ [value] := by
  unfold push
  cases hlast : table.getLast? with
  | none => simp
  | some last =>
    obtain ⟨init, rfl⟩ : ∃ init, table = init ++ [last] :=
      List.getLast?_eq_some_iff.mp hlast
    simp only [List.dropLast_concat]
    split
    · rename_i heq
      subst heq
      simp [List.replicate_succ']
    · rw [expand_append _ [(1, value)]]
      simp

/-! ## Step tables -/

/-- The keys at which a list of values changes, with the value from there on.
The values stand at the keys `n`, `n + 1`, and so on; `prev` is the value in
force before `n`. -/
def steps [DecidableEq β] (prev : Option β) (n : Nat) : List β → List (Nat × β)
  | [] => []
  | value :: rest =>
      if prev = some value then steps prev (n + 1) rest
      else (n, value) :: steps (some value) (n + 1) rest

/-- The value of the last entry whose key is at most `k`. -/
def lookup (table : List (Nat × β)) (k : Nat) : Option β :=
  ((table.filter (fun entry => entry.1 ≤ k)).getLast?).map Prod.snd

/-- No entry of `steps` comes before the first key. -/
theorem le_of_mem_steps [DecidableEq β] {prev : Option β} {n : Nat} {values : List β}
    {entry : Nat × β} (h : entry ∈ steps prev n values) : n ≤ entry.1 := by
  induction values generalizing prev n with
  | nil => simp [steps] at h
  | cons value rest ih =>
    rw [steps] at h
    split at h
    · have := ih h
      omega
    · rcases List.mem_cons.mp h with rfl | h
      · exact Nat.le_refl _
      · have := ih h
        omega

/-- Entries after the key `k` do not change the entry in force at `k`. -/
theorem lookup_append_steps [DecidableEq β] (table : List (Nat × β))
    {prev : Option β} {n k : Nat} (hk : k < n) (values : List β) :
    lookup (table ++ steps prev n values) k = lookup table k := by
  have hnil : (steps prev n values).filter (fun entry => entry.1 ≤ k) = [] := by
    rw [List.filter_eq_nil_iff]
    intro entry hentry
    have := le_of_mem_steps hentry
    simp only [decide_eq_true_eq]
    omega
  simp [lookup, hnil]

/-- A table whose keys are all at most `k` answers `k` with its last entry. -/
theorem lookup_of_forall_le {table : List (Nat × β)} {k : Nat}
    (h : ∀ entry ∈ table, entry.1 ≤ k) :
    lookup table k = table.getLast?.map Prod.snd := by
  have hall : table.filter (fun entry => entry.1 ≤ k) = table := by
    rw [List.filter_eq_self]
    intro entry hentry
    simpa using h entry hentry
  rw [lookup, hall]

/-- A writer that has emitted `table` so far, with `prev` in force, and goes on
with `steps` is read back value by value. -/
theorem lookup_steps_from [DecidableEq β] {values : List β} :
    ∀ {table : List (Nat × β)} {prev : Option β} {n : Nat},
      (∀ entry ∈ table, entry.1 ≤ n) → table.getLast?.map Prod.snd = prev →
      ∀ i, i < values.length →
        lookup (table ++ steps prev n values) (n + i) = values[i]? := by
  induction values with
  | nil => intro table prev n _ _ i hi; simp at hi
  | cons value rest ih =>
    intro table prev n hkeys hprev i hi
    -- `next` is the table after the value at key `n` has been written.
    obtain ⟨next, hnext, hsplit, hlast⟩ : ∃ next : List (Nat × β),
        (∀ entry ∈ next, entry.1 ≤ n) ∧
        table ++ steps prev n (value :: rest) =
          next ++ steps (some value) (n + 1) rest ∧
        next.getLast?.map Prod.snd = some value := by
      rw [steps]
      split
      · rename_i heq
        exact ⟨table, hkeys, by rw [heq], by rw [hprev, heq]⟩
      · refine ⟨table ++ [(n, value)], ?_, by simp, by simp⟩
        intro entry hentry
        rcases List.mem_append.mp hentry with h | h
        · exact hkeys entry h
        · cases List.mem_singleton.mp h
          exact Nat.le_refl n
    rw [hsplit]
    cases i with
    | zero =>
      rw [lookup_append_steps _ (by omega), lookup_of_forall_le (by simpa using hnext), hlast]
      rfl
    | succ i =>
      have hkeys' : ∀ entry ∈ next, entry.1 ≤ n + 1 := by
        intro entry hentry
        have := hnext entry hentry
        omega
      have := ih hkeys' hlast i (by simpa using hi)
      rw [show n + (i + 1) = n + 1 + i by omega, this]
      rfl

/-- Every value is found at its own key. -/
theorem lookup_steps [DecidableEq β] (values : List β) (n i : Nat) (hi : i < values.length) :
    lookup (steps none n values) (n + i) = values[i]? := by
  have hempty : ∀ entry ∈ ([] : List (Nat × β)), entry.1 ≤ n := by simp
  simpa using lookup_steps_from hempty rfl i hi

end RunTable
