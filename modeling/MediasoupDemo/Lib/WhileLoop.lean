import Mathlib.Init

/-!
# Loops without a bound

A turn of a loop throws, leaves the loop with a result (`.inl`), or goes on in a new state
(`.inr`).  `Runs` is the meaning of the loop: a loop that never leaves has no result.

* `exists_runs` is termination by a measure.
* `runs_of_countdown` is for a model that counts the turns down instead of testing the
  condition of the loop: the count is one of the state that every turn lowers by one.
* `Runs.invariant` carries an invariant to the result.
* `not_runs_of_invariant` is for a loop that goes on for ever.
-/

namespace WhileLoop

universe u v

variable {ε : Type u} {σ α : Type v}

/-- The loop over the turns ends with a result. -/
inductive Runs (turn : σ → Except ε (α ⊕ σ)) : σ → Except ε α → Prop
  | throws {s : σ} {e : ε} (h : turn s = .error e) : Runs turn s (.error e)
  | leaves {s : σ} {a : α} (h : turn s = .ok (.inl a)) : Runs turn s (.ok a)
  | next {s s' : σ} {result : Except ε α} (h : turn s = .ok (.inr s'))
      (hrest : Runs turn s' result) : Runs turn s result

variable {turn : σ → Except ε (α ⊕ σ)}

/-- A loop ends if every turn that goes on lowers a measure. -/
theorem exists_runs (measure : σ → Nat)
    (hnext : ∀ s s', turn s = .ok (.inr s') → measure s' < measure s) (s : σ) :
    ∃ result, Runs turn s result := by
  induction hn : measure s using Nat.strongRecOn generalizing s with
  | ind n ih =>
    cases hturn : turn s with
    | error e => exact ⟨_, .throws hturn⟩
    | ok out =>
      cases out with
      | inl a => exact ⟨_, .leaves hturn⟩
      | inr s' =>
        obtain ⟨result, hresult⟩ := ih (measure s') (hn ▸ hnext s s' hturn) s' rfl
        exact ⟨result, .next hturn hresult⟩

/-- A function that counts the turns down computes the result of the loop. -/
theorem runs_of_countdown {f : Nat → σ → Except ε α} (count : σ → Nat)
    (hzero : ∀ s, count s = 0 → turn s = (f 0 s).map .inl)
    (hsucc : ∀ n s, count s = n + 1 → f (n + 1) s = turn s >>= Sum.elim pure (f n))
    (hnext : ∀ n s s', count s = n + 1 → turn s = .ok (.inr s') → count s' = n) (n : Nat) :
    ∀ s, count s = n → Runs turn s (f n s) := by
  induction n with
  | zero =>
    intro s hcount
    have hturn := hzero s hcount
    cases hf : f 0 s with
    | error e =>
      rw [hf] at hturn
      exact .throws hturn
    | ok a =>
      rw [hf] at hturn
      exact .leaves hturn
  | succ n ih =>
    intro s hcount
    rw [hsucc n s hcount]
    cases hturn : turn s with
    | error e => exact .throws hturn
    | ok out =>
      cases out with
      | inl a => exact .leaves hturn
      | inr s' => exact .next hturn (ih s' (hnext n s s' hcount hturn))

/-- What every turn keeps holds where the loop is left. -/
theorem Runs.invariant {s : σ} {a : α} (h : Runs turn s (.ok a)) {inv : σ → Prop} {post : α → Prop}
    (hnext : ∀ s s', inv s → turn s = .ok (.inr s') → inv s')
    (hleave : ∀ s a, inv s → turn s = .ok (.inl a) → post a) (hs : inv s) : post a := by
  generalize hresult : Except.ok a = result at h
  induction h with
  | throws _ => cases hresult
  | leaves hturn =>
    cases hresult
    exact hleave _ _ hs hturn
  | next hturn _ ih => exact ih (hnext _ _ hs hturn) hresult

/-- A loop that goes on from every state of an invariant has no result. -/
theorem not_runs_of_invariant {inv : σ → Prop}
    (hnext : ∀ s, inv s → ∃ s', turn s = .ok (.inr s') ∧ inv s') {s : σ} (hs : inv s)
    (result : Except ε α) : ¬ Runs turn s result := by
  intro h
  induction h with
  | throws hturn | leaves hturn =>
    obtain ⟨s', hgoes, -⟩ := hnext _ hs
    cases hgoes.symm.trans hturn
  | next hturn _ ih =>
    obtain ⟨s', hgoes, hs'⟩ := hnext _ hs
    cases hgoes.symm.trans hturn
    exact ih hs'

end WhileLoop
