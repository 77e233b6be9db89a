import Mathlib.Data.List.Chain
import Mathlib.Data.List.Count
import Mathlib.Data.List.Basic
import Mathlib.Logic.Function.Basic

/-!
# Interleavings of keyed streams

Several streams share one wire.  Every item carries the key of its stream, and
an interleaving is any list whose `part` at each key is the stream of that
key.

* `run` runs an automaton that may reject an item.  `keyedStep` runs one copy
  of the automaton per key, each item moving the copy of its own key.
* `run_invariant` and `run_total`: what every step preserves or adds, over a run.
* `leads_foldl`: a run that follows another machine call by call follows all its calls.
* `run_keyed`: when every part is accepted on its own, the interleaving is
  accepted, and every copy ends where its part ends.  A property of an
  interleaving is therefore proved one stream at a time.
* `perm_of_part_eq`: lists with the same parts are permutations of each other.
* `exists_blocks`: streams made of blocks, whose interleaving changes between
  streams only where a block starts, are an interleaving of the blocks.
-/

namespace Interleave

variable {K ι S : Type}

/-- Run an automaton over a list of items; `none` is a rejected item. -/
def run (step : S → ι → Option S) : S → List ι → Option S
  | s, [] => some s
  | s, a :: w =>
      match step s a with
      | none => none
      | some s' => run step s' w

variable {step : S → ι → Option S} {k : K} {a : ι} {w : List ι}

theorem run_cons_of_step {s s' : S} (h : step s a = some s') (w : List ι) :
    run step s (a :: w) = run step s' w := by
  rw [run, h]

theorem run_cons_eq_some {s s'' : S} (h : run step s (a :: w) = some s'') :
    ∃ s', step s a = some s' ∧ run step s' w = some s'' := by
  rw [run] at h
  cases hstep : step s a with
  | none => rw [hstep] at h; cases h
  | some s' => rw [hstep] at h; exact ⟨s', rfl, h⟩

theorem run_append (step : S → ι → Option S) (u v : List ι) :
    ∀ s, run step s (u ++ v) = (run step s u).bind fun s' => run step s' v := by
  induction u with
  | nil => intro s; rfl
  | cons a u ih =>
    intro s
    rw [List.cons_append, run, run]
    cases step s a with
    | none => rfl
    | some s' => exact ih s'

/-- What every step preserves, a run preserves. -/
theorem run_invariant {P : S → Prop} (hstep : ∀ s a s', P s → step s a = some s' → P s')
    (w : List ι) :
    ∀ s s', P s → run step s w = some s' → P s' := by
  induction w with
  | nil =>
    intro s s' hs h
    cases h
    exact hs
  | cons a w ih =>
    intro s s'' hs h
    obtain ⟨s', hs', hw⟩ := run_cons_eq_some h
    exact ih s' s'' (hstep s a s' hs hs') hw

section Leads

variable {M : Type} {visible : ι → Bool} {R R' : M → S → Prop} {t t' : List ι} {m m' : M} {s : S}

/-- Some items lead from `s` to a state that stands for `m`, and `t` are the visible ones. -/
def Leads (step : S → ι → Option S) (visible : ι → Bool) (R : M → S → Prop) (t : List ι) (m : M)
    (s : S) : Prop :=
  ∃ w s', run step s w = some s' ∧ w.filter visible = t ∧ R m s'

theorem Leads.refl (h : R m s) : Leads step visible R [] m s := ⟨[], s, rfl, rfl, h⟩

theorem Leads.trans (h : Leads step visible R t m s)
    (hnext : ∀ s', R m s' → Leads step visible R' t' m' s') :
    Leads step visible R' (t ++ t') m' s := by
  obtain ⟨u, s₁, hfirst, rfl, hrest⟩ := h
  obtain ⟨v, s₂, hsecond, rfl, hrest⟩ := hnext s₁ hrest
  refine ⟨u ++ v, s₂, ?_, List.filter_append .., hrest⟩
  rw [run_append, hfirst]
  exact hsecond

/-- A machine that can follow each call of another one can follow all of them. -/
theorem leads_foldl {C : Type} {next : M → C → M} {trace : C → List ι}
    (hnext : ∀ m s c, R m s → Leads step visible R (trace c) (next m c) s) (calls : List C)
    (h : R m s) : Leads step visible R (calls.flatMap trace) (calls.foldl next m) s := by
  induction calls generalizing m s with
  | nil => exact .refl h
  | cons c calls ih => exact (hnext m s c h).trans fun _ => ih

end Leads

section Keyed

variable [DecidableEq K] (key : ι → K)

/-- The items of one key. -/
def part (w : List ι) (k : K) : List ι := w.filter fun a => key a = k

@[simp] theorem part_nil (k : K) : part key [] k = [] := rfl

theorem part_cons_self (a : ι) (w : List ι) :
    part key (a :: w) (key a) = a :: part key w (key a) := by
  simp [part]

theorem part_cons_of_ne (h : key a ≠ k) (w : List ι) :
    part key (a :: w) k = part key w k := by
  simp [part, h]

theorem part_eq_nil (h : ∀ a ∈ w, key a ≠ k) : part key w k = [] := by
  rw [part, List.filter_eq_nil_iff]
  intro a ha
  simpa using h a ha

/-- One copy of the automaton per key. -/
def keyedStep (step : S → ι → Option S) (σ : K → S) (a : ι) : Option (K → S) :=
  (step (σ (key a)) a).map fun s => Function.update σ (key a) s

/-- An interleaving is accepted when each of its parts is. -/
theorem run_keyed (step : S → ι → Option S) (w : List ι) :
    ∀ {σ σ' : K → S}, (∀ k, run step (σ k) (part key w k) = some (σ' k)) →
      run (keyedStep key step) σ w = some σ' := by
  induction w with
  | nil =>
    intro σ σ' h
    have hsame : σ = σ' := by
      funext k
      simpa [run] using h k
    rw [run, hsame]
  | cons a w ih =>
    intro σ σ' h
    have hown := h (key a)
    rw [part_cons_self] at hown
    obtain ⟨s, hstep, hrest⟩ := run_cons_eq_some hown
    have hkeyed : keyedStep key step σ a = some (Function.update σ (key a) s) := by
      rw [keyedStep, hstep]
      rfl
    rw [run_cons_of_step hkeyed]
    apply ih
    intro k
    by_cases hk : key a = k
    · subst hk
      rw [Function.update_self]
      exact hrest
    · rw [Function.update_of_ne (Ne.symm hk), ← part_cons_of_ne key hk]
      exact h k

/-- Lists with the same parts have the same items, each the same number of
times. -/
theorem perm_of_part_eq {u v : List ι} (h : ∀ k, part key u k = part key v k) : u.Perm v := by
  classical
  rw [List.perm_iff_count]
  intro a
  have hcount : ∀ w : List ι, (part key w (key a)).count a = w.count a := by
    intro w
    exact List.count_filter (by simp)
  rw [← hcount u, ← hcount v, h]

theorem part_append (u v : List ι) (k : K) : part key (u ++ v) k = part key u k ++ part key v k :=
  List.filter_append ..

theorem part_eq_self (h : ∀ a ∈ w, key a = k) : part key w k = w := by
  rw [part, List.filter_eq_self]
  intro a ha
  simpa using h a ha

/-- A coarser key does not change the items of a finer one. -/
theorem part_part {L : Type} [DecidableEq L] {coarse : ι → L} {l : L}
    (h : ∀ a, key a = k → coarse a = l) (w : List ι) :
    part key (part coarse w l) k = part key w k := by
  rw [part, part, part, List.filter_filter]
  apply List.filter_congr
  intro a _
  by_cases hk : key a = k
  · simp [hk, h a hk]
  · simp [hk]

end Keyed

section Blocks

variable [DecidableEq K] {key : ι → K} {starts : ι → Prop}

/-- An item behind an item of another stream starts a block. -/
def SwitchesAtStarts (key : ι → K) (starts : ι → Prop) (w : List ι) : Prop :=
  w.IsChain fun a b => key a ≠ key b → starts b

/-- The next item of a stream that another stream has interrupted. -/
theorem starts_of_interrupted {x : ι} {p : List ι} (w : List ι) (ha : key a ≠ k)
    (hw : SwitchesAtStarts key starts (a :: w)) (hpart : part key w k = x :: p) : starts x := by
  induction w generalizing a with
  | nil => cases hpart
  | cons b w ih =>
    obtain ⟨hab, hrest⟩ := List.isChain_cons_cons.mp hw
    by_cases hb : key b = k
    · subst hb
      rw [part_cons_self] at hpart
      cases hpart
      exact hab ha
    · rw [part_cons_of_ne key hb] at hpart
      exact ih hb hrest hpart

/-- The items inside a block follow each other. -/
theorem exists_append_of_part {p : List ι} (inner : List ι) :
    ∀ {a : ι} {w : List ι}, SwitchesAtStarts key starts (a :: w) → (∀ x ∈ inner, ¬ starts x) →
      part key w k = inner ++ p → ∃ v, w = inner ++ v ∧ part key v k = p := by
  induction inner with
  | nil => exact fun {_ w} _ _ hpart => ⟨w, rfl, hpart⟩
  | cons x inner ih =>
    intro a w hw hinner hpart
    cases w with
    | nil => cases hpart
    | cons b w =>
      have hrest := (List.isChain_cons_cons.mp hw).2
      by_cases hb : key b = k
      · subst hb
        rw [part_cons_self] at hpart
        obtain ⟨rfl, htail⟩ := List.cons.inj hpart
        obtain ⟨v, rfl, hv⟩ := ih hrest (fun y hy => hinner y (.tail _ hy)) htail
        exact ⟨v, rfl, hv⟩
      · rw [part_cons_of_ne key hb] at hpart
        exact absurd (starts_of_interrupted w hb hrest hpart) (hinner x (.head _))

variable {B : Type} {blockKey : B → K} (first : B → ι) (inner : B → List ι)

/-- The streams behind the first block of one of them. -/
theorem part_of_block (hkey : ∀ b, ∀ a ∈ inner b, key a = blockKey b) {v : List ι} {b : B}
    (hb : blockKey b = key a) {programs : K → List B} {rest : List B}
    (hparts : ∀ k, part key (a :: (inner b ++ v)) k =
      (programs k).flatMap fun b => first b :: inner b)
    (hv : part key v (key a) = rest.flatMap fun b => first b :: inner b) (k : K) :
    part key v k =
      (Function.update programs (key a) rest k).flatMap fun b => first b :: inner b := by
  by_cases hka : k = key a
  · subst hka
    rw [Function.update_self]
    exact hv
  · have hother : part key (inner b) k = [] := by
      apply part_eq_nil
      intro x hx hxk
      exact hka (hxk.symm.trans ((hkey b x hx).trans hb))
    rw [Function.update_of_ne hka, ← hparts k, part_cons_of_ne key (Ne.symm hka), part_append,
      hother, List.nil_append]

/-- Streams of blocks whose interleaving changes between streams only where a
block starts are an interleaving of the blocks. -/
theorem exists_blocks (hkey : ∀ b, ∀ a ∈ inner b, key a = blockKey b)
    (hinner : ∀ b, ∀ a ∈ inner b, ¬ starts a) (n : Nat) :
    ∀ {w : List ι} {programs : K → List B}, w.length ≤ n →
      (∀ k, ∀ b ∈ programs k, blockKey b = k) →
      (∀ k, part key w k = (programs k).flatMap fun b => first b :: inner b) →
      SwitchesAtStarts key starts w →
      ∃ bs : List B, w = (bs.flatMap fun b => first b :: inner b) ∧
        ∀ k, part blockKey bs k = programs k := by
  induction n with
  | zero =>
    intro w programs hlen hown hparts hw
    have hnil : w = [] := List.length_eq_zero_iff.mp (by omega)
    subst hnil
    refine ⟨[], rfl, ?_⟩
    intro k
    have hk := hparts k
    cases hp : programs k with
    | nil => rfl
    | cons b rest =>
      rw [hp] at hk
      cases hk
  | succ n ih =>
    intro w programs hlen hown hparts hw
    cases w with
    | nil => exact ih (Nat.zero_le _) hown hparts hw
    | cons a w =>
      have hk := hparts (key a)
      rw [part_cons_self] at hk
      cases hp : programs (key a) with
      | nil =>
        rw [hp] at hk
        cases hk
      | cons b rest =>
        rw [hp, List.flatMap_cons] at hk
        obtain ⟨ha, htail⟩ := List.cons.inj hk
        obtain ⟨v, rfl, hv⟩ := exists_append_of_part (inner b) hw (hinner b) htail
        have hb : blockKey b = key a := hown (key a) b (by rw [hp]; exact .head _)
        have hsuffix : v <:+ a :: (inner b ++ v) := ⟨a :: inner b, rfl⟩
        have hshort : v.length ≤ n := by
          rw [List.length_cons, List.length_append] at hlen
          omega
        obtain ⟨bs, rfl, hbs⟩ := @ih v (Function.update programs (key a) rest) hshort
          (by
            intro k c hc
            by_cases hka : k = key a
            · subst hka
              rw [Function.update_self] at hc
              exact hown _ c (by rw [hp]; exact .tail _ hc)
            · rw [Function.update_of_ne hka] at hc
              exact hown k c hc)
          (part_of_block first inner hkey hb hparts hv) (hw.suffix hsuffix)
        refine ⟨b :: bs, ?_, ?_⟩
        · rw [List.flatMap_cons, ha]
          rfl
        · intro k
          by_cases hka : k = key a
          · subst hka
            rw [← hb, part_cons_self, hb, hbs, Function.update_self, hp]
          · have hne : blockKey b ≠ k := fun h => hka (h.symm.trans hb)
            rw [part_cons_of_ne blockKey hne, hbs, Function.update_of_ne hka]

end Blocks

end Interleave
