import Mathlib.Data.List.Infix

/-!
# Runs of a total step function

`after step s events` is the state after some events.  `Always` says that a
property holds after every event of a run, and `Each` that every event of a run
finds a state that it is allowed in.  `always_iff_each` turns one into the other
when a single step does.
-/

namespace Trace

variable {S E : Type*} {step : S → E → S} {s : S}

/-- The state after some events. -/
def after (step : S → E → S) (s : S) (events : List E) : S := events.foldl step s

/-- `P` holds at the start of a run and after each of its events. -/
def Always (step : S → E → S) (s : S) (P : S → Prop) (events : List E) : Prop :=
  ∀ before, before <+: events → P (after step s before)

/-- `Q` holds of each event of a run and the state that it finds. -/
def Each (step : S → E → S) (s : S) (Q : S → E → Prop) (events : List E) : Prop :=
  ∀ before e, before ++ [e] <+: events → Q (after step s before) e

@[simp] theorem after_nil : after step s [] = s := rfl

@[simp] theorem after_cons (e : E) (events : List E) :
    after step s (e :: events) = after step (step s e) events := rfl

theorem after_snoc (events : List E) (e : E) :
    after step s (events ++ [e]) = step (after step s events) e := by
  rw [after, List.foldl_append]
  rfl

theorem after_append (before events : List E) :
    after step s (before ++ events) = after step (after step s before) events :=
  List.foldl_append

/-- What holds at the start and what every step keeps holds after every run. -/
theorem invariant {I : S → Prop} (hinit : I s) (hstep : ∀ s e, I s → I (step s e))
    (events : List E) : I (after step s events) := by
  induction events generalizing s with
  | nil => exact hinit
  | cons e events ih => exact ih (hstep s e hinit)

variable {P : S → Prop} {Q : S → E → Prop} {events : List E}

theorem Always.last (h : Always step s P events) : P (after step s events) :=
  h events (List.prefix_refl events)

@[simp] theorem always_nil : Always step s P [] ↔ P s := by
  constructor
  · exact Always.last
  · intro h before hbefore
    rw [List.prefix_nil.mp hbefore]
    exact h

theorem always_snoc {e : E} :
    Always step s P (events ++ [e]) ↔
      Always step s P events ∧ P (step (after step s events) e) := by
  constructor
  · intro h
    refine ⟨fun before hbefore => h before (hbefore.trans (List.prefix_append _ _)), ?_⟩
    have hlast := h.last
    rwa [after_snoc] at hlast
  · rintro ⟨h, hlast⟩ before hbefore
    rcases List.prefix_concat_iff.mp hbefore with rfl | hbefore
    · rwa [after_snoc]
    · exact h before hbefore

@[simp] theorem each_nil : Each step s Q [] := by
  intro before e hbefore
  have hlength := hbefore.length_le
  simp at hlength

theorem each_cons {e : E} :
    Each step s Q (e :: events) ↔ Q s e ∧ Each step (step s e) Q events := by
  constructor
  · intro h
    refine ⟨h [] e (by simp), fun before a hbefore => h (e :: before) a ?_⟩
    exact List.cons_prefix_cons.mpr ⟨rfl, hbefore⟩
  · rintro ⟨hfirst, h⟩ before a hbefore
    cases before with
    | nil =>
      cases (List.cons_prefix_cons.mp hbefore).1
      exact hfirst
    | cons b before =>
      obtain ⟨rfl, hrest⟩ := List.cons_prefix_cons.mp hbefore
      exact h before a hrest

theorem each_append {before : List E} :
    Each step s Q (before ++ events) ↔
      Each step s Q before ∧ Each step (after step s before) Q events := by
  induction before generalizing s with
  | nil => simp
  | cons e before ih => rw [List.cons_append, each_cons, ih, each_cons, and_assoc, after_cons]

theorem each_snoc {e : E} :
    Each step s Q (events ++ [e]) ↔ Each step s Q events ∧ Q (after step s events) e := by
  constructor
  · intro h
    exact ⟨fun before a hbefore => h before a (hbefore.trans (List.prefix_append _ _)),
      h events e (List.prefix_refl _)⟩
  · rintro ⟨h, hlast⟩ before a hbefore
    rcases List.prefix_concat_iff.mp hbefore with heq | hbefore
    · obtain ⟨rfl, ha⟩ := List.append_inj' heq rfl
      cases ha
      exact hlast
    · exact h before a hbefore

/-- What holds at the start and what every allowed step keeps holds along an allowed run. -/
theorem always_of_each (hinit : P s) (hstep : ∀ s e, P s → Q s e → P (step s e))
    (h : Each step s Q events) : Always step s P events := by
  induction events using List.reverseRecOn with
  | nil => exact always_nil.mpr hinit
  | append_singleton events e ih =>
    obtain ⟨hbefore, hlast⟩ := each_snoc.mp h
    have halways := ih hbefore
    exact always_snoc.mpr ⟨halways, hstep _ e halways.last hlast⟩

/-- A property that one step keeps if and only if `Q` allows the step holds along
a run if and only if `Q` allows all of the run.  The invariant `I` is what the
step lemma may use. -/
theorem always_iff_each {I : S → Prop} (hI : I s) (hkeep : ∀ s e, I s → I (step s e))
    (hinit : P s) (hstep : ∀ s e, I s → P s → (P (step s e) ↔ Q s e)) (events : List E) :
    Always step s P events ↔ Each step s Q events := by
  induction events using List.reverseRecOn with
  | nil => simp [hinit]
  | append_singleton events e ih =>
    rw [always_snoc, each_snoc, ← ih]
    refine and_congr_right fun halways => ?_
    exact hstep _ e (invariant hI hkeep events) halways.last

/-- A property that a step keeps if and only if `Q` allows the step, and that no
step makes true, holds after a run if and only if `Q` allows all of the run. -/
theorem after_iff_each {I : S → Prop} (hI : I s) (hkeep : ∀ s e, I s → I (step s e))
    (hinit : P s) (hstep : ∀ s e, I s → (P (step s e) ↔ P s ∧ Q s e)) (events : List E) :
    P (after step s events) ↔ Each step s Q events := by
  induction events using List.reverseRecOn with
  | nil => simp [hinit]
  | append_singleton events e ih =>
    rw [after_snoc, each_snoc, ← ih]
    exact hstep _ e (invariant hI hkeep events)

end Trace
