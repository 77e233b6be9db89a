import Mathlib.Computability.Language

/-!
# Backtracking regular expressions

Regular expressions with capturing groups, and a matcher that tries the
alternatives of a repetition in order, the longest first.  `run r s k` matches
`r` at `s` and leaves the rest to the continuation `k`; if `k` fails, the next
alternative is tried.

* `run_sound`: what is matched is a word of the language of the expression.
* `First`: the first alternative leaves a given state.  If the continuation
  succeeds there, the others are not tried, so the groups are those of the first
  alternative.  The rules for it follow the expression.
-/

/-- Regular expressions over the elements `α`. -/
inductive Regex (α : Type) where
  /-- one element of a class -/
  | char (p : α → Bool)
  /-- nothing, where the test of the position and of what is left passes -/
  | assert (p : (atStart : Bool) → (rest : List α) → Bool)
  | seq (r r' : Regex α)
  /-- greedy repetition -/
  | star (r : Regex α)
  /-- a capturing group -/
  | group (n : Nat) (r : Regex α)

namespace Regex

variable {α β : Type}

/-- Where the matcher is, and what the groups have captured. -/
structure State (α : Type) where
  atStart : Bool
  rest : List α
  groups : Nat → Option (List α)

/-- A repetition: one more turn, or the continuation.  A turn that takes nothing is the last
one. -/
def starLoop (body : State α → (State α → Option β) → Option β) :
    (turns : Nat) → State α → (State α → Option β) → Option β
  | 0, s, k => k s
  | turns + 1, s, k =>
      (body s fun s' =>
        if s'.rest.length < s.rest.length then starLoop body turns s' k else k s').or (k s)

/-- Match the expression and go on with the continuation. -/
def run : Regex α → State α → (State α → Option β) → Option β
  | char p, s, k =>
      match s.rest with
      | [] => none
      | c :: rest => if p c then k { s with atStart := false, rest } else none
  | assert p, s, k => if p s.atStart s.rest then k s else none
  | seq r r', s, k => run r s fun s' => run r' s' k
  | star r, s, k => starLoop (run r) (s.rest.length + 1) s k
  | group n r, s, k => run r s fun s' =>
      k { s' with
          groups := Function.update s'.groups n
            (some (s.rest.take (s.rest.length - s'.rest.length))) }

/-- The groups of a match of the whole input. -/
def wholeMatch (r : Regex α) (input : List α) : Option (Nat → Option (List α)) :=
  r.run ⟨true, input, fun _ => none⟩ fun s => if s.rest.isEmpty then some s.groups else none

/-- One or more. -/
def plus (r : Regex α) : Regex α := seq r (star r)

/-- The given elements. -/
def literal [BEq α] : List α → Regex α
  | [] => assert fun _ _ => true
  | c :: text => seq (char (· == c)) (literal text)

/-- With more turns than there are elements left, the number of turns does not matter. -/
theorem starLoop_turns (body : State α → (State α → Option β) → Option β)
    (k : State α → Option β) (turns : Nat) :
    ∀ {turns' : Nat} {s : State α}, s.rest.length < turns → s.rest.length < turns' →
      starLoop body turns s k = starLoop body turns' s k := by
  induction turns with
  | zero => exact fun h => absurd h (Nat.not_lt_zero _)
  | succ turns ih =>
    intro turns' s h h'
    obtain ⟨turns', rfl⟩ : ∃ n, turns' = n + 1 := ⟨turns' - 1, by omega⟩
    have hnext : (fun s' : State α =>
        if s'.rest.length < s.rest.length then starLoop body turns s' k else k s') =
        fun s' => if s'.rest.length < s.rest.length then starLoop body turns' s' k else k s' := by
      funext s'
      split_ifs with hlt
      · exact ih (by omega) (by omega)
      · rfl
    rw [starLoop, starLoop, hnext]

/-- A repetition unfolds to one more turn or the continuation. -/
theorem run_star (r : Regex α) (s : State α) (k : State α → Option β) :
    run (star r) s k =
      (run r s fun s' => if s'.rest.length < s.rest.length then run (star r) s' k else k s').or
        (k s) := by
  have hnext : (fun s' : State α =>
      if s'.rest.length < s.rest.length then starLoop (run r) s.rest.length s' k else k s') =
      fun s' => if s'.rest.length < s.rest.length then run (star r) s' k else k s' := by
    funext s'
    split_ifs with hlt
    · exact starLoop_turns (run r) k _ hlt (Nat.lt_succ_self _)
    · rfl
  rw [run, starLoop, hnext]

/-! ## Soundness -/

/-- The words of an expression. -/
def language : Regex α → Language α
  | char p => {w | ∃ c, p c = true ∧ w = [c]}
  | assert _ => 1
  | seq r r' => r.language * r'.language
  | star r => KStar.kstar r.language
  | group _ r => r.language

variable {w : List α} {p : α → Bool} {r : Regex α}

theorem append_mem_kstar {l : Language α} {w' : List α} (hw : w ∈ l) (hw' : w' ∈ KStar.kstar l) :
    w ++ w' ∈ KStar.kstar l := by
  have hle : l * KStar.kstar l ≤ KStar.kstar l := mul_kstar_le_kstar
  exact hle (Language.append_mem_mul hw hw')

/-- A match takes a word of the expression and succeeds behind it. -/
def Sound (l : Language α) (x : State α → (State α → Option β) → Option β) : Prop :=
  ∀ s k b, x s k = some b → ∃ w s', s.rest = w ++ s'.rest ∧ w ∈ l ∧ k s' = some b

theorem sound_starLoop {l : Language α} {body : State α → (State α → Option β) → Option β}
    (h : Sound l body) (turns : Nat) : Sound (KStar.kstar l) (starLoop body turns) := by
  induction turns with
  | zero => exact fun s k b hk => ⟨[], s, rfl, Language.nil_mem_kstar l, hk⟩
  | succ turns ih =>
    intro s k b hrun
    rw [starLoop, Option.or_eq_some_iff] at hrun
    rcases hrun with hturn | ⟨-, hk⟩
    · obtain ⟨w, s₁, hsplit, hw, hrest⟩ := h _ _ _ hturn
      split_ifs at hrest
      · obtain ⟨w', s', hsplit', hw', hk⟩ := ih _ _ _ hrest
        refine ⟨w ++ w', s', ?_, append_mem_kstar hw hw', hk⟩
        rw [hsplit, hsplit', List.append_assoc]
      · refine ⟨w, s₁, hsplit, ?_, hrest⟩
        have hall := append_mem_kstar hw (Language.nil_mem_kstar l)
        rw [List.append_nil] at hall
        exact hall
    · exact ⟨[], s, rfl, Language.nil_mem_kstar l, hk⟩

theorem run_sound (r : Regex α) :
    Sound r.language (run r : State α → (State α → Option β) → _) := by
  induction r with
  | char p =>
    intro s k b hrun
    rw [run] at hrun
    cases hrest : s.rest with
    | nil =>
      rw [hrest] at hrun
      cases hrun
    | cons c rest =>
      rw [hrest] at hrun
      dsimp only at hrun
      split_ifs at hrun with hp
      exact ⟨[c], _, rfl, ⟨c, hp, rfl⟩, hrun⟩
  | assert p =>
    intro s k b hrun
    rw [run] at hrun
    split_ifs at hrun
    exact ⟨[], s, rfl, rfl, hrun⟩
  | seq r r' ih ih' =>
    intro s k b hrun
    rw [run] at hrun
    obtain ⟨w, s₁, hsplit, hw, hrest⟩ := ih _ _ _ hrun
    obtain ⟨w', s', hsplit', hw', hk⟩ := ih' _ _ _ hrest
    refine ⟨w ++ w', s', ?_, Language.append_mem_mul hw hw', hk⟩
    rw [hsplit, hsplit', List.append_assoc]
  | star r ih =>
    intro s k b hrun
    rw [run] at hrun
    exact sound_starLoop ih _ s k b hrun
  | group n r ih =>
    intro s k b hrun
    rw [run] at hrun
    obtain ⟨w, s', hsplit, hw, hk⟩ := ih _ _ _ hrun
    refine ⟨w, _, ?_, hw, hk⟩
    exact hsplit

/-- A match of the whole input makes it a word of the expression. -/
theorem mem_language_of_wholeMatch {input : List α} {groups : Nat → Option (List α)}
    (h : r.wholeMatch input = some groups) : input ∈ r.language := by
  obtain ⟨w, s', hsplit, hw, hend⟩ := run_sound r _ _ _ h
  dsimp only at hsplit hend
  split_ifs at hend with hempty
  rw [List.isEmpty_iff.mp hempty, List.append_nil] at hsplit
  rw [hsplit]
  exact hw

/-! ## Words -/

theorem mem_language_assert {p : Bool → List α → Bool} :
    w ∈ (assert p).language ↔ w = [] := Language.mem_one w

theorem mem_language_seq {r' : Regex α} :
    w ∈ (seq r r').language ↔ ∃ a ∈ r.language, ∃ b ∈ r'.language, a ++ b = w := Language.mem_mul

theorem mem_language_star :
    w ∈ (star r).language ↔ ∃ words : List (List α), w = words.flatten ∧
      ∀ y ∈ words, y ∈ r.language := Language.mem_kstar

theorem mem_language_group {n : Nat} :
    w ∈ (group n r).language ↔ w ∈ r.language := Iff.rfl

/-- A word of a sequence starts with the character that comes first. -/
theorem exists_of_mem_seq_char [BEq α] [LawfulBEq α] {c : α}
    (h : w ∈ (seq (char (· == c)) r).language) : ∃ b ∈ r.language, w = c :: b := by
  obtain ⟨a, ⟨c', hc, rfl⟩, b, hb, rfl⟩ := mem_language_seq.mp h
  rw [beq_iff_eq] at hc
  subst hc
  exact ⟨b, hb, rfl⟩

theorem forall_of_mem_star_char (h : w ∈ (star (char p)).language) :
    ∀ c ∈ w, p c = true := by
  obtain ⟨words, rfl, hwords⟩ := mem_language_star.mp h
  intro c hc
  obtain ⟨word, hword, hmem⟩ := List.mem_flatten.mp hc
  obtain ⟨c', hp, rfl⟩ := hwords word hword
  rw [List.mem_singleton.mp hmem]
  exact hp

theorem of_mem_plus_char (h : w ∈ (plus (char p)).language) :
    w ≠ [] ∧ ∀ c ∈ w, p c = true := by
  obtain ⟨a, ⟨c, hp, rfl⟩, b, hb, rfl⟩ := mem_language_seq.mp h
  refine ⟨List.cons_ne_nil _ _, ?_⟩
  intro c' hc'
  rcases List.mem_cons.mp hc' with rfl | hc'
  · exact hp
  · exact forall_of_mem_star_char hb c' hc'

theorem eq_of_mem_literal [BEq α] [LawfulBEq α] {text : List α} (h : w ∈ (literal text).language) :
    w = text := by
  induction text generalizing w with
  | nil => exact mem_language_assert.mp h
  | cons c text ih =>
    obtain ⟨b, hb, rfl⟩ := exists_of_mem_seq_char h
    rw [ih hb]

/-! ## The first alternative -/

/-- The first alternative leaves `s'`: what succeeds there is the result. -/
def First (r : Regex α) (s s' : State α) : Prop :=
  ∀ (β : Type) (k : State α → Option β) (b : β), k s' = some b → run r s k = some b

variable {s s' s'' : State α} {r r' : Regex α} {groups : Nat → Option (List α)}

theorem first_char {c : α} (h : p c = true) (atStart : Bool) (rest : List α) :
    First (char p) ⟨atStart, c :: rest, groups⟩ ⟨false, rest, groups⟩ := by
  intro β k b hk
  rw [run]
  dsimp only
  rw [if_pos h, hk]

theorem first_assert {p : Bool → List α → Bool} (h : p s.atStart s.rest = true) :
    First (assert p) s s := by
  intro β k b hk
  rw [run, if_pos h, hk]

theorem First.seq (h : First r s s') (h' : First r' s' s'') : First (seq r r') s s'' := by
  intro β k b hk
  rw [run]
  exact h β _ b (h' β k b hk)

theorem First.group {n : Nat} {rest : List α} {atStart : Bool}
    (h : First r s ⟨atStart, rest, groups⟩) (hs : s.rest = w ++ rest) :
    First (group n r) s ⟨atStart, rest, Function.update groups n (some w)⟩ := by
  intro β k b hk
  rw [run]
  apply h
  dsimp only
  rw [hs, List.length_append, Nat.add_sub_cancel, List.take_left]
  exact hk

/-- One more turn that takes something. -/
theorem First.star_cons (h : First r s s') (hlt : s'.rest.length < s.rest.length)
    (h' : First (star r) s' s'') : First (star r) s s'' := by
  intro β k b hk
  rw [run_star, h β _ b (by rw [if_pos hlt]; exact h' β k b hk)]
  rfl

/-- No more turn. -/
theorem first_star_nil
    (h : ∀ (β : Type) (k : State α → Option β), run r s k = none) : First (star r) s s := by
  intro β k b hk
  rw [run_star, h, hk]
  rfl

theorem run_char_of_head (h : ∀ c rest, s.rest = c :: rest → p c = false) (k : State α → Option β) :
    run (char p) s k = none := by
  rw [run]
  cases hrest : s.rest with
  | nil => rfl
  | cons c rest =>
    dsimp only
    rw [h c rest hrest]
    rfl

/-- A class takes all that belongs to it. -/
theorem first_star_char {rest : List α} (hw : ∀ c ∈ w, p c = true)
    (hrest : ∀ c rest', rest = c :: rest' → p c = false) :
    First (star (char p)) ⟨false, w ++ rest, groups⟩ ⟨false, rest, groups⟩ := by
  induction w with
  | nil => exact first_star_nil fun β k => run_char_of_head hrest k
  | cons c w ih =>
    refine First.star_cons (first_char (hw c List.mem_cons_self) false (w ++ rest)) ?_
      (ih fun c' hc' => hw c' (List.mem_cons_of_mem c hc'))
    exact Nat.lt_succ_self _

theorem first_plus_char {rest : List α} (hne : w ≠ []) (hw : ∀ c ∈ w, p c = true)
    (hrest : ∀ c rest', rest = c :: rest' → p c = false) :
    First (plus (char p)) ⟨false, w ++ rest, groups⟩ ⟨false, rest, groups⟩ := by
  obtain ⟨c, w, rfl⟩ := List.exists_cons_of_ne_nil hne
  exact (first_char (hw c List.mem_cons_self) false (w ++ rest)).seq
    (first_star_char (fun c' hc' => hw c' (List.mem_cons_of_mem c hc')) hrest)

theorem first_literal [BEq α] [LawfulBEq α] {text : List α} (hne : text ≠ []) (atStart : Bool)
    (rest : List α) :
    First (literal text) ⟨atStart, text ++ rest, groups⟩ ⟨false, rest, groups⟩ := by
  induction text generalizing atStart with
  | nil => exact absurd rfl hne
  | cons c text ih =>
    refine (first_char (beq_self_eq_true c) atStart (text ++ rest)).seq ?_
    cases text with
    | nil => exact first_assert rfl
    | cons c' text => exact ih (List.cons_ne_nil _ _) false

/-- A first alternative that takes the whole input gives the groups. -/
theorem wholeMatch_eq_some {input : List α} {atStart : Bool}
    (h : First r ⟨true, input, fun _ => none⟩ ⟨atStart, [], groups⟩) :
    r.wholeMatch input = some groups := h _ _ groups rfl

end Regex
