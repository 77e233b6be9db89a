import Mathlib.Data.List.AList
import Mathlib.Data.List.Nodup

/-!
# Registries: maps with a log

A registry files entries under a key and keeps a log of what it has filed.  The
log is a list that only grows at its end, and the map is an `AList`.

* `mem_snoc`, `nodup_snoc` and `nodup_map_snoc` say what a log holds after one
  more item.
* `find_of_key` finds an item by a key that no other item has.
* `lookup_insert_eq_some` and `lookup_erase_eq_some` say where an entry of the
  new map comes from, and `lookup_foldl_erase` and `lookup_foldl_insert` what is
  left when many keys are erased, or all get the same value.
-/

namespace Registry

section Log

variable {α β : Type}

variable {l : List α}

theorem mem_snoc {a b : α} : a ∈ l ++ [b] ↔ a ∈ l ∨ a = b := by
  rw [List.mem_append, List.mem_singleton]

theorem nodup_snoc {a : α} : (l ++ [a]).Nodup ↔ a ∉ l ∧ l.Nodup := by
  rw [List.nodup_append_comm, List.singleton_append, List.nodup_cons]

theorem nodup_map_snoc {f : α → β} {a : α} :
    ((l ++ [a]).map f).Nodup ↔ (∀ b ∈ l, f b ≠ f a) ∧ (l.map f).Nodup := by
  rw [List.map_append, List.map_singleton, nodup_snoc, List.mem_map]
  simp

theorem find_of_key {f : α → β} [DecidableEq β] {a : α} (ha : a ∈ l)
    (hkey : ∀ b ∈ l, f b = f a → b = a) : (l.find? fun b => f b = f a) = some a := by
  cases hfind : l.find? fun b => f b = f a with
  | none =>
    have hnone := List.find?_eq_none.mp hfind a ha
    simp at hnone
  | some b =>
    have hb : f b = f a := by simpa using List.find?_some hfind
    rw [hkey b (List.mem_of_find?_eq_some hfind) hb]

end Log

section Map

variable {K V : Type} [DecidableEq K] {m : AList fun _ : K => V} {k k' : K} {v v' : V}

theorem lookup_insert_eq_some :
    (m.insert k v).lookup k' = some v' ↔ k' = k ∧ v = v' ∨ k' ≠ k ∧ m.lookup k' = some v' := by
  by_cases hk : k' = k
  · subst hk
    rw [AList.lookup_insert]
    simp
  · rw [AList.lookup_insert_ne hk]
    simp [hk]

theorem lookup_erase_eq_some :
    (m.erase k).lookup k' = some v ↔ k' ≠ k ∧ m.lookup k' = some v := by
  by_cases hk : k' = k
  · subst hk
    rw [AList.lookup_erase]
    simp
  · rw [AList.lookup_erase_ne hk]
    simp [hk]

theorem lookup_erase_eq_none (h : m.lookup k' = none) (k : K) :
    (m.erase k).lookup k' = none := by
  by_cases hk : k' = k
  · rw [hk, AList.lookup_erase]
  · rw [AList.lookup_erase_ne hk, h]

theorem lookup_foldl_erase (m : AList fun _ : K => V) (ks : List K) (k : K) :
    (ks.foldl (fun m k => m.erase k) m).lookup k = if k ∈ ks then none else m.lookup k := by
  induction ks generalizing m with
  | nil => simp
  | cons k' ks ih =>
    rw [List.foldl_cons, ih]
    by_cases hk : k = k'
    · subst hk
      simp
    · simp [hk, AList.lookup_erase_ne hk]

theorem lookup_foldl_insert (m : AList fun _ : K => V) (ks : List K) (v : V) (k : K) :
    (ks.foldl (fun m k => m.insert k v) m).lookup k = if k ∈ ks then some v else m.lookup k := by
  induction ks generalizing m with
  | nil => simp
  | cons k' ks ih =>
    rw [List.foldl_cons, ih]
    by_cases hk : k = k'
    · subst hk
      simp
    · simp [hk, AList.lookup_insert_ne hk]

end Map

end Registry
