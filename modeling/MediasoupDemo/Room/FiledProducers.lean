import MediasoupDemo.Room.Producing

/-!
# The producers and the room store

`Filed` is the invariant of the producers of a client: the room store lists the producers
of the two fields, under different ids, and no other producer is open.

It survives the closing of a producer (`Filed.close`), a new producer in an empty field
with a new id (`Filed.produce`), and a transport that is closed and calls the listeners of
exactly its open producers (`Filed.closeTransport`).  A listener clears the field of its
kind, whatever is in it; it is the field of its own producer because no other producer of
that kind is open.
-/

namespace MediasoupDemo.Room

namespace Producing

variable {s : Producing} {kind : MediaKind} {p : Producer}

theorem producer_setProducer (s : Producing) (kind kind' : MediaKind) (p : Option Producer) :
    (s.setProducer kind p).producer kind' = if kind' = kind then p else s.producer kind' := by
  cases kind <;> cases kind' <;> rfl

@[simp] theorem producers_setProducer (s : Producing) (kind : MediaKind) (p : Option Producer) :
    (s.setProducer kind p).producers = s.producers := by
  cases kind <;> rfl

@[simp] theorem created_setProducer (s : Producing) (kind : MediaKind) (p : Option Producer) :
    (s.setProducer kind p).created = s.created := by
  cases kind <;> rfl

@[simp] theorem opened_setProducer (s : Producing) (kind : MediaKind) (p : Option Producer) :
    (s.setProducer kind p).opened = s.opened := by
  cases kind <;> rfl

/-- The store lists the producers of the fields. -/
structure Listed (s : Producing) : Prop where
  ids : ∀ id, id ∈ s.producers ↔ ∃ kind p, s.producer kind = some p ∧ p.id = id
  kind_eq : ∀ kind p, s.producer kind = some p → p.source.kind = kind
  made : ∀ kind p, s.producer kind = some p → p ∈ s.created
  distinct : ∀ kind kind' p q, s.producer kind = some p → s.producer kind' = some q →
    p.id = q.id → kind = kind'

/-- The store lists the producers of the fields, and no other producer is open. -/
structure Filed (s : Producing) : Prop extends s.Listed where
  opened_eq : ∀ p ∈ s.opened, s.producer p.source.kind = some p

theorem filed_empty : Filed {} where
  ids id := by
    constructor
    · intro h
      cases h
    · rintro ⟨kind, p, hp, -⟩
      cases kind <;> cases hp
  kind_eq kind p hp := by cases kind <;> cases hp
  made kind p hp := by cases kind <;> cases hp
  distinct kind kind' p q hp := by cases kind <;> cases hp
  opened_eq p hp := by cases hp

/-! ### A field is cleared -/

/-- A producer is taken out of the store, and its field is cleared. -/
theorem Listed.clear (h : s.Listed) (hp : s.producer kind = some p) :
    ((s.removeProducer p.id).setProducer kind none).Listed := by
  have hfield (kind' : MediaKind) (q : Producer) :
      ((s.removeProducer p.id).setProducer kind none).producer kind' = some q ↔
        kind' ≠ kind ∧ s.producer kind' = some q := by
    rw [producer_setProducer]
    by_cases hkind : kind' = kind
    · simp [hkind]
    · rw [if_neg hkind]
      exact (and_iff_right hkind).symm
  refine ⟨fun id => ?_, fun kind' q hq => ?_, fun kind' q hq => ?_,
    fun k k' q q' hq hq' => ?_⟩
  · rw [producers_setProducer, removeProducer, AList.mem_erase, h.ids]
    constructor
    · rintro ⟨hid, kind', q, hq, rfl⟩
      refine ⟨kind', q, (hfield kind' q).mpr ⟨fun hkind => hid ?_, hq⟩, rfl⟩
      rw [hkind, hp] at hq
      cases hq
      rfl
    · rintro ⟨kind', q, hq, rfl⟩
      obtain ⟨hkind, hq⟩ := (hfield kind' q).mp hq
      exact ⟨fun hid => hkind (h.distinct _ _ _ _ hq hp hid), kind', q, hq, rfl⟩
  · exact h.kind_eq kind' q ((hfield kind' q).mp hq).2
  · rw [created_setProducer]
    exact h.made kind' q ((hfield kind' q).mp hq).2
  · exact h.distinct k k' q q' ((hfield k q).mp hq).2 ((hfield k' q').mp hq').2

/-- A producer is closed, taken out of the store, and its field is cleared. -/
theorem Filed.close (h : s.Filed) (hp : s.producer kind = some p) :
    (((s.close p).removeProducer p.id).setProducer kind none).Filed := by
  have hlisted : (s.close p).Listed := ⟨h.ids, h.kind_eq, h.made, h.distinct⟩
  refine ⟨hlisted.clear hp, fun q hq => ?_⟩
  rw [opened_setProducer] at hq
  obtain ⟨hq, hne⟩ := List.mem_filter.mp hq
  have hopen := h.opened_eq q hq
  rw [producer_setProducer, if_neg]
  · exact hopen
  · intro hkind
    rw [hkind, hp] at hopen
    cases hopen
    simp at hne

/-! ### A producer is made -/

/-- The producer that is made next. -/
def next (s : Producing) (source : Source) (transport : Nat) (id : String) : Producer :=
  { number := s.created.length, id, source, transport }

theorem created_produce (s : Producing) (source : Source) (transport : Nat) (id : String) :
    (s.produce source transport id).created = s.created ++ [s.next source transport id] :=
  created_setProducer _ source.kind _

theorem opened_produce (s : Producing) (source : Source) (transport : Nat) (id : String) :
    (s.produce source transport id).opened = s.opened ++ [s.next source transport id] :=
  opened_setProducer _ source.kind _

variable {source : Source} {transport : Nat}

theorem mem_producers_produce {id id' : String} :
    id' ∈ (s.produce source transport id).producers ↔ id' = id ∨ id' ∈ s.producers := by
  show id' ∈ AList.insert _ _ (Producing.producers _) ↔ _
  rw [AList.mem_insert, producers_setProducer]

/-- The field of the new producer was empty, so an old producer is in the other one. -/
theorem producer_produce_eq_some (hnone : s.producer source.kind = none) {id : String} :
    (s.produce source transport id).producer kind = some p ↔
      kind = source.kind ∧ p = s.next source transport id ∨ s.producer kind = some p := by
  have hfield : (s.produce source transport id).producer kind =
      if kind = source.kind then some (s.next source transport id) else s.producer kind :=
    producer_setProducer _ source.kind kind _
  rw [hfield]
  by_cases hkind : kind = source.kind
  · rw [if_pos hkind, hkind, hnone]
    simp [eq_comm]
  · rw [if_neg hkind]
    simp [hkind]

theorem Filed.produce (h : s.Filed) (hnone : s.producer source.kind = none) {id : String}
    (hfresh : ∀ p ∈ s.created, p.id ≠ id) (transport : Nat) :
    (s.produce source transport id).Filed := by
  have hold (kind : MediaKind) (p : Producer) (hp : s.producer kind = some p) : p.id ≠ id :=
    hfresh p (h.made kind p hp)
  refine ⟨⟨fun id' => ?_, fun kind p hp => ?_, fun kind p hp => ?_,
    fun k k' p q hp hq hpq => ?_⟩, fun p hp => ?_⟩
  · rw [mem_producers_produce, h.ids]
    constructor
    · rintro (rfl | ⟨kind, p, hp, rfl⟩)
      · exact ⟨source.kind, _, (producer_produce_eq_some hnone).mpr (.inl ⟨rfl, rfl⟩), rfl⟩
      · exact ⟨kind, p, (producer_produce_eq_some hnone).mpr (.inr hp), rfl⟩
    · rintro ⟨kind, p, hp, rfl⟩
      rcases (producer_produce_eq_some hnone).mp hp with ⟨-, rfl⟩ | hp
      · exact .inl rfl
      · exact .inr ⟨kind, p, hp, rfl⟩
  · rcases (producer_produce_eq_some hnone).mp hp with ⟨rfl, rfl⟩ | hp
    · rfl
    · exact h.kind_eq kind p hp
  · rw [created_produce, Registry.mem_snoc]
    rcases (producer_produce_eq_some hnone).mp hp with ⟨-, rfl⟩ | hp
    · exact .inr rfl
    · exact .inl (h.made kind p hp)
  · rcases (producer_produce_eq_some hnone).mp hp with ⟨rfl, rfl⟩ | hp <;>
      rcases (producer_produce_eq_some hnone).mp hq with ⟨rfl, rfl⟩ | hq
    · rfl
    · exact absurd hpq.symm (hold k' q hq)
    · exact absurd hpq (hold k p hp)
    · exact h.distinct k k' p q hp hq hpq
  · rw [opened_produce, Registry.mem_snoc] at hp
    rcases hp with hp | rfl
    · exact (producer_produce_eq_some hnone).mpr (.inr (h.opened_eq p hp))
    · exact (producer_produce_eq_some hnone).mpr (.inl ⟨rfl, rfl⟩)

/-! ### A transport is closed -/

theorem producer_drop (s : Producing) (kind kind' : MediaKind) :
    (s.drop kind).producer kind' = if kind' = kind then none else s.producer kind' := by
  unfold drop
  cases hp : s.producer kind with
  | none =>
    by_cases hkind : kind' = kind
    · rw [if_pos hkind, hkind]
      exact hp
    · rw [if_neg hkind]
  | some p => exact producer_setProducer _ kind kind' none

@[simp] theorem opened_drop (s : Producing) (kind : MediaKind) :
    (s.drop kind).opened = s.opened := by
  unfold drop
  cases s.producer kind with
  | none => rfl
  | some p => exact opened_setProducer _ kind none

theorem Listed.drop (h : s.Listed) (kind : MediaKind) : (s.drop kind).Listed := by
  unfold Producing.drop
  cases hp : s.producer kind with
  | none => exact h
  | some p => exact h.clear hp

/-- The listeners of some producers. -/
def dropAll (s : Producing) (called : List Producer) : Producing :=
  called.foldl (fun s p => s.drop p.source.kind) s

theorem Listed.dropAll (h : s.Listed) (called : List Producer) : (s.dropAll called).Listed := by
  induction called generalizing s with
  | nil => exact h
  | cons p called ih => exact ih (h.drop p.source.kind)

theorem opened_dropAll (s : Producing) (called : List Producer) :
    (s.dropAll called).opened = s.opened := by
  induction called generalizing s with
  | nil => rfl
  | cons p called ih => exact (ih (s.drop p.source.kind)).trans (opened_drop s _)

/-- A field is cleared by the listeners that are for it. -/
theorem producer_dropAll (s : Producing) (called : List Producer) (kind : MediaKind) :
    (s.dropAll called).producer kind =
      if ∃ p ∈ called, p.source.kind = kind then none else s.producer kind := by
  induction called generalizing s with
  | nil => simp [dropAll]
  | cons p called ih =>
    refine (ih (s.drop p.source.kind)).trans ?_
    rw [producer_drop]
    by_cases hrest : ∃ q ∈ called, q.source.kind = kind
    · obtain ⟨q, hq, hkind⟩ := hrest
      rw [if_pos ⟨q, hq, hkind⟩, if_pos ⟨q, List.mem_cons_of_mem p hq, hkind⟩]
    · simp only [List.exists_mem_cons_iff, hrest, or_false, if_false, eq_comm (a := kind)]

/-- A transport is closed, and calls the listeners of exactly its open producers. -/
theorem Filed.closeTransport (h : s.Filed) {called : List Producer}
    (hcalled : ∀ p, p ∈ called ↔ p ∈ s.opened ∧ p.transport = transport) :
    Filed { s.dropAll called with
      opened := (s.dropAll called).opened.filter (·.transport ≠ transport) } := by
  have hlisted := h.toListed.dropAll called
  refine ⟨⟨hlisted.ids, hlisted.kind_eq, hlisted.made, hlisted.distinct⟩, fun p hp => ?_⟩
  rw [opened_dropAll] at hp
  obtain ⟨hp, htransport⟩ := List.mem_filter.mp hp
  have hopen := h.opened_eq p hp
  -- A listener for the field of `p` would be the listener of `p`.
  show (s.dropAll called).producer p.source.kind = some p
  rw [producer_dropAll, if_neg]
  · exact hopen
  rintro ⟨q, hq, hkind⟩
  obtain ⟨hq, hqtransport⟩ := (hcalled q).mp hq
  have hsame := h.opened_eq q hq
  rw [hkind, hopen] at hsame
  cases hsame
  simp [hqtransport] at htransport

end Producing

end MediasoupDemo.Room
