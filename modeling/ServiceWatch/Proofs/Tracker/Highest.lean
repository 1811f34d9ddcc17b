import ServiceWatch.Proofs.Service.Preference
import ServiceWatch.Proofs.Tracker.Invariant

/-!
# The preferred service

A tracker names the service that is preferred to all others it tracks. Its references tell which one
that is (`reference_highest?`), and nothing else does: neither the values that are kept nor how the
references came to be there. A change of a service puts its new reference in place of the old one
(`mem_references_modified`), so that what was preferred before has no say in it.
-/

namespace ServiceWatch.Tracker

open Reference

variable {rep : Representation} {σ : Type} {o : Observer rep σ} {t u : Tracker rep} {st : σ}
  {slot : Slot rep} {r : Reference rep.subject}

/-- The slots of a tracker are those found under their services. -/
lemma mem_values_iff (keyed : t.Keyed) :
    slot ∈ t.slots.values ↔ t.slots.get? slot.reference.id = some slot := by
  rw [Table.values, List.mem_map]
  constructor
  · rintro ⟨⟨id, slot⟩, mem, rfl⟩
    have found := Table.get?_eq_some_iff.2 mem
    obtain rfl := keyed id slot found
    exact found
  · intro found
    exact ⟨_, Table.get?_eq_some_iff.1 found, rfl⟩

/-- The references of a tracker are those stored for their services. -/
lemma mem_references_iff (keyed : t.Keyed) :
    r ∈ t.references ↔ ∃ v, t.slots.get? r.id = some ⟨r, v⟩ := by
  rw [references, List.mem_map]
  constructor
  · rintro ⟨slot, mem, rfl⟩
    exact ⟨slot.value, (mem_values_iff keyed).1 mem⟩
  · rintro ⟨v, found⟩
    exact ⟨⟨r, v⟩, (mem_values_iff keyed).2 found, rfl⟩

/-- The preferred slot is that of the preferred reference. -/
lemma reference_highest? (t : Tracker rep) :
    t.highest?.map Slot.reference = best? t.references := by
  rw [highest?, references]
  cases t.slots.values with
  | nil => rfl
  | cons slot slots =>
    refine congrArg some ?_
    rw [List.foldl_map]
    refine (List.foldl_hom Slot.reference fun a b => ?_).symm
    rw [Tracker.better, Reference.better]
    split <;> rfl

/-- The better slot so far is one of those that were compared. -/
lemma foldl_better_mem (slot : Slot rep) (slots : List (Slot rep)) :
    slots.foldl Tracker.better slot ∈ slot :: slots := by
  induction slots generalizing slot with
  | nil => exact List.mem_cons_self
  | cons next slots ih =>
    rcases List.mem_cons.1 (ih (Tracker.better slot next)) with first | later
    · have one : Tracker.better slot next = slot ∨ Tracker.better slot next = next := by
        rw [Tracker.better]
        exact ite_eq_or_eq _ slot next
      rw [List.foldl_cons, first]
      rcases one with eq | eq <;> simp [eq]
    · exact List.mem_cons_of_mem _ (List.mem_cons_of_mem _ later)

/-- What is named is the slot of the best reference. -/
theorem highest?_eq_some_iff (keyed : t.Keyed) :
    t.highest? = some slot ↔
      IsBest t.references slot.reference ∧ t.get? slot.reference.id = some slot.value := by
  have kept {slot} (named : t.highest? = some slot) :
      t.slots.get? slot.reference.id = some slot := by
    refine (mem_values_iff keyed).1 ?_
    rw [highest?] at named
    split at named
    · cases named
    · next first others values =>
      obtain rfl := Option.some.inj named
      rw [values]
      exact foldl_better_mem first others
  constructor
  · intro named
    have best : best? t.references = some slot.reference := by
      rw [← reference_highest?, named]
      rfl
    refine ⟨best?_eq_some_iff.1 best, ?_⟩
    rw [get?, kept named]
    rfl
  · rintro ⟨best, value⟩
    rw [← best?_eq_some_iff, ← reference_highest?] at best
    obtain ⟨found, named, same⟩ := Option.map_eq_some_iff.1 best
    -- The slot that is named has the reference, and there is but one slot for it.
    have stored := kept named
    rw [get?, ← same, stored] at value
    obtain ⟨_, _⟩ := found
    obtain ⟨_, _⟩ := slot
    cases same
    cases value
    exact named

/-- There is no highest slot only where nothing is tracked. -/
lemma highest?_eq_none_iff : t.highest? = none ↔ ∀ id, t.contains id = false := by
  rw [← Option.map_eq_none_iff (f := Slot.reference), reference_highest?, best?_eq_none_iff,
    references, Table.values, List.map_map, List.map_eq_nil_iff, ← List.isEmpty_iff]
  exact Table.isEmpty_iff.trans (forall_congr' fun id => not_contains_iff.symm)

/-- A change of a service that is tracked puts its reference in place of the one before. -/
lemma mem_references_modified (keyed : t.Keyed) (known : t.contains r.id = true)
    {r' : Reference rep.subject} :
    r' ∈ (t.apply o (.modified r) st).tracker.references ↔
      r' ∈ r :: t.references.filter fun other => other.id ≠ r.id := by
  obtain ⟨slot, found⟩ := contains_iff.1 known
  have changed : ∃ v, (t.apply o (.modified r) st).tracker = t.store ⟨r, v⟩ := by
    rw [apply, modify, found]
    exact ⟨_, rfl⟩
  obtain ⟨v, changed⟩ := changed
  rw [changed, mem_references_iff (keyed.store _), get?_store, List.mem_cons, List.mem_filter,
    mem_references_iff keyed]
  by_cases own : r'.id = r.id
  · simp [own, eq_comm]
  · simp [own, ne_of_apply_ne Reference.id own]

/-- A tracker names the best service that it tracks. In every state that operations lead to from an
empty tracker, it names one unless nothing is tracked, and then it is the only one that outranks all
others, with the value that is kept for it. Which one it is depends on the references alone, as two
trackers with the same references agree on it, whatever was done to them. After a change of a
service that is tracked, its new reference competes with those of the other services. -/
theorem preferred_at_all_times (config : Config) (o : Observer rep σ) (st : σ)
    (ops : List (Operation rep.subject)) :
    let t := ((fresh config).after o ops st).1
    let st' := ((fresh config).after o ops st).2
    (t.highest? = none ↔ ∀ id, t.contains id = false) ∧
    (∀ slot, t.highest? = some slot →
      (∀ r, IsBest t.references r ↔ r = slot.reference) ∧
        t.get? slot.reference.id = some slot.value) ∧
    (∀ (τ : Type) (config' : Config) (o' : Observer rep τ) (s : τ)
        (ops' : List (Operation rep.subject)),
      let u := ((fresh config').after o' ops' s).1
      (∀ r, r ∈ u.references ↔ r ∈ t.references) →
        u.highest?.map Slot.reference = t.highest?.map Slot.reference) ∧
    ∀ r, t.contains r.id = true →
      let u := (t.apply o (.modified r) st').tracker
      (∀ other, other ∈ u.references ↔ other = r ∨ other ∈ t.references ∧ other.id ≠ r.id) ∧
        ∀ best, u.highest?.map Slot.reference = some best ↔
          IsBest (r :: t.references.filter fun other => other.id ≠ r.id) best := by
  intro t st'
  have keyed : t.Keyed := after_keyed config ops st
  refine ⟨highest?_eq_none_iff, fun slot named => ?_, ?_, ?_⟩
  · obtain ⟨best, value⟩ := (highest?_eq_some_iff keyed).1 named
    refine ⟨fun r => ⟨fun best' => best'.unique best, ?_⟩, value⟩
    rintro rfl
    exact best
  · intro τ config' o' s ops' u same
    rw [reference_highest?, reference_highest?]
    refine Option.ext fun r => ?_
    rw [best?_eq_some_iff, best?_eq_some_iff]
    exact isBest_congr same
  · intro r known u
    have changed (other : Reference rep.subject) : other ∈ u.references ↔
        other ∈ r :: t.references.filter fun other => other.id ≠ r.id :=
      mem_references_modified keyed known
    refine ⟨fun other => ?_, fun best => ?_⟩
    · rw [changed]
      simp
    · rw [reference_highest?, best?_eq_some_iff]
      exact isBest_congr changed

/-- Three services of which two are ranked alike. -/
def contested : List (Operation Pair.lease.rep.subject) :=
  [.apply (.registered ⟨⟨12⟩, 5⟩), .apply (.registered ⟨⟨10⟩, -1⟩), .apply (.registered ⟨⟨11⟩, 5⟩)]

/-- Of the two the older one is named, until the other one rises. -/
theorem preferred_at_all_times_contested :
    let o := Pair.lease.scripted revokes
    let t := ((fresh .standard).after o contested (.ofThings [])).1
    let st := ((fresh .standard).after o contested (.ofThings [])).2
    let u := (t.apply o (.modified ⟨⟨12⟩, 6⟩) st).tracker
    (∀ r, IsBest t.references r ↔ r = ⟨⟨11⟩, 5⟩) ∧ t.contains ⟨12⟩ = true ∧
      u.highest?.map Slot.reference = some ⟨⟨12⟩, 6⟩ := by
  intro o t st u
  obtain ⟨-, named, -, follows⟩ := preferred_at_all_times .standard o (.ofThings []) contested
  have first : t.highest?.map Slot.reference = some ⟨⟨11⟩, 5⟩ := by decide
  obtain ⟨slot, found, same⟩ := Option.map_eq_some_iff.1 first
  obtain ⟨best, -⟩ := named slot found
  rw [same] at best
  have known : t.contains ⟨12⟩ = true := by decide
  obtain ⟨-, risen⟩ := follows ⟨⟨12⟩, 6⟩ known
  exact ⟨best, known, (risen ⟨⟨12⟩, 6⟩).2 (by decide)⟩

end ServiceWatch.Tracker
