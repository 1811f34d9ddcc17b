import Mathlib.Tactic.Lemma
import ServiceWatch.Tracker.Run

/-!
# Inversion of tracker operations

What each operation of a tracker comes to, path by path. `Intake` lists the ways in which an event
can go, with all that an `Outcome` holds; `apply_intake` says that there are no others, so that a
statement about events is proved by cases on it. Giving up needs no such list: a service is dropped
in any case (`remove_tracker`), and the observer is told if it was there (`remove_of_tracked`).

Slots are looked up by the number of their service. That a slot holds a reference of that very
number is the invariant `Keyed`.
-/

namespace ServiceWatch

/-- Whether the answer of an observer has the service taken up. -/
def Representation.accepts (rep : Representation) : Except Fault rep.Value → Bool
  | .ok v => rep.isPresent v
  | .error _ => false

namespace Tracker

variable {rep : Representation} {σ : Type}

/-- A tracker is determined by its settings and by what it keeps for each service. -/
lemma ext_slots {t u : Tracker rep} (config : t.config = u.config)
    (slots : ∀ id, t.slots.get? id = u.slots.get? id) : t = u := by
  obtain ⟨_, _⟩ := t
  obtain ⟨_, _⟩ := u
  cases config
  cases Table.ext_get? slots
  rfl

/-- Dropping a service leaves the settings as they are. -/
@[simp]
lemma config_drop (t : Tracker rep) (id : ServiceId) : (t.drop id).config = t.config := rfl

/-- A fresh tracker tracks nothing. -/
@[simp]
lemma contains_fresh (config : Config) (id : ServiceId) :
    (fresh config : Tracker rep).contains id = false := rfl

/-- A stored slot is found for its service, and for others what was there before. -/
lemma get?_store (t : Tracker rep) (slot : Slot rep) (id : ServiceId) :
    (t.store slot).slots.get? id =
      if id = slot.reference.id then some slot else t.slots.get? id :=
  Table.get?_insert t.slots slot.reference.id slot id

/-- Nothing is found for a dropped service, and for others what was there before. -/
lemma get?_drop (t : Tracker rep) (id id' : ServiceId) :
    (t.drop id).slots.get? id' = if id' = id then none else t.slots.get? id' :=
  Table.get?_erase t.slots id id'

/-- A service is tracked if there is a slot for it. -/
lemma contains_iff {t : Tracker rep} {id : ServiceId} :
    t.contains id = true ↔ ∃ slot, t.slots.get? id = some slot :=
  Option.isSome_iff_exists

/-- A service is not tracked if there is no slot for it. -/
lemma not_contains_iff {t : Tracker rep} {id : ServiceId} :
    t.contains id = false ↔ t.slots.get? id = none := by
  simp [contains, Table.contains]

/-- Storing a slot makes its service tracked. -/
lemma contains_store (t : Tracker rep) (slot : Slot rep) (id : ServiceId) :
    (t.store slot).contains id = (decide (id = slot.reference.id) || t.contains id) := by
  rw [contains, Table.contains, get?_store]
  by_cases h : id = slot.reference.id <;> simp [h, contains, Table.contains]

/-- Dropping a service makes it untracked. -/
lemma contains_drop (t : Tracker rep) (id id' : ServiceId) :
    (t.drop id).contains id' = (!decide (id' = id) && t.contains id') := by
  rw [contains, Table.contains, get?_drop]
  by_cases h : id' = id <;> simp [h, contains, Table.contains]

/-- Storing a slot is nothing to another service. -/
lemma contains_store_of_ne {t : Tracker rep} {slot : Slot rep} {id : ServiceId}
    (other : slot.reference.id ≠ id) : (t.store slot).contains id = t.contains id := by
  rw [contains_store, decide_eq_false other.symm, Bool.false_or]

/-- Dropping a service is nothing to another one. -/
lemma contains_drop_of_ne {t : Tracker rep} {id id' : ServiceId} (other : id ≠ id') :
    (t.drop id).contains id' = t.contains id' := by
  rw [contains_drop, decide_eq_false other.symm, Bool.not_false, Bool.true_and]

/-- Dropping what is not tracked changes nothing. -/
lemma drop_of_untracked {t : Tracker rep} {id : ServiceId} (h : t.slots.get? id = none) :
    t.drop id = t := by
  rw [drop, Table.erase_of_get?_eq_none h]

/-- Keeping a slot makes the tracker larger by one, unless the service had one. -/
lemma size_store (t : Tracker rep) (slot : Slot rep) :
    (t.store slot).size + (t.contains slot.reference.id).toNat = t.size + 1 := by
  cases h : t.slots.get? slot.reference.id with
  | none =>
    have hs : (t.store slot).size = t.size + 1 := Table.size_insert_of_get?_eq_none slot h
    rw [not_contains_iff.2 h, hs]
    rfl
  | some old =>
    have hs : (t.store slot).size = t.size := Table.size_insert_of_get?_eq_some slot h
    rw [contains_iff.2 ⟨old, h⟩, hs]
    rfl

/-- Dropping a service makes the tracker smaller by one, if it was tracked. -/
lemma size_drop (t : Tracker rep) (id : ServiceId) :
    (t.drop id).size + (t.contains id).toNat = t.size := by
  cases h : t.slots.get? id with
  | none =>
    rw [not_contains_iff.2 h, drop_of_untracked h]
    rfl
  | some slot =>
    rw [contains_iff.2 ⟨slot, h⟩]
    exact Table.size_erase_of_get?_eq_some h

/-- Every slot holds a reference of the service that it is kept for. -/
def Keyed (t : Tracker rep) : Prop :=
  ∀ id slot, t.slots.get? id = some slot → slot.reference.id = id

/-- No slot of a fresh tracker is kept under another service. -/
lemma keyed_fresh (config : Config) : (fresh config : Tracker rep).Keyed := nofun

/-- A stored slot is kept under its own service. -/
lemma Keyed.store {t : Tracker rep} (keyed : t.Keyed) (slot : Slot rep) :
    (t.store slot).Keyed := by
  intro id found h
  rw [get?_store] at h
  split at h
  · next e => cases h; exact e.symm
  · exact keyed id found h

/-- The slots that are left stay under their own services. -/
lemma Keyed.drop {t : Tracker rep} (keyed : t.Keyed) (id : ServiceId) : (t.drop id).Keyed := by
  intro id' found h
  rw [get?_drop] at h
  split at h
  · cases h
  · exact keyed id' found h

/-- A capacity is not reached while there are fewer services. -/
lemma isNone_reached? {t : Tracker rep} {capacity : Nat}
    (bound : t.config.capacity = some capacity) :
    t.reached?.isNone = decide (t.size < capacity) := by
  rw [reached?, bound, Option.filter_some]
  by_cases h : capacity ≤ t.size
  · simp [h]
  · simp [h, Nat.lt_of_not_le h]

/-- A capacity is reached if there are at least as many services. -/
lemma reached?_eq_some_iff {t : Tracker rep} {capacity : Nat} :
    t.reached? = some capacity ↔ t.config.capacity = some capacity ∧ capacity ≤ t.size := by
  rw [reached?, Option.filter_eq_some_iff, decide_eq_true_iff]

/-- No capacity is reached if there is none or there are fewer services. -/
lemma reached?_eq_none_iff {t : Tracker rep} :
    t.reached? = none ↔ ∀ capacity, t.config.capacity = some capacity → t.size < capacity := by
  rw [reached?, Option.filter_eq_none_iff]
  simp

/-- Without a capacity none is reached. -/
lemma reached?_of_unbounded {t : Tracker rep} (unbounded : t.config.capacity = none) :
    t.reached? = none := by
  rw [reached?, unbounded, Option.filter_none]

/-- An event that asks for a service to be taken up which is not tracked: its registration, or a
change of it if the tracker is told to take services up then. -/
inductive Offers (t : Tracker rep) : Event rep.subject → Reference rep.subject → Prop
  | registered {r} : t.slots.get? r.id = none → Offers t (.registered r) r
  | modified {r} : t.slots.get? r.id = none → t.config.trackOnModified = true →
      Offers t (.modified r) r

/-- A service that is offered is not tracked. -/
lemma Offers.untracked {t : Tracker rep} {e r} (offers : t.Offers e r) :
    t.slots.get? r.id = none := by
  cases offers with
  | registered h => exact h
  | modified h _ => exact h

/-- A service is offered by an event of its own. -/
lemma Offers.id_eq {t : Tracker rep} {e r} (offers : t.Offers e r) : e.id = r.id := by
  cases offers <;> rfl

/-- The ways an event can go. -/
inductive Intake (o : Observer rep σ) (t : Tracker rep) (st : σ) :
    Event rep.subject → Outcome rep σ (Except Fault Change) → Prop
  | known {r slot} : t.slots.get? r.id = some slot →
      Intake o t st (.registered r) ⟨.ok .ignored, t, st, [], [.own (.alreadyTracked r.id)]⟩
  | full {e r capacity} : t.Offers e r → t.reached? = some capacity →
      Intake o t st e ⟨.ok .declined, t, st, [], [.own (.full capacity r.id)]⟩
  | failed {e r fault} : t.Offers e r → t.reached? = none →
      (o.adding r st).answer = .error fault →
      Intake o t st e ⟨.error fault, t, (o.adding r st).state, [.adding r (.error fault)],
        (o.adding r st).log.map .observer ++ [.own (.failed r.id fault)]⟩
  | declined {e r v} : t.Offers e r → t.reached? = none →
      (o.adding r st).answer = .ok v → rep.isPresent v = false →
      Intake o t st e ⟨.ok .declined, t, (o.adding r st).state, [.adding r (.ok v)],
        (o.adding r st).log.map .observer ++ [.own (.declined r.id)]⟩
  | added {e r v} : t.Offers e r → t.reached? = none →
      (o.adding r st).answer = .ok v → rep.isPresent v = true →
      Intake o t st e ⟨.ok .added, t.store ⟨r, v⟩, (o.adding r st).state, [.adding r (.ok v)],
        (o.adding r st).log.map .observer ++ [.own (.tracking r.id)]⟩
  | modified {r slot v} : t.slots.get? r.id = some slot →
      v = rep.settle slot.value (o.modified r slot.value st).answer →
      Intake o t st (.modified r) ⟨.ok .modified, t.store ⟨r, v⟩, (o.modified r slot.value st).state,
        [.modified r slot.value v], (o.modified r slot.value st).log.map .observer⟩
  | ignoring {r} : t.slots.get? r.id = none → t.config.trackOnModified = false →
      Intake o t st (.modified r) ⟨.ok .ignored, t, st, [], [.own (.ignoring r.id)]⟩
  | removed {r slot v} : t.slots.get? r.id = some slot →
      v = rep.settle slot.value (o.removed slot.reference slot.value st).answer →
      Intake o t st (.unregistering r) ⟨.ok .removed, t.drop r.id,
        (o.removed slot.reference slot.value st).state, [.removed slot.reference slot.value v],
        .own (.removing slot.reference.id) ::
          (o.removed slot.reference slot.value st).log.map .observer⟩
  | notTracked {r} : t.slots.get? r.id = none →
      Intake o t st (.unregistering r) ⟨.ok .ignored, t, st, [], [.own (.notTracked r.id)]⟩

/-- Removing a service that is not tracked does nothing. -/
lemma remove_of_untracked {t : Tracker rep} {o : Observer rep σ} {id : ServiceId} {st : σ}
    (h : t.slots.get? id = none) : t.remove o id st = ⟨false, t, st, [], []⟩ := by
  simp [remove, h]

/-- Giving up a tracked service tells the observer of what was kept for it. -/
lemma remove_of_tracked {t : Tracker rep} {o : Observer rep σ} {id : ServiceId} {st : σ}
    {slot : Slot rep} (h : t.slots.get? id = some slot) :
    t.remove o id st =
      ⟨true, t.drop id, (o.removed slot.reference slot.value st).state,
        [.removed slot.reference slot.value
          (rep.settle slot.value (o.removed slot.reference slot.value st).answer)],
        .own (.removing slot.reference.id) ::
          (o.removed slot.reference slot.value st).log.map .observer⟩ := by
  simp [remove, h]

/-- Whether or not it was tracked, a service that is given up is dropped. -/
lemma remove_tracker (t : Tracker rep) (o : Observer rep σ) (id : ServiceId) (st : σ) :
    (t.remove o id st).tracker = t.drop id := by
  cases h : t.slots.get? id with
  | none => rw [remove_of_untracked h, drop_of_untracked h]
  | some slot => rw [remove_of_tracked h]

/-- Asking about a service that is offered is one way to take its event in. -/
lemma ask_intake {t : Tracker rep} {o : Observer rep σ} {st : σ} {e r}
    (offers : t.Offers e r) (room : t.reached? = none) : Intake o t st e (t.ask o r st) := by
  rw [ask]
  cases answer : (o.adding r st).answer with
  | error fault => exact .failed offers room answer
  | ok v =>
    cases present : rep.isPresent v with
    | false => simpa [present] using Intake.declined offers room answer present
    | true => simpa [present] using Intake.added offers room answer present

/-- Adding a service that is offered is one way to take its event in. -/
lemma add_intake {t : Tracker rep} {o : Observer rep σ} {st : σ} {e r}
    (offers : t.Offers e r) : Intake o t st e (t.add o r st) := by
  rw [add, not_contains_iff.2 offers.untracked]
  cases room : t.reached? with
  | none => exact ask_intake offers room
  | some capacity => exact .full offers room

/-- An event goes in one of the ways of `Intake`. -/
theorem apply_intake (t : Tracker rep) (o : Observer rep σ) (e : Event rep.subject) (st : σ) :
    Intake o t st e (t.apply o e st) := by
  cases e with
  | registered r =>
    cases h : t.slots.get? r.id with
    | none => exact add_intake (.registered h)
    | some slot =>
      rw [apply, add, contains_iff.2 ⟨slot, h⟩]
      exact .known h
  | modified r =>
    rw [apply, modify]
    cases h : t.slots.get? r.id with
    | none =>
      cases eager : t.config.trackOnModified with
      | false => simpa [eager] using Intake.ignoring h eager
      | true => simpa [eager] using add_intake (.modified h eager)
    | some slot => exact .modified h rfl
  | unregistering r =>
    rw [apply]
    cases h : t.slots.get? r.id with
    | none =>
      rw [remove_of_untracked h]
      exact .notTracked h
    | some slot =>
      rw [remove_of_tracked h]
      exact .removed h rfl

/-- Of services that are removed one by one nothing is left, and of others all. -/
lemma get?_removeAll (t : Tracker rep) (o : Observer rep σ) (ids : List ServiceId) (st : σ)
    (id : ServiceId) :
    (t.removeAll o ids st).tracker.slots.get? id =
      if id ∈ ids then none else t.slots.get? id := by
  induction ids generalizing t st with
  | nil => rfl
  | cons first others ih =>
    rw [removeAll, ih, remove_tracker, get?_drop]
    by_cases h : id = first <;> simp [h]

/-- Removing services leaves the settings as they are. -/
@[simp]
lemma config_removeAll (t : Tracker rep) (o : Observer rep σ) (ids : List ServiceId) (st : σ) :
    (t.removeAll o ids st).tracker.config = t.config := by
  induction ids generalizing t st with
  | nil => rfl
  | cons first others ih => rw [removeAll, ih, remove_tracker, config_drop]

/-- Closing is giving up all that is tracked. What comes on top of it is a line of the log. -/
lemma close_of_removeAll (t : Tracker rep) (o : Observer rep σ) (st : σ) :
    let out := t.removeAll o t.ids st
    t.close o st =
      { out with
        log := out.log ++ if out.result = 0 then [] else [.own (.closed out.result)] } := by
  intro out
  rw [close]
  split
  · rw [List.append_nil]
  · rfl

/-- Closing counts what is removed. -/
lemma result_close (t : Tracker rep) (o : Observer rep σ) (st : σ) :
    (t.close o st).result = (t.removeAll o t.ids st).result := by
  rw [close_of_removeAll]

/-- Closing tells what removing all services tells. -/
lemma calls_close (t : Tracker rep) (o : Observer rep σ) (st : σ) :
    (t.close o st).calls = (t.removeAll o t.ids st).calls := by
  rw [close_of_removeAll]

/-- Closing leads the observer where removing all services does. -/
lemma state_close (t : Tracker rep) (o : Observer rep σ) (st : σ) :
    (t.close o st).state = (t.removeAll o t.ids st).state := by
  rw [close_of_removeAll]

/-- A tracker that was closed is as good as new. -/
lemma tracker_close (t : Tracker rep) (o : Observer rep σ) (st : σ) :
    (t.close o st).tracker = fresh t.config := by
  rw [close_of_removeAll]
  refine ext_slots (config_removeAll t o t.ids st) fun id => ?_
  rw [get?_removeAll]
  split
  · rfl
  · next h => exact Table.get?_eq_none_iff.2 h

end Tracker

end ServiceWatch
