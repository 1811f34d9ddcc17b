import ServiceWatch.Proofs.Tracker.Fate
import ServiceWatch.World.Script

/-!
# Histories

What is kept for a service goes back to the last time that it was added, and to the changes of it
that were heard of since. `Tracker.changes` collects these changes from the operations, each with
the observer's state when it was told, and `Slot.changed` says what one of them makes of a slot. That
a slot comes from an earlier one by changes alone is `Carried`; every slot of a run that starts empty
is carried from the answer by which its service was added (`exists_origin`).
-/

namespace ServiceWatch

variable {rep : Representation} {σ : Type}

/-- What a change makes of a slot: its reference is taken over, and the value is what the observer,
in the state that comes with the change, makes of it. -/
def Slot.changed (o : Observer rep σ) (slot : Slot rep) (c : Reference rep.subject × σ) : Slot rep :=
  ⟨c.1, rep.settle slot.value (o.modified c.1 slot.value c.2).answer⟩

/-- The callbacks that tell of changes, each with the value as the one before left it. -/
def Slot.told (o : Observer rep σ) (slot : Slot rep) :
    List (Reference rep.subject × σ) → List (Callback rep)
  | [] => []
  | c :: cs =>
    .modified c.1 slot.value (slot.changed o c).value :: (slot.changed o c).told o cs

/-- The reference of a slot is that of its last change. -/
lemma Slot.reference_foldl_changed (o : Observer rep σ) (slot : Slot rep)
    (cs : List (Reference rep.subject × σ)) :
    (cs.foldl (Slot.changed o) slot).reference = (cs.map Prod.fst).getLastD slot.reference := by
  induction cs generalizing slot with
  | nil => rfl
  | cons c cs ih =>
    rw [List.foldl_cons, ih, List.map_cons, List.getLastD_cons]
    rfl

/-- A shared value is the same after all changes. -/
lemma Slot.value_foldl_of_shared (shared : rep.access = .shared) (o : Observer rep σ)
    (slot : Slot rep) (cs : List (Reference rep.subject × σ)) :
    (cs.foldl (Slot.changed o) slot).value = slot.value := by
  induction cs generalizing slot with
  | nil => rfl
  | cons c cs ih =>
    rw [List.foldl_cons, ih]
    simp only [changed, Representation.settle, shared]

/-- A value that is the observer's to change goes from answer to answer. -/
lemma Slot.value_foldl_of_exclusive (exclusive : rep.access = .exclusive) (o : Observer rep σ)
    (slot : Slot rep) (cs : List (Reference rep.subject × σ)) :
    (cs.foldl (Slot.changed o) slot).value =
      cs.foldl (fun v c => (o.modified c.1 v c.2).answer) slot.value := by
  induction cs generalizing slot with
  | nil => rfl
  | cons c cs ih =>
    rw [List.foldl_cons, ih, List.foldl_cons]
    simp only [changed, Representation.settle, exclusive]

namespace Tracker

open Callback

/-- The changes of a service that operations bring, each with the observer's state at the time. -/
def changes (t : Tracker rep) (o : Observer rep σ) (id : ServiceId) :
    List (Operation rep.subject) → σ → List (Reference rep.subject × σ)
  | [], _ => []
  | op :: ops, st =>
    let out := t.perform o op st
    ((op.change? id).map fun r => (r, st)).toList ++ out.tracker.changes o id ops out.state

/-- The changes of a service in a run are those among its operations. -/
lemma map_fst_changes (t : Tracker rep) (o : Observer rep σ) (id : ServiceId)
    (ops : List (Operation rep.subject)) (st : σ) :
    (t.changes o id ops st).map Prod.fst = ops.filterMap (Operation.change? id) := by
  induction ops generalizing t st with
  | nil => rfl
  | cons op ops ih =>
    rw [changes, List.map_append, ih, List.filterMap_cons]
    cases op.change? id <;> rfl

/-- Operations carry the slot of a service on by changes alone, and tell of nothing else. -/
structure Carried (o : Observer rep σ) (id : ServiceId) (t : Tracker rep) (st : σ)
    (ops : List (Operation rep.subject)) (slot slot' : Slot rep) : Prop where
  slot_eq : slot' = (t.changes o id ops st).foldl (Slot.changed o) slot
  calls_eq : about id (t.calls o ops st) = slot.told o (t.changes o id ops st)

variable {o : Observer rep σ} {id : ServiceId} {t : Tracker rep} {st : σ}
  {op : Operation rep.subject} {ops : List (Operation rep.subject)} {slot slot' : Slot rep}

/-- An operation that is none of a service's business carries its slot on as it is. -/
lemma Carried.spared (carried : Carried o id (t.perform o op st).tracker (t.perform o op st).state
    ops slot slot') (unchanged : op.change? id = none)
    (silent : about id (t.perform o op st).calls = []) : Carried o id t st (op :: ops) slot slot' := by
  have same : t.changes o id (op :: ops) st =
      (t.perform o op st).tracker.changes o id ops (t.perform o op st).state := by
    rw [changes, unchanged]
    rfl
  refine ⟨?_, ?_⟩
  · rw [same]
    exact carried.slot_eq
  · rw [same, calls, run, List.flatMap_cons, about_append, silent, List.nil_append]
    exact carried.calls_eq

/-- A change of the service carries its slot on changed. -/
lemma Carried.changed {r : Reference rep.subject}
    (carried : Carried o id (t.perform o op st).tracker (t.perform o op st).state ops
      (slot.changed o (r, st)) slot') (change : op.change? id = some r)
    (told : about id (t.perform o op st).calls =
      [.modified r slot.value (slot.changed o (r, st)).value]) :
    Carried o id t st (op :: ops) slot slot' := by
  have more : t.changes o id (op :: ops) st =
      (r, st) :: (t.perform o op st).tracker.changes o id ops (t.perform o op st).state := by
    rw [changes, change]
    rfl
  refine ⟨?_, ?_⟩
  · rw [more]
    exact carried.slot_eq
  · rw [more, calls, run, List.flatMap_cons, about_append, told]
    exact congrArg (List.cons _) carried.calls_eq

/-- A service that comes in was added with what the observer answered. -/
lemma Intake.added_of_tracked {e : Event rep.subject} {out} (intake : Intake o t st e out)
    (untracked : t.slots.get? e.id = none) (tracked : out.tracker.slots.get? e.id = some slot) :
    ∃ v, out.result = .ok .added ∧ out.calls = [.adding e.reference (.ok v)] ∧
      slot = ⟨e.reference, v⟩ := by
  cases intake with
  | known | full | failed | declined | ignoring | notTracked =>
    rw [untracked] at tracked
    cases tracked
  | @added e r v offers =>
    obtain rfl := offers.reference_eq
    have kept : (t.store ⟨e.reference, v⟩).slots.get? e.reference.id = some slot := tracked
    rw [get?_store, if_pos rfl] at kept
    cases kept
    exact ⟨v, rfl, rfl, rfl⟩
  | modified found | removed found => exact nomatch untracked.symm.trans found

/-- Where a service is tracked after some operations, it was tracked before and its slot carried on,
or it was added in one of them and its slot carried on since. -/
lemma exists_origin (t : Tracker rep) (keyed : t.Keyed) (ops : List (Operation rep.subject))
    (st : σ) (tracked : (t.after o ops st).1.slots.get? id = some slot) :
    (∃ slot₀, t.slots.get? id = some slot₀ ∧ Carried o id t st ops slot₀ slot) ∨
      ∃ before e later v, ops = before ++ .apply e :: later ∧ e.id = id ∧
        let now := t.after o before st
        let out := now.1.apply o e now.2
        out.result = .ok .added ∧ out.calls = [.adding e.reference (.ok v)] ∧
          Carried o id out.tracker out.state later ⟨e.reference, v⟩ slot := by
  induction ops generalizing t st with
  | nil => exact .inl ⟨slot, tracked, rfl, rfl⟩
  | cons op ops ih =>
    have fate := perform_fate t keyed o id op st
    have kept := (perform_trace (o := o) t keyed op st).keyed keyed
    obtain ⟨slot₁, found, carried⟩ | ⟨before, e, later, v, rfl, own, added⟩ := ih _ kept _ tracked
    · -- What the rest carries on is there after the first operation: its fate says since when.
      rw [found] at fate
      generalize told : about id (t.perform o op st).calls = cs at fate
      generalize earlier : t.slots.get? id = slot? at fate
      cases fate with
      | spared unchanged => exact .inl ⟨slot₁, rfl, carried.spared unchanged told⟩
      | @added e v named own =>
        subst named own
        obtain ⟨v, result, calls, same⟩ :=
          (apply_intake t o e st).added_of_tracked earlier found
        cases same
        exact .inr ⟨[], e, ops, v, rfl, rfl, result, calls, carried⟩
      | @changed slot₀ r v change settled =>
        subst settled
        exact .inl ⟨slot₀, rfl, carried.changed change told⟩
    · -- Added later on; what the first operation did no longer matters.
      exact .inr ⟨op :: before, e, later, v, rfl, own, added⟩

/-- The callbacks that a service would get when it is given up, in any of the three ways. -/
lemma told_of_removal (keyed : t.Keyed) (tracked : t.slots.get? id = some slot) (st : σ) :
    (∀ r, r.id = id → ∃ v, (t.apply o (.unregistering r) st).calls =
        [.removed slot.reference slot.value v]) ∧
      (∃ v, (t.remove o id st).calls = [.removed slot.reference slot.value v]) ∧
      ∃ v, about id (t.close o st).calls = [.removed slot.reference slot.value v] := by
  refine ⟨?_, ?_, ?_⟩
  · rintro r rfl
    rw [apply, remove_of_tracked tracked]
    exact ⟨_, rfl⟩
  · rw [remove_of_tracked tracked]
    exact ⟨_, rfl⟩
  · rw [calls_close]
    obtain ⟨-, untracked⟩ | ⟨slot', v, -, found, told⟩ :=
      about_removeAll (o := o) id t keyed t.ids st
    · have listed : id ∈ t.ids := mem_ids_iff.2 (contains_iff.2 ⟨slot, tracked⟩)
      rw [untracked listed] at tracked
      cases tracked
    · rw [tracked] at found
      cases found
      exact ⟨v, told⟩

/-- What is kept for a service is its own history. After any operations on an empty tracker, a
service that is tracked was added at some point, and all callbacks about it since then are those of
its changes: each with the reference that the change brought and with the value as the one before
left it, the first with the value that the observer answered. The slot holds the reference of the
last change, or else the one the service was added with, and the value after all of them, which is
the first value if the observer may only look at it. When the service is given up, the observer is
told of what the slot holds. A repeated registration leaves the slot as it is, and so does all that
is done to other services. -/
theorem slot_of_history (config : Config) (o : Observer rep σ) (st : σ)
    (ops : List (Operation rep.subject)) (id : ServiceId) (slot : Slot rep)
    (tracked : ((fresh config).after o ops st).1.slots.get? id = some slot) :
    (∃ before e later v, ops = before ++ .apply e :: later ∧ e.id = id ∧
      let now := (fresh config).after o before st
      let out := now.1.apply o e now.2
      let cs := out.tracker.changes o id later out.state
      out.result = .ok .added ∧ out.calls = [.adding e.reference (.ok v)] ∧
      cs.map Prod.fst = later.filterMap (Operation.change? id) ∧
      about id (out.tracker.calls o later out.state) = Slot.told o ⟨e.reference, v⟩ cs ∧
      slot.reference = (later.filterMap (Operation.change? id)).getLastD e.reference ∧
      (rep.access = .exclusive →
        slot.value = cs.foldl (fun v c => (o.modified c.1 v c.2).answer) v) ∧
      (rep.access = .shared → slot.value = v)) ∧
    let t := ((fresh config).after o ops st).1
    let st' := ((fresh config).after o ops st).2
    ((∀ r, r.id = id → ∃ v, (t.apply o (.unregistering r) st').calls =
        [.removed slot.reference slot.value v]) ∧
      (∃ v, (t.remove o id st').calls = [.removed slot.reference slot.value v]) ∧
      ∃ v, about id (t.close o st').calls = [.removed slot.reference slot.value v]) ∧
    (∀ r, r.id = id → (t.apply o (.registered r) st').tracker.slots.get? id = some slot) ∧
    ∀ op id', op.id? = some id' → id' ≠ id →
      (t.perform o op st').tracker.slots.get? id = some slot := by
  have keyed := after_keyed (o := o) config ops st
  refine ⟨?_, told_of_removal keyed tracked _, ?_, ?_⟩
  · obtain ⟨_, found, -⟩ | ⟨before, e, later, v, split, own, result, calls, carried⟩ :=
      exists_origin (fresh config) (keyed_fresh config) ops st tracked
    · cases found
    · refine ⟨before, e, later, v, split, own, result, calls, map_fst_changes .., carried.calls_eq,
        ?_, fun exclusive => ?_, fun shared => ?_⟩
      · rw [carried.slot_eq, Slot.reference_foldl_changed, map_fst_changes]
      · rw [carried.slot_eq, Slot.value_foldl_of_exclusive exclusive]
      · rw [carried.slot_eq, Slot.value_foldl_of_shared shared]
  · rintro r rfl
    rw [apply, add, contains_iff.2 ⟨slot, tracked⟩]
    exact tracked
  · intro op id' named other
    rw [(perform_of_ne _ keyed _ named other _).2]
    exact tracked

/-- A script that grants leases and prolongs them on every change. -/
def prolongs : Script := ⟨{ sample := .number 5, onModified := .bump }, []⟩

/-- A service is registered twice and changes twice, with another one in between. -/
def renewals : List (Operation Pair.lease.rep.subject) :=
  [.apply (.registered ⟨⟨1⟩, 5⟩), .apply (.modified ⟨⟨1⟩, 9⟩), .apply (.registered ⟨⟨1⟩, 7⟩),
    .apply (.registered ⟨⟨2⟩, 0⟩), .apply (.modified ⟨⟨1⟩, -3⟩), .apply (.modified ⟨⟨2⟩, 4⟩)]

/-- The lease of the first service was prolonged twice, and the last change gave its ranking. -/
theorem slot_of_history_lease :
    let o := Pair.lease.scripted prolongs
    let t := ((fresh .standard).after o renewals (.ofThings [])).1
    let st := ((fresh .standard).after o renewals (.ofThings [])).2
    t.slots.get? ⟨1⟩ = some ⟨⟨⟨1⟩, -3⟩, (⟨some 205⟩ : Lease)⟩ ∧
      (∃ before e later v, renewals = before ++ .apply e :: later ∧ e.id = ⟨1⟩ ∧
        let now := (fresh .standard).after o before (.ofThings [])
        let out := now.1.apply o e now.2
        let cs := out.tracker.changes o ⟨1⟩ later out.state
        out.result = .ok .added ∧ out.calls = [.adding e.reference (.ok v)] ∧
        (later.filterMap (Operation.change? ⟨1⟩)).getLastD e.reference = ⟨⟨1⟩, -3⟩ ∧
        cs.foldl (fun v c => (o.modified c.1 v c.2).answer) v = (⟨some 205⟩ : Lease)) ∧
      ∃ v, (t.remove o ⟨1⟩ st).calls = [.removed ⟨⟨1⟩, -3⟩ (⟨some 205⟩ : Lease) v] := by
  intro o t st
  have tracked : t.slots.get? ⟨1⟩ = some ⟨⟨⟨1⟩, -3⟩, (⟨some 205⟩ : Lease)⟩ := by rfl
  obtain ⟨⟨before, e, later, v, split, own, result, calls, -, -, reference, value, -⟩,
    ⟨-, removed, -⟩, -⟩ := slot_of_history .standard o (.ofThings []) renewals ⟨1⟩ _ tracked
  exact ⟨tracked, ⟨before, e, later, v, split, own, result, calls, reference.symm,
    (value rfl).symm⟩, removed⟩

end Tracker

end ServiceWatch
