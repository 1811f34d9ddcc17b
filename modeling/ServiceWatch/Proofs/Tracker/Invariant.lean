import ServiceWatch.Proofs.Tracker.Answers
import ServiceWatch.Proofs.Tracker.History

/-!
# The invariant of trackers

What holds of a tracker from when it is made, whatever is done to it and whoever observes. The
`Invariant` ties its parts together: slots stand under the numbers of their references, there are no
more of them than the capacity allows, and a value that observers only look at is present, as it was
when it was taken in. Every operation keeps it (`Invariant.perform`). The bound cannot be read off
the callbacks, as those do not show that there was room; it is read off the paths of an event
(`Intake.size_le`).

A value that observers may change is not kept present: it is what they make of it. If it is absent,
then a change since the service was added made it so (`Slot.present_or_cleared`).
-/

namespace ServiceWatch

variable {rep : Representation} {σ : Type}

/-- A shared value settles as it was before. -/
lemma Representation.settle_of_shared (shared : rep.access = .shared) (before after : rep.Value) :
    rep.settle before after = before := by
  simp only [settle, shared]

namespace Callback

/-- The kept value that the observer is given in a callback. -/
def given? : Callback rep → Option rep.Value
  | adding _ _ => none
  | modified _ before _ => some before
  | removed _ before _ => some before

/-- Whether the callback tells of a change in which a present value became absent. -/
def isClearing : Callback rep → Bool
  | modified _ before after => rep.isPresent before && !rep.isPresent after
  | _ => false

/-- Whether the callback tells of a change. -/
def isModified : Callback rep → Bool
  | modified _ _ _ => true
  | _ => false

end Callback

namespace Slot

open Callback

/-- A slot is only told of changes. -/
lemma isModified_of_mem_told {o : Observer rep σ} {slot : Slot rep} {c : Callback rep}
    {cs : List (Reference rep.subject × σ)} (mem : c ∈ slot.told o cs) : c.isModified = true := by
  induction cs generalizing slot with
  | nil => cases mem
  | cons change cs ih =>
    rcases List.mem_cons.1 mem with rfl | mem
    · rfl
    · exact ih mem

/-- A value that was present is so after some changes, or one of them cleared it. -/
lemma present_or_cleared (o : Observer rep σ) (slot : Slot rep)
    (cs : List (Reference rep.subject × σ)) (present : rep.isPresent slot.value = true) :
    rep.isPresent (cs.foldl (Slot.changed o) slot).value = true ∨
      ∃ c ∈ slot.told o cs, c.isClearing = true := by
  induction cs generalizing slot with
  | nil => exact .inl present
  | cons change cs ih =>
    cases next : rep.isPresent (slot.changed o change).value with
    | false =>
      refine .inr ⟨_, List.mem_cons_self, ?_⟩
      rw [isClearing, present, next]
      rfl
    | true =>
      obtain kept | ⟨c, mem, clearing⟩ := ih (slot.changed o change) next
      · exact .inl kept
      · exact .inr ⟨c, List.mem_cons_of_mem _ mem, clearing⟩

end Slot

namespace Tracker

open Callback

variable {o : Observer rep σ} {t t' : Tracker rep} {st st' : σ} {config : Config}

/-- How a tracker is made: with standard settings, or with settings that are usable. -/
inductive Made : Config → Tracker rep → Prop
  | new : Made .standard new
  | withConfig {c : Config} {u : Tracker rep} : withConfig c = .ok u → Made c u

/-- The settings that a tracker is made with are usable. -/
lemma Made.usable (made : Made config t) : config.Usable := by
  cases made with
  | new => exact Config.usable_standard
  | withConfig h =>
    rw [Tracker.withConfig] at h
    split at h
    · cases h
    · next usable => exact usable

/-- A tracker is made fresh. -/
lemma Made.eq_fresh (made : Made config t) : t = fresh config := by
  cases made with
  | new => rfl
  | withConfig h =>
    rw [Tracker.withConfig] at h
    split at h
    · cases h
    · cases h
      rfl

/-- A fresh tracker with usable settings can be made. -/
lemma made_fresh (usable : config.Usable) : Made config (fresh config : Tracker rep) := by
  refine .withConfig ?_
  rw [Tracker.withConfig, usable]
  rfl

/-- Every kept value is present. -/
def Present (t : Tracker rep) : Prop :=
  ∀ id slot, t.slots.get? id = some slot → rep.isPresent slot.value = true

/-- Storing what is present keeps every value present. -/
lemma Present.store (present : t.Present) {slot : Slot rep}
    (own : rep.isPresent slot.value = true) : (t.store slot).Present := by
  intro id found h
  rw [get?_store] at h
  split at h
  · cases h
    exact own
  · exact present id found h

/-- Dropping a service keeps every value present. -/
lemma Present.drop (present : t.Present) (id : ServiceId) : (t.drop id).Present := by
  intro id' found h
  rw [get?_drop] at h
  split at h
  · cases h
  · exact present id' found h

/-- Where observers only look at values, they are given present ones and leave them so. -/
lemma Move.present {c : Callback rep} (move : Move o t st c t' st')
    (shared : rep.access = .shared) (present : t.Present) :
    t'.Present ∧ ∀ v, c.given? = some v → rep.isPresent v = true := by
  cases move with
  | failed => exact ⟨present, nofun⟩
  | declined => exact ⟨present, nofun⟩
  | added _ _ own => exact ⟨present.store own, nofun⟩
  | @modified r slot v found settled =>
    have own := present _ _ found
    -- The observer cannot lay hands on the value: it is stored as it was given out.
    rw [rep.settle_of_shared shared] at settled
    subst settled
    refine ⟨present.store own, ?_⟩
    rintro v ⟨⟩
    exact own
  | removed found =>
    refine ⟨present.drop _, ?_⟩
    rintro v ⟨⟩
    exact present _ _ found

/-- Along a trace every shared value is present, and so is every value that callbacks give. -/
lemma Trace.present {cs : List (Callback rep)} (trace : Trace o t st cs t' st')
    (shared : rep.access = .shared) (present : t.Present) :
    t'.Present ∧ ∀ c ∈ cs, ∀ v, c.given? = some v → rep.isPresent v = true := by
  induction trace with
  | nil => exact ⟨present, nofun⟩
  | cons move _ ih =>
    obtain ⟨next, given⟩ := move.present shared present
    obtain ⟨last, others⟩ := ih next
    refine ⟨last, fun c mem => ?_⟩
    rcases List.mem_cons.1 mem with rfl | mem
    · exact given
    · exact others c mem

/-- An event takes a service up only where there is room for it. -/
lemma Intake.size_le {e out} (intake : Intake o t st e out) {capacity : Nat}
    (bound : t.config.capacity = some capacity) (le : t.size ≤ capacity) :
    out.tracker.size ≤ capacity := by
  cases intake with
  | known | full | failed | declined | ignoring | notTracked => exact le
  | @added e r v offers room =>
    have room := reached?_eq_none_iff.1 room capacity bound
    have size := size_store t ⟨r, v⟩
    show (t.store ⟨r, v⟩).size ≤ capacity
    omega
  | @modified r slot v found =>
    have size := size_store t ⟨r, v⟩
    rw [contains_iff.2 ⟨slot, found⟩] at size
    show (t.store ⟨r, v⟩).size ≤ capacity
    rw [Bool.toNat_true] at size
    omega
  | @removed r =>
    have size := size_drop t r.id
    show (t.drop r.id).size ≤ capacity
    omega

/-- What holds of a tracker in all its states. -/
structure Invariant (config : Config) (t : Tracker rep) : Prop where
  config_eq : t.config = config
  keyed : t.Keyed
  bounded : ∀ capacity, config.capacity = some capacity → t.size ≤ capacity
  present : rep.access = .shared → t.Present

/-- The invariant holds of a fresh tracker. -/
lemma invariant_fresh (config : Config) : Invariant config (fresh config : Tracker rep) where
  config_eq := rfl
  keyed := keyed_fresh config
  bounded _ _ := Nat.zero_le _
  present _ := nofun

/-- An operation keeps the invariant. -/
lemma Invariant.perform (inv : Invariant config t) (o : Observer rep σ)
    (op : Operation rep.subject) (st : σ) : Invariant config (t.perform o op st).tracker := by
  have trace := perform_trace (o := o) t inv.keyed op st
  refine ⟨trace.config_eq.trans inv.config_eq, trace.keyed inv.keyed, fun capacity bound => ?_,
    fun shared => (trace.present shared (inv.present shared)).1⟩
  -- The callbacks account for all but the bound, which rests on there having been room.
  have le := inv.bounded capacity bound
  cases op with
  | apply e =>
    rw [← inv.config_eq] at bound
    exact (apply_intake t o e st).size_le bound le
  | remove id =>
    have size := size_drop t id
    show (t.remove o id st).tracker.size ≤ capacity
    rw [remove_tracker]
    omega
  | close =>
    show (t.close o st).tracker.size ≤ capacity
    rw [tracker_close]
    exact Nat.zero_le _

/-- The invariant holds whatever is done to a tracker. -/
lemma Invariant.after (inv : Invariant config t) (o : Observer rep σ)
    (ops : List (Operation rep.subject)) (st : σ) : Invariant config (t.after o ops st).1 := by
  induction ops generalizing t st with
  | nil => exact inv
  | cons op ops ih => exact ih (inv.perform o op st) _

/-- The references that are listed are those of the tracked services, each under its number. -/
lemma map_id_references (keyed : t.Keyed) : t.references.map Reference.id = t.ids := by
  rw [references, Table.values, List.map_map, List.map_map]
  refine List.map_congr_left fun entry mem => ?_
  exact keyed entry.1 entry.2 (Table.get?_eq_some_iff.2 mem)

/-- There are as many references as services. -/
lemma length_references (t : Tracker rep) : t.references.length = t.size := by
  rw [references, Table.values, List.length_map, List.length_map]
  rfl

/-- The services of a tracker are listed in ascending order. -/
lemma ids_ascending (t : Tracker rep) : t.ids.Pairwise fun a b => a.number < b.number := by
  refine List.pairwise_map.2 (t.slots.ascending.imp fun {a b} less => ?_)
  exact compareOfLessAndEq_eq_lt.1 less

/-- Where a service is added, the callbacks about it go on with the question for it. -/
lemma about_calls_of_added (t : Tracker rep) (o : Observer rep σ)
    (before later : List (Operation rep.subject)) (e : Event rep.subject) (st : σ) {v : rep.Value}
    (asked : ((t.after o before st).1.apply o e (t.after o before st).2).calls =
      [.adding e.reference (.ok v)]) :
    let out := (t.after o before st).1.apply o e (t.after o before st).2
    about e.id (t.calls o (before ++ .apply e :: later) st) = about e.id (t.calls o before st) ++
      .adding e.reference (.ok v) :: about e.id (out.tracker.calls o later out.state) := by
  intro out
  have own : about e.id out.calls = [.adding e.reference (.ok v)] := by
    rw [asked]
    exact about_of_forall fun c mem => List.mem_singleton.1 mem ▸ rfl
  rw [calls_append, calls_cons, about_append, about_append]
  show _ ++ (about e.id out.calls ++ _) = _
  rw [own]
  rfl

/-- The callbacks about a tracked service end with the one by which it was added and with its
changes since. Its value is present unless one of these cleared it. -/
lemma present_or_cleared (config : Config) (o : Observer rep σ) (ops : List (Operation rep.subject))
    (st : σ) {id : ServiceId} {slot : Slot rep}
    (tracked : ((fresh config).after o ops st).1.slots.get? id = some slot) :
    ∃ earlier r v since,
      about id ((fresh config).calls o ops st) = earlier ++ .adding r (.ok v) :: since ∧
      rep.isPresent v = true ∧ (∀ c ∈ since, c.isModified = true) ∧
      (rep.isPresent slot.value = true ∨ ∃ c ∈ since, c.isClearing = true) := by
  obtain ⟨_, found, -⟩ | ⟨before, e, later, v, rfl, rfl, added, asked, carried⟩ :=
    exists_origin (fresh config) (keyed_fresh config) ops st tracked
  · cases found
  · have intake := apply_intake ((fresh config).after o before st).1 o e
      ((fresh config).after o before st).2
    obtain ⟨-, w, present, asked', -⟩ := intake.added_inv added
    -- The slot has been carried on from the event that added the service, by changes alone.
    cases asked.symm.trans asked'
    refine ⟨_, _, v, _, about_calls_of_added (fresh config) o before later e st asked, present, ?_⟩
    rw [carried.calls_eq, carried.slot_eq]
    exact ⟨fun c mem => Slot.isModified_of_mem_told mem, Slot.present_or_cleared o _ _ present⟩

/-- The representation of trackers is sound. However a tracker is made, whatever is done to it and
whoever observes, its settings are the usable ones that it was made with; its references stand in
ascending order of their numbers, each for the slot of its own service, and all that lists or looks
up services agrees with them; there are no more of them than the capacity allows. Values that
observers only look at are present, and so are those that the observer is given. A value that the
observer may change is present unless a change since its service was added cleared it. -/
theorem invariant_of_made {t₀ : Tracker rep} (made : Made config t₀) (o : Observer rep σ) (st : σ)
    (ops : List (Operation rep.subject)) :
    let t := (t₀.after o ops st).1
    let cs := t₀.calls o ops st
    let listed := t.references.map Reference.id
    (t.config = config ∧ config.Usable) ∧
    (∀ id slot, t.slots.get? id = some slot → slot.reference.id = id) ∧
    (listed.Pairwise (fun a b => a.number < b.number) ∧ t.references.length = t.size) ∧
    (∀ id, (t.contains id = true ↔ id ∈ listed) ∧ (t.contains id = true ↔ (t.get? id).isSome)) ∧
    t.outline = .record "TrackedSlots"
      [("name", .text config.name), ("tracked", .list (listed.map ServiceId.outline))] ∧
    (∀ capacity, config.capacity = some capacity → t.size ≤ capacity) ∧
    (rep.access = .shared →
      (∀ id v, t.get? id = some v → rep.isPresent v = true) ∧
      ∀ c ∈ cs, ∀ v, c.given? = some v → rep.isPresent v = true) ∧
    (rep.access = .exclusive → ∀ id v, t.get? id = some v → rep.isPresent v = true ∨
      ∃ earlier r w since, about id cs = earlier ++ .adding r (.ok w) :: since ∧
        rep.isPresent w = true ∧ (∀ c ∈ since, c.isModified = true) ∧
        ∃ c ∈ since, c.isClearing = true) := by
  obtain rfl := made.eq_fresh
  intro t cs listed
  have inv : Invariant config t := (invariant_fresh config).after o ops st
  have listed_eq : listed = t.ids := map_id_references inv.keyed
  have trace := run_trace (o := o) (fresh config) (keyed_fresh config) ops st
  refine ⟨⟨inv.config_eq, made.usable⟩, inv.keyed, ⟨?_, length_references t⟩, fun id => ⟨?_, ?_⟩,
    ?_, inv.bounded, fun shared => ⟨fun id v kept => ?_, ?_⟩, fun _ id v kept => ?_⟩
  · rw [listed_eq]
    exact ids_ascending t
  · rw [listed_eq, mem_ids_iff]
  · rw [get?, Option.isSome_map]
    rfl
  · rw [listed_eq, outline, inv.config_eq]
  · obtain ⟨slot, found, rfl⟩ := Option.map_eq_some_iff.1 kept
    exact inv.present shared id slot found
  · exact (trace.present shared nofun).2
  · obtain ⟨slot, found, rfl⟩ := Option.map_eq_some_iff.1 kept
    obtain ⟨earlier, r, w, since, split, present, changes, here | cleared⟩ :=
      present_or_cleared config o ops st found
    · exact .inl here
    · exact .inr ⟨earlier, r, w, since, split, present, changes, cleared⟩

/-- A script that grants leases and takes them back when something changes. -/
def revokes : Script := ⟨{ sample := .number 5, onModified := .clear }, []⟩

/-- Of three services two can be tracked, and the first of them changes. -/
def crowded : List (Operation Pair.lease.rep.subject) :=
  [.apply (.registered ⟨⟨2⟩, 0⟩), .apply (.registered ⟨⟨1⟩, 0⟩), .apply (.registered ⟨⟨3⟩, 0⟩),
    .apply (.modified ⟨⟨1⟩, 7⟩)]

/-- The tracker keeps to its capacity, and the absent lease was cleared by a change. -/
theorem invariant_of_made_crowded :
    let config : Config := ⟨"small", true, some 2⟩
    let t₀ : Tracker Pair.lease.rep := fresh config
    let o := Pair.lease.scripted revokes
    let t := (t₀.after o crowded (.ofThings [])).1
    Made config t₀ ∧ t.references = [⟨⟨1⟩, 7⟩, ⟨⟨2⟩, 0⟩] ∧ t.size ≤ 2 ∧
      t.get? ⟨1⟩ = some (⟨none⟩ : Lease) ∧
      ∃ c ∈ t₀.calls o crowded (.ofThings []), c.isClearing = true := by
  intro config t₀ o t
  have made : Made config t₀ := made_fresh (by decide)
  have absent : t.get? ⟨1⟩ = some (⟨none⟩ : Lease) := by rfl
  obtain ⟨-, -, -, -, -, bounded, -, changed⟩ := invariant_of_made made o (.ofThings []) crowded
  obtain present | ⟨_, _, _, since, split, -, -, c, mem, clearing⟩ := changed rfl ⟨1⟩ _ absent
  · cases present
  · have told : c ∈ about ⟨1⟩ (t₀.calls o crowded (.ofThings [])) := by
      rw [split]
      exact List.mem_append_right _ (List.mem_cons_of_mem _ mem)
    exact ⟨made, by rfl, bounded 2 rfl, absent, c, List.mem_of_mem_filter told, clearing⟩

end Tracker

end ServiceWatch
