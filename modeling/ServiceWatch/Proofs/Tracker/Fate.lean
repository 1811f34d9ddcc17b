import ServiceWatch.Proofs.Tracker.Lifecycle
import ServiceWatch.Proofs.Tracker.Membership

/-!
# The fate of a service

What one operation does to one service: its slot before and after, and the callbacks about it. `Fate`
lists the possibilities, and `perform_fate` says that there are no others, whatever the operation
does to other services. Where `Intake` looks at one event and the whole tracker, `Fate` looks at any
operation and one slot, which is what a statement about a service's own history needs.
-/

namespace ServiceWatch

/-- The reference that an operation brings as a change of a service. -/
def Operation.change? {s : Subject} (id : ServiceId) : Operation s → Option (Reference s)
  | apply (.modified r) => if r.id = id then some r else none
  | _ => none

/-- The callbacks about one service. -/
def Callback.about {rep : Representation} (id : ServiceId) (cs : List (Callback rep)) :
    List (Callback rep) :=
  cs.filter fun c => c.reference.id = id

namespace Callback

variable {rep : Representation} {id : ServiceId}

/-- What is about a service in two lists is what is about it in both. -/
@[simp]
lemma about_append (cs cs' : List (Callback rep)) :
    about id (cs ++ cs') = about id cs ++ about id cs' :=
  List.filter_append ..

/-- Callbacks that are all about a service stay. -/
lemma about_of_forall {cs : List (Callback rep)} (own : ∀ c ∈ cs, c.reference.id = id) :
    about id cs = cs :=
  List.filter_eq_self.2 fun c hc => decide_eq_true (own c hc)

/-- Of callbacks about other services none stays. -/
lemma about_eq_nil {cs : List (Callback rep)} (foreign : ∀ c ∈ cs, c.reference.id ≠ id) :
    about id cs = [] :=
  List.filter_eq_nil_iff.2 fun c hc => by simpa using foreign c hc

end Callback

namespace Tracker

open Callback

variable {rep : Representation} {σ : Type} {o : Observer rep σ} {id : ServiceId} {st : σ}
  {op : Operation rep.subject}

/-- What an operation does to the slot of a service, and the callbacks about the service. -/
inductive Fate (o : Observer rep σ) (id : ServiceId) (st : σ) (op : Operation rep.subject) :
    Option (Slot rep) → List (Callback rep) → Option (Slot rep) → Prop
  | spared {slot} : op.change? id = none → Fate o id st op slot [] slot
  | ignored : Fate o id st op none [] none
  | rejected {r answer} : Fate o id st op none [.adding r answer] none
  | added {e v} : op = .apply e → e.id = id →
      Fate o id st op none [.adding e.reference (.ok v)] (some ⟨e.reference, v⟩)
  | changed {slot r v} : op.change? id = some r →
      v = rep.settle slot.value (o.modified r slot.value st).answer →
      Fate o id st op (some slot) [.modified r slot.value v] (some ⟨r, v⟩)
  | removed {slot v} : Fate o id st op (some slot) [.removed slot.reference slot.value v] none

/-- An event seals the fate of its own service. -/
lemma Intake.fate {t : Tracker rep} {e out} (intake : Intake o t st e out) (keyed : t.Keyed) :
    Fate o e.id st (.apply e) (t.slots.get? e.id) (about e.id out.calls)
      (out.tracker.slots.get? e.id) := by
  rw [about_of_forall fun c hc => (intake.isAdding_eq keyed c hc).2]
  cases intake with
  | known => exact .spared rfl
  | full offers =>
    rw [offers.id_eq, offers.untracked]
    exact .ignored
  | failed offers =>
    rw [offers.id_eq, offers.untracked]
    exact .rejected
  | declined offers =>
    rw [offers.id_eq, offers.untracked]
    exact .rejected
  | @added e r v offers =>
    obtain rfl := offers.reference_eq
    show Fate o e.id st _ (t.slots.get? e.reference.id) _
      ((t.store ⟨e.reference, v⟩).slots.get? e.reference.id)
    rw [offers.untracked, get?_store, if_pos rfl]
    exact .added rfl rfl
  | @modified r slot v found settled =>
    show Fate o r.id st _ (t.slots.get? r.id) _ ((t.store ⟨r, v⟩).slots.get? r.id)
    rw [found, get?_store, if_pos rfl]
    exact .changed (if_pos rfl) settled
  | @ignoring r untracked =>
    show Fate o r.id st _ (t.slots.get? r.id) _ (t.slots.get? r.id)
    rw [untracked]
    exact .ignored
  | @removed r slot v found =>
    show Fate o r.id st _ (t.slots.get? r.id) _ ((t.drop r.id).slots.get? r.id)
    rw [found, get?_drop, if_pos rfl]
    exact .removed
  | @notTracked r untracked =>
    show Fate o r.id st _ (t.slots.get? r.id) _ (t.slots.get? r.id)
    rw [untracked]
    exact .ignored

/-- An operation on another service spares this one. -/
lemma perform_of_ne (t : Tracker rep) (keyed : t.Keyed) (op : Operation rep.subject)
    {id' : ServiceId} (named : op.id? = some id') (other : id' ≠ id) (st : σ) :
    about id (t.perform o op st).calls = [] ∧
      (t.perform o op st).tracker.slots.get? id = t.slots.get? id := by
  constructor
  · refine about_eq_nil fun c hc => ?_
    rw [(perform_calls_of_id? t keyed named st).2 c hc]
    exact other
  · cases op with
    | apply e =>
      cases named
      exact (apply_intake t o e st).touches.others id other
    | remove =>
      cases named
      show (t.remove o id' st).tracker.slots.get? id = _
      rw [remove_tracker, get?_drop, if_neg other.symm]
    | close => cases named

/-- Of the listed services that are given up, each that was tracked is told of once. -/
lemma about_removeAll (id : ServiceId) (t : Tracker rep) (keyed : t.Keyed) (ids : List ServiceId)
    (st : σ) :
    about id (t.removeAll o ids st).calls = [] ∧ (id ∈ ids → t.slots.get? id = none) ∨
      ∃ slot v, id ∈ ids ∧ t.slots.get? id = some slot ∧
        about id (t.removeAll o ids st).calls = [.removed slot.reference slot.value v] := by
  induction ids generalizing t st with
  | nil => exact .inl ⟨rfl, nofun⟩
  | cons first others ih =>
    have kept := (remove_trace (o := o) t keyed first st).keyed keyed
    have rest := ih _ kept (t.remove o first st).state
    rw [remove_tracker, get?_drop] at rest
    rw [removeAll, remove_tracker, about_append]
    by_cases same : id = first
    · subst same
      rw [if_pos rfl] at rest
      obtain ⟨silent, -⟩ | ⟨_, _, _, found, -⟩ := rest
      · rw [silent, List.append_nil]
        cases found : t.slots.get? id with
        | none =>
          rw [remove_of_untracked found]
          exact .inl ⟨rfl, fun _ => rfl⟩
        | some slot =>
          obtain rfl := keyed _ _ found
          rw [remove_of_tracked found]
          exact .inr ⟨slot, _, List.mem_cons_self, rfl, List.filter_cons_of_pos (by simp [reference])⟩
      · cases found
    · rw [if_neg same] at rest
      have silent : about id (t.remove o first st).calls = [] :=
        about_eq_nil fun c hc => (remove_isAdding t keyed first st c hc).2.1 ▸ Ne.symm same
      rw [silent, List.nil_append]
      simpa [same] using rest

/-- An operation does to a service one of the things that `Fate` lists. -/
theorem perform_fate (t : Tracker rep) (keyed : t.Keyed) (o : Observer rep σ) (id : ServiceId)
    (op : Operation rep.subject) (st : σ) :
    Fate o id st op (t.slots.get? id) (about id (t.perform o op st).calls)
      ((t.perform o op st).tracker.slots.get? id) := by
  cases op with
  | apply e =>
    by_cases same : e.id = id
    · subst same
      exact (apply_intake t o e st).fate keyed
    · obtain ⟨silent, untouched⟩ := perform_of_ne (o := o) t keyed (.apply e) rfl same st
      rw [silent, untouched]
      refine .spared ?_
      cases e with
      | modified r => exact if_neg same
      | registered => rfl
      | unregistering => rfl
  | remove id' =>
    by_cases same : id' = id
    · subst same
      show Fate o id' st _ _ (about id' (t.remove o id' st).calls)
        ((t.remove o id' st).tracker.slots.get? id')
      rw [remove_tracker, get?_drop, if_pos rfl]
      cases found : t.slots.get? id' with
      | none =>
        rw [remove_of_untracked found]
        exact .ignored
      | some slot =>
        obtain rfl := keyed _ _ found
        rw [remove_of_tracked found, about_of_forall fun c hc => by simp_all [reference]]
        exact .removed
    · obtain ⟨silent, untouched⟩ := perform_of_ne (o := o) t keyed (.remove id') rfl same st
      rw [silent, untouched]
      exact .spared rfl
  | close =>
    show Fate o id st _ _ (about id (t.close o st).calls) ((t.close o st).tracker.slots.get? id)
    have gone : (t.close o st).tracker.slots.get? id = none := by
      rw [tracker_close]
      rfl
    rw [calls_close, gone]
    obtain ⟨silent, untracked⟩ | ⟨slot, v, -, found, told⟩ :=
      about_removeAll (o := o) id t keyed t.ids st
    · rw [silent]
      cases found : t.slots.get? id with
      | none => exact .ignored
      | some slot =>
        have listed : id ∈ t.ids := mem_ids_iff.2 (contains_iff.2 ⟨slot, found⟩)
        rw [untracked listed] at found
        cases found
    · rw [told, found]
      exact .removed

end Tracker

end ServiceWatch
