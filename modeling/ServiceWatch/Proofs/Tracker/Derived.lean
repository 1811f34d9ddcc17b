import ServiceWatch.Observer.Standard
import ServiceWatch.Proofs.Tracker.Membership

/-!
# Trackers of what is offered

A tracker under the standard observer, with values that can be read off an offering. The observer's
answer is settled by what the registry has at the moment, so that the slot of a service after news of
it is a function of the slot before, of the news and of the offering (`upon`, `Intake.get?_eq`), and
the answer to news that offers it says whether the offering is of use (`result_of_offers`).
-/

namespace ServiceWatch

/-- A value that does not change settles as it is. -/
lemma Representation.settle_self (rep : Representation) (v : rep.Value) : rep.settle v v = v := by
  rw [settle]
  split <;> rfl

namespace Tracker

variable {rep : Representation} {snapshot : Offering → rep.Value}

/-- What is kept for a service that is taken up while it offers this. -/
def takenUp (snapshot : Offering → rep.Value) (o : Offering) (r : Reference rep.subject) :
    Option (Slot rep) :=
  if rep.isPresent (snapshot o) then some ⟨r, snapshot o⟩ else none

/-- What is there in an offering is kept. -/
lemma takenUp_of_present {o : Offering} (present : rep.isPresent (snapshot o) = true)
    (r : Reference rep.subject) : takenUp snapshot o r = some ⟨r, snapshot o⟩ :=
  if_pos present

/-- What is not there is not kept. -/
lemma takenUp_of_absent {o : Offering} (absent : rep.isPresent (snapshot o) = false)
    (r : Reference rep.subject) : takenUp snapshot o r = none :=
  if_neg (Bool.eq_false_iff.1 absent)

/-- What is kept, by whether it is absent. -/
lemma takenUp_eq {o : Offering} {absent : Bool} (h : rep.isPresent (snapshot o) = !absent)
    (r : Reference rep.subject) :
    takenUp snapshot o r = if absent then none else some ⟨r, snapshot o⟩ := by
  cases absent with
  | false => exact takenUp_of_present h r
  | true => exact takenUp_of_absent h r

/-- What is kept for a service once news of it is taken in, given what it offers by then and what
was kept for it before. -/
def upon (snapshot : Offering → rep.Value) (eager : Bool) (o : Offering) :
    Option (Slot rep) → Event rep.subject → Option (Slot rep)
  | slot, .registered r => slot.or (takenUp snapshot o r)
  | some slot, .modified r => some ⟨r, slot.value⟩
  | none, .modified r => if eager then takenUp snapshot o r else none
  | _, .unregistering _ => none

variable {t : Tracker rep} {g : Registry} {name : String} {e : Event rep.subject}
  {out : Outcome rep Registry (Except Fault Change)}

/-- News that offer a service take it up as it is by then. -/
lemma Offers.upon_eq {r : Reference rep.subject} (offers : t.Offers e r) (o : Offering) :
    upon snapshot t.config.trackOnModified o (t.slots.get? e.id) e = takenUp snapshot o r := by
  cases offers with
  | registered untracked =>
    show upon _ _ _ (t.slots.get? r.id) _ = _
    rw [untracked]
    rfl
  | modified untracked eager =>
    show upon _ _ _ (t.slots.get? r.id) _ = _
    rw [untracked, eager]
    rfl

/-- Of a service that is tracked, only its last news changes what is kept. -/
lemma value_upon_kept (eager : Bool) (o : Offering) (slot : Slot rep) (e : Event rep.subject) :
    (upon snapshot eager o (some slot) e).map Slot.value =
      if e.isLast then none else some slot.value := by
  cases e <;> rfl

/-- The standard observer answers with what is in the offering of the service. -/
lemma answer_of_derived (derived : rep.snapshot? = some snapshot) (r : Reference rep.subject) :
    ((Observer.standard rep Registry.context name).adding r g).answer =
      .ok (snapshot (g.offering r.id)) := by
  rw [Observer.answer_adding_standard, Representation.convert, derived]
  rfl

/-- What news of a service makes of its slot, unless there would be no room for it. -/
lemma Intake.get?_eq (intake : Intake (.standard rep Registry.context name) t g e out)
    (derived : rep.snapshot? = some snapshot)
    (room : t.slots.get? e.id = none → t.reached? = none) :
    out.tracker.slots.get? e.id =
      upon snapshot t.config.trackOnModified (g.offering e.id) (t.slots.get? e.id) e := by
  cases intake with
  | @known r slot found =>
    show t.slots.get? r.id = upon _ _ _ (t.slots.get? r.id) _
    rw [found]
    rfl
  | full offers full =>
    rw [room (offers.id_eq ▸ offers.untracked)] at full
    cases full
  | failed offers room answer =>
    rw [answer_of_derived derived] at answer
    cases answer
  | declined offers room answer absent =>
    rw [answer_of_derived derived] at answer
    cases answer
    rw [offers.upon_eq, offers.id_eq, takenUp_of_absent absent]
    exact offers.untracked
  | added offers room answer present =>
    rw [answer_of_derived derived] at answer
    cases answer
    rw [offers.upon_eq, offers.id_eq, takenUp_of_present present, get?_store]
    exact if_pos rfl
  | @modified r slot v found settled =>
    show (t.store ⟨r, v⟩).slots.get? r.id = upon _ _ _ (t.slots.get? r.id) _
    rw [get?_store, found, settled, Observer.answer_modified_standard, rep.settle_self]
    exact if_pos rfl
  | @ignoring r untracked lazy =>
    show t.slots.get? r.id = upon _ _ _ (t.slots.get? r.id) _
    rw [untracked, lazy]
    rfl
  | @removed r slot v found settled =>
    show (t.drop r.id).slots.get? r.id = _
    rw [get?_drop]
    exact if_pos rfl
  | @notTracked r untracked =>
    show t.slots.get? r.id = _
    exact untracked

/-- Where there is room, a service that is offered is asked for. -/
lemma apply_of_offers {σ : Type} {o : Observer rep σ} {st : σ} {r : Reference rep.subject}
    (offers : t.Offers e r) (room : t.reached? = none) : t.apply o e st = t.ask o r st := by
  cases offers with
  | registered untracked =>
    rw [apply, add, not_contains_iff.2 untracked, room]
    rfl
  | modified untracked eager =>
    rw [apply, modify, untracked]
    simp only [eager, if_true]
    rw [add, not_contains_iff.2 untracked, room]
    rfl

/-- What a service that is offered is answered with, where there is room. -/
lemma result_of_offers (derived : rep.snapshot? = some snapshot) {r : Reference rep.subject}
    (offers : t.Offers e r) (room : t.reached? = none) (g : Registry) (name : String) :
    (t.apply (.standard rep Registry.context name) e g).result =
      .ok (if rep.isPresent (snapshot (g.offering r.id)) then .added else .declined) := by
  rw [apply_of_offers offers room, ask, answer_of_derived derived]
  cases present : rep.isPresent (snapshot (g.offering r.id)) <;> simp [present]

end Tracker

end ServiceWatch
