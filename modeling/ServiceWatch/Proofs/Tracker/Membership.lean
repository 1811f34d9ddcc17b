import ServiceWatch.Proofs.Tracker.Inversion

/-!
# Membership

Which services an operation leaves tracked, and how many. An event touches the slot of its own
service only (`Intake.touches`), and whether that one is tracked afterwards depends on
the tracker, the event and whether the observer would accept (`Intake.contains_eq`). An event
answers that its service was added or removed exactly if it came in or went out
(`Intake.isAdded_eq`, `Intake.removed_iff`).
-/

namespace ServiceWatch

/-- Whether news of a service that is not tracked asks for it to be taken up. -/
def Event.asks {s : Subject} (eager : Bool) : Event s → Bool
  | registered _ => true
  | modified _ => eager
  | unregistering _ => false

/-- Whether the event is the end of its service. -/
def Event.isLast {s : Subject} : Event s → Bool
  | unregistering _ => true
  | _ => false

/-- Whether an event was answered by its service being added. -/
def isAdded : Except Fault Change → Bool
  | .ok .added => true
  | _ => false

namespace Tracker

variable {rep : Representation} {σ : Type} {o : Observer rep σ} {t : Tracker rep} {st : σ}
  {e : Event rep.subject} {out : Outcome rep σ (Except Fault Change)}

/-- Whether the tracker would ask the observer about a service that is not tracked, given the
event, and take it up if the observer accepts. -/
def wants (t : Tracker rep) (e : Event rep.subject) : Bool :=
  e.asks t.config.trackOnModified && t.reached?.isNone

/-- The reference of an event that offers a service is that of the service. -/
lemma Offers.reference_eq {r} (offers : t.Offers e r) : e.reference = r := by
  cases offers <;> rfl

/-- An event that offers a service asks for it to be taken up. -/
lemma Offers.asks {r} (offers : t.Offers e r) : e.asks t.config.trackOnModified = true := by
  cases offers with
  | registered _ => rfl
  | modified _ eager => exact eager

/-- An event that offers a service is not its end. -/
lemma Offers.isLast {r} (offers : t.Offers e r) : e.isLast = false := by
  cases offers <;> rfl

/-- The service of an event that offers one is not tracked. -/
lemma Offers.not_contains {r} (offers : t.Offers e r) : t.contains e.id = false := by
  rw [offers.id_eq]
  exact not_contains_iff.2 offers.untracked

/-- One tracker differs from another at most in keeping one service or not, and in what it keeps for
this service. -/
structure Touches (t u : Tracker rep) (id : ServiceId) : Prop where
  config_eq : u.config = t.config
  others : ∀ id', id ≠ id' → u.slots.get? id' = t.slots.get? id'
  size_eq : u.size + (t.contains id).toNat = t.size + (u.contains id).toNat

/-- Services that are not touched stay tracked or untracked. -/
lemma Touches.contains_of_ne {u : Tracker rep} {id id' : ServiceId} (touch : t.Touches u id)
    (other : id ≠ id') : u.contains id' = t.contains id' :=
  congrArg Option.isSome (touch.others id' other)

/-- To leave a tracker as it is touches no service. -/
lemma touches_self (t : Tracker rep) (id : ServiceId) : t.Touches t id :=
  ⟨rfl, fun _ _ => rfl, rfl⟩

/-- Storing a slot touches its service only. -/
lemma touches_store (t : Tracker rep) (slot : Slot rep) :
    t.Touches (t.store slot) slot.reference.id := by
  refine ⟨rfl, fun _ other => (get?_store t slot _).trans (if_neg other.symm), ?_⟩
  have kept : (t.store slot).contains slot.reference.id = true := by simp [contains_store]
  rw [kept]
  exact size_store t slot

/-- Dropping a service touches this one only. -/
lemma touches_drop (t : Tracker rep) (id : ServiceId) : t.Touches (t.drop id) id := by
  refine ⟨rfl, fun _ other => (get?_drop t id _).trans (if_neg other.symm), ?_⟩
  have gone : (t.drop id).contains id = false := by simp [contains_drop]
  rw [gone]
  exact size_drop t id

/-- An event has nothing to do with other services than its own. -/
lemma Intake.touches (intake : Intake o t st e out) : t.Touches out.tracker e.id := by
  cases intake with
  | known | full | failed | declined | ignoring | notTracked => exact touches_self t _
  | added offers =>
    rw [offers.id_eq]
    exact touches_store t _
  | modified => exact touches_store t _
  | removed => exact touches_drop t _

/-- After its last event a service is not tracked. After any other one it is if it was, or if it
was wanted and accepted. -/
lemma Intake.contains_eq (intake : Intake o t st e out) :
    out.tracker.contains e.id = (!e.isLast && (t.contains e.id ||
      t.wants e && rep.accepts (o.adding e.reference st).answer)) := by
  cases intake with
  | known found => simp [Event.id, Event.reference, Event.isLast, contains_iff.2 ⟨_, found⟩]
  | full offers full => simp [offers.not_contains, wants, full]
  | failed offers _ answer =>
    simp [offers.not_contains, offers.reference_eq, answer, Representation.accepts]
  | declined offers _ answer absent =>
    simp [offers.not_contains, offers.reference_eq, answer, Representation.accepts, absent]
  | added offers room answer present =>
    simp [offers.isLast, offers.asks, offers.reference_eq, offers.id_eq, wants, room, answer,
      Representation.accepts, present, contains_store]
  | modified found =>
    simp [Event.id, Event.reference, Event.isLast, contains_store, contains_iff.2 ⟨_, found⟩]
  | ignoring untracked lazy =>
    simp [Event.id, Event.reference, wants, Event.asks, lazy, not_contains_iff.2 untracked]
  | removed found => simp [Event.id, Event.reference, Event.isLast, contains_drop]
  | notTracked untracked =>
    simp [Event.id, Event.reference, Event.isLast, not_contains_iff.2 untracked]

/-- A service was added if it is tracked now and was not before. -/
lemma Intake.isAdded_eq (intake : Intake o t st e out) :
    isAdded out.result = (!t.contains e.id && out.tracker.contains e.id) := by
  cases intake with
  | known | full | failed | declined | ignoring | notTracked => simp [isAdded]
  | added offers =>
    simp [isAdded, not_contains_iff.2 offers.untracked, offers.id_eq, contains_store]
  | modified found => simp [isAdded, Event.id, Event.reference, contains_iff.2 ⟨_, found⟩]
  | removed found => simp [isAdded, Event.id, Event.reference, contains_iff.2 ⟨_, found⟩]

/-- A service was removed if it was tracked before and is not now. -/
lemma Intake.removed_iff (intake : Intake o t st e out) :
    out.result = .ok .removed ↔ t.contains e.id = true ∧ out.tracker.contains e.id = false := by
  cases intake with
  | known | full | failed | declined | ignoring | notTracked => simp
  | added offers => simp [not_contains_iff.2 offers.untracked, offers.id_eq]
  | modified found => simp [Event.id, Event.reference, contains_store]
  | removed found =>
    simp [Event.id, Event.reference, contains_iff.2 ⟨_, found⟩, contains_drop]

/-- The services that the first tracker tracks and the second does not, ascending. -/
def departed (t u : Tracker rep) : List ServiceId := t.ids.filter fun id => !u.contains id

/-- The services that are listed are those that are tracked. -/
lemma mem_ids_iff {t : Tracker rep} {id : ServiceId} : id ∈ t.ids ↔ t.contains id = true :=
  Table.mem_keys_iff

/-- The listed services are tracked, and none is listed twice. -/
structure Tracks (t : Tracker rep) (ids : List ServiceId) : Prop where
  nodup : ids.Nodup
  tracked : ∀ id ∈ ids, t.contains id = true

/-- A tracker tracks the services that it lists, each once. -/
lemma tracks_ids (t : Tracker rep) : t.Tracks t.ids :=
  ⟨Table.nodup_keys t.slots, fun _ mem => mem_ids_iff.1 mem⟩

/-- There is a slot for the first of services that are tracked. -/
lemma Tracks.head {id : ServiceId} {ids : List ServiceId} (tracks : t.Tracks (id :: ids)) :
    ∃ slot, t.slots.get? id = some slot :=
  contains_iff.1 (tracks.tracked id List.mem_cons_self)

/-- The others are still tracked when the first is dropped. -/
lemma Tracks.tail {id : ServiceId} {ids : List ServiceId} (tracks : t.Tracks (id :: ids)) :
    (t.drop id).Tracks ids := by
  obtain ⟨absent, nodup⟩ := List.nodup_cons.1 tracks.nodup
  refine ⟨nodup, fun id' mem => ?_⟩
  rw [contains_drop_of_ne (ne_of_mem_of_not_mem mem absent).symm]
  exact tracks.tracked id' (List.mem_cons_of_mem id mem)

/-- A service is listed once if it is tracked. -/
lemma count_ids (t : Tracker rep) (id : ServiceId) : t.ids.count id = (t.contains id).toNat := by
  rw [(tracks_ids t).nodup.count]
  cases h : t.contains id with
  | false => exact if_neg (mt mem_ids_iff.1 (by simp [h]))
  | true => exact if_pos (mem_ids_iff.2 h)

/-- A service departs once if it is tracked before and not after. -/
lemma count_departed (t u : Tracker rep) (id : ServiceId) :
    (t.departed u).count id = (t.contains id && !u.contains id).toNat := by
  cases h : u.contains id with
  | false => rw [departed, List.count_filter (by simp [h]), count_ids, Bool.not_false, Bool.and_true]
  | true =>
    rw [Bool.not_true, Bool.and_false]
    exact List.count_eq_zero.2 fun mem => by simp [departed, h] at mem

/-- Nothing departs from a tracker that stays as it is. -/
@[simp]
lemma departed_self (t : Tracker rep) : t.departed t = [] := by
  simp [departed, mem_ids_iff]

/-- All that is tracked departs when a tracker is made anew. -/
@[simp]
lemma departed_fresh (t : Tracker rep) (config : Config) : t.departed (fresh config) = t.ids :=
  List.filter_eq_self.2 fun _ _ => rfl

/-- Where one service only is touched, no other departs. -/
lemma Touches.departed_eq {u : Tracker rep} {id : ServiceId} (touch : t.Touches u id) :
    t.departed u = if t.contains id && !u.contains id then [id] else [] := by
  have local_ : ∀ id' ∈ t.ids, (!u.contains id') = (!u.contains id && decide (id' = id)) := by
    intro id' tracked
    by_cases h : id' = id
    · simp [h]
    · simp [h, touch.contains_of_ne (Ne.symm h), mem_ids_iff.1 tracked]
  rw [departed, List.filter_congr local_]
  cases h : u.contains id with
  | true => simp
  | false =>
    rw [Bool.not_false, Bool.and_true]
    simp only [Bool.true_and]
    rw [List.filter_eq, count_ids]
    cases t.contains id <;> rfl

/-- Where an event is not answered by its service being removed, no service departs. -/
lemma Intake.departed_eq_nil (intake : Intake o t st e out) (stays : out.result ≠ .ok .removed) :
    t.departed out.tracker = [] := by
  rw [intake.touches.departed_eq]
  refine if_neg fun gone => stays (intake.removed_iff.2 ?_)
  simpa using gone

/-- No operation changes the settings. -/
@[simp]
lemma config_perform (t : Tracker rep) (o : Observer rep σ) (op : Operation rep.subject) (st : σ) :
    (t.perform o op st).tracker.config = t.config := by
  cases op with
  | apply e => exact (apply_intake t o e st).touches.config_eq
  | remove id =>
    show (t.remove o id st).tracker.config = t.config
    rw [remove_tracker, config_drop]
  | close =>
    show (t.close o st).tracker.config = t.config
    rw [tracker_close]
    rfl

/-- The settings are those that the tracker was made with, whatever is done to it. -/
@[simp]
lemma config_after (t : Tracker rep) (o : Observer rep σ) (ops : List (Operation rep.subject))
    (st : σ) : (t.after o ops st).1.config = t.config := by
  induction ops generalizing t st with
  | nil => rfl
  | cons op ops ih => exact (ih _ _).trans (config_perform t o op st)

/-- Every outcome of a run has these settings. -/
lemma config_of_mem_run {ops : List (Operation rep.subject)} {out : Outcome rep σ Result}
    (mem : out ∈ t.run o ops st) : out.tracker.config = t.config := by
  induction ops generalizing t st with
  | nil => cases mem
  | cons op ops ih =>
    rcases List.mem_cons.1 mem with rfl | mem
    · exact config_perform t o op st
    · exact (ih mem).trans (config_perform t o op st)

end Tracker

end ServiceWatch
