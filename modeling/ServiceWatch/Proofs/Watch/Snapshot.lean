import ServiceWatch.Proofs.Tracker.Derived
import ServiceWatch.Watch

/-!
# Snapshots

What a watch keeps for a service is what the registry had for it when it was taken up, and nothing
else. The answer to news that offers a service, and the slot after it, are read off the registration
of that moment: `Registry.Serves` and `Registry.Lists` say what there is to be read. From then on an
action gives the service up or leaves its value alone (`get?_turn`), whatever becomes of the
registration. `Turn.Keeps` puts this together, and `snapshot_of_offers` has it for the two
representations that can be read off an offering.
-/

namespace ServiceWatch

namespace Registry

variable {g : Registry} {id : ServiceId}

/-- The service is registered, and under the contract's interface id there is a box of exactly this
contract, with the object that the handle points at. -/
def Serves (g : Registry) (id : ServiceId) (c : Contract) (h : Handle c.subject) : Prop :=
  ∃ entry box object, g.live.get? id = some entry ∧
    entry.offering.get? c.interfaceId = some (.boxed box c object) ∧ h = ⟨some object⟩

/-- The service is registered, with these interfaces, of which there are some. -/
def Lists (g : Registry) (id : ServiceId) (o : Offering) : Prop :=
  ∃ entry, g.live.get? id = some entry ∧ entry.offering.isEmpty = false ∧ o = entry.offering

/-- An object serves exactly if it is found, in the offering of the service, for the contract. -/
lemma serves_iff {c : Contract} {h : Handle c.subject} :
    g.Serves id c h ↔ (!h.isNull) = true ∧ (g.offering id).service c = h := by
  constructor
  · rintro ⟨entry, box, object, live, boxed, rfl⟩
    rw [offering_of_live live]
    exact ⟨rfl, Offering.service_eq_iff.2 ⟨box, boxed⟩⟩
  · rintro ⟨pointing, found⟩
    obtain ⟨pointee⟩ := h
    cases pointee with
    | none => cases pointing
    | some object =>
      obtain ⟨box, boxed⟩ := Offering.service_eq_iff.1 found
      -- The box is in a registration, as what is gone offers nothing at all.
      cases live : g.live.get? id with
      | none =>
        rw [offering_of_gone live] at boxed
        cases boxed
      | some entry =>
        rw [offering_of_live live] at boxed
        exact ⟨entry, box, object, live, boxed, rfl⟩

/-- An offering is listed exactly if it is not empty and is that of the service. -/
lemma lists_iff {o : Offering} : g.Lists id o ↔ (!o.isEmpty) = true ∧ g.offering id = o := by
  constructor
  · rintro ⟨entry, live, filled, rfl⟩
    rw [filled]
    exact ⟨rfl, offering_of_live live⟩
  · rintro ⟨filled, rfl⟩
    rw [Bool.not_eq_true'] at filled
    cases live : g.live.get? id with
    | none =>
      rw [offering_of_gone live] at filled
      cases filled
    | some entry =>
      rw [offering_of_live live] at filled ⊢
      exact ⟨entry, live, filled, rfl⟩

end Registry

namespace Watch

open Tracker

/-- Whether an action gives up a service that is tracked. -/
def Action.givesUp {s : Subject} (id : ServiceId) : Action s → Bool
  | .registry _ => false
  | .tracker (.apply e) => e.isLast && decide (e.id = id)
  | .tracker (.remove id') => decide (id' = id)
  | .tracker .close => true

variable {rep : Representation}

/-- A turn offers a service of which the registry has these values, at most one: the turn is
answered by the service being added if there is one and by its being declined if not, the value is
kept under the reference of the news, and it is kept as it is until the service is given up. -/
structure Turn.Keeps (turn : Turn rep) (name : String) (r : Reference rep.subject)
    (offered : rep.Value → Prop) : Prop where
  answer_eq : turn.answer = .tracker (.applied (.ok .added)) ∨
    turn.answer = .tracker (.applied (.ok .declined))
  added_iff : turn.answer = .tracker (.applied (.ok .added)) ↔ ∃ v, offered v
  slot_eq : ∀ v, offered v → turn.after.tracker.slots.get? r.id = some ⟨r, v⟩
  stays : ∀ v, offered v → ∀ as : List (Action rep.subject), (∀ a ∈ as, a.givesUp r.id = false) →
    (turn.after.after name as).tracker.get? r.id = some v
  leaves : ∀ v, offered v → ∀ as : List (Action rep.subject), (∀ a ∈ as, a.givesUp r.id = false) →
    ∀ a : Action rep.subject, a.givesUp r.id = true →
      ((turn.after.after name as).turn name a).after.tracker.get? r.id = none

variable {snapshot : Offering → rep.Value} {w : Watch rep} {id : ServiceId} {v : rep.Value}

/-- What is kept for a service goes when the service is given up, and is otherwise left alone. -/
lemma get?_turn (derived : rep.snapshot? = some snapshot) (kept : w.tracker.get? id = some v)
    (name : String) (a : Action rep.subject) :
    (w.turn name a).after.tracker.get? id = if a.givesUp id then none else some v := by
  obtain ⟨slot, found, rfl⟩ := Option.map_eq_some_iff.1 kept
  cases a with
  | registry a => exact kept
  | tracker op =>
    cases op with
    | apply e =>
      have intake := apply_intake w.tracker (.standard rep Registry.context name) e w.registry
      show ((w.tracker.apply _ e _).tracker.slots.get? id).map Slot.value =
        if e.isLast && decide (e.id = id) then none else some slot.value
      by_cases own : e.id = id
      · subst own
        -- The service has its slot already, so that it does not matter whether there is room.
        have room : w.tracker.slots.get? e.id = none → w.tracker.reached? = none := by
          intro untracked
          rw [found] at untracked
          cases untracked
        rw [intake.get?_eq derived room, found, value_upon_kept, decide_eq_true rfl, Bool.and_true]
      · rw [intake.touches.others id own, decide_eq_false own, Bool.and_false, found]
        rfl
    | remove id' =>
      show ((w.tracker.remove _ id' _).tracker.slots.get? id).map Slot.value =
        if decide (id' = id) then none else some slot.value
      rw [remove_tracker, get?_drop]
      by_cases own : id' = id
      · rw [decide_eq_true own, if_pos own.symm]
        rfl
      · rw [decide_eq_false own, if_neg (Ne.symm own), found]
        rfl
    | close =>
      show ((w.tracker.close _ _).tracker.slots.get? id).map Slot.value = none
      rw [tracker_close]
      rfl

/-- What is kept for a service stays until the service is given up. -/
lemma get?_after (derived : rep.snapshot? = some snapshot) (kept : w.tracker.get? id = some v)
    (name : String) {as : List (Action rep.subject)} (held : ∀ a ∈ as, a.givesUp id = false) :
    (w.after name as).tracker.get? id = some v := by
  induction as generalizing w with
  | nil => exact kept
  | cons a as ih =>
    have next := get?_turn derived kept name a
    rw [held a List.mem_cons_self] at next
    exact ih next fun b mem => held b (List.mem_cons_of_mem a mem)

/-- A service that is offered is added if there is something to keep, and declined if not. -/
lemma answer_of_offers (derived : rep.snapshot? = some snapshot) (name : String)
    {e : Event rep.subject} {r : Reference rep.subject} (offers : w.tracker.Offers e r)
    (room : w.tracker.reached? = none) :
    (w.turn name (.tracker (.apply e))).answer = .tracker (.applied
      (.ok (if rep.isPresent (snapshot (w.registry.offering r.id)) then .added else .declined))) :=
  congrArg (Answer.tracker ∘ Result.applied)
    (result_of_offers derived offers room w.registry name)

/-- A service that is offered where there is room is kept as it is read off the registry. -/
lemma keeps_of_offers (derived : rep.snapshot? = some snapshot) (name : String)
    {e : Event rep.subject} {r : Reference rep.subject} (offers : w.tracker.Offers e r)
    (room : w.tracker.reached? = none) {offered : rep.Value → Prop}
    (read : ∀ v, offered v ↔
      rep.isPresent v = true ∧ snapshot (w.registry.offering r.id) = v) :
    (w.turn name (.tracker (.apply e))).Keeps name r offered := by
  have intake := apply_intake w.tracker (.standard rep Registry.context name) e w.registry
  have answer := answer_of_offers derived name offers room
  have useful : (∃ v, offered v) ↔ rep.isPresent (snapshot (w.registry.offering r.id)) = true := by
    simp [read]
  have slot : ∀ v, offered v →
      (w.turn name (.tracker (.apply e))).after.tracker.slots.get? r.id = some ⟨r, v⟩ := by
    intro v offered
    obtain ⟨present, rfl⟩ := (read v).1 offered
    have taken := intake.get?_eq derived fun _ => room
    rw [offers.upon_eq, offers.id_eq] at taken
    exact taken.trans (takenUp_of_present present r)
  have kept : ∀ v, offered v →
      (w.turn name (.tracker (.apply e))).after.tracker.get? r.id = some v :=
    fun v offered => congrArg (Option.map Slot.value) (slot v offered)
  refine ⟨?_, ?_, slot, fun v offered as held => ?_, fun v offered as held a given => ?_⟩
  · rw [answer]
    cases rep.isPresent (snapshot (w.registry.offering r.id)) <;> simp
  · rw [answer, useful]
    cases rep.isPresent (snapshot (w.registry.offering r.id)) <;> simp
  · exact get?_after derived (kept v offered) name held
  · rw [get?_turn derived (get?_after derived (kept v offered) name held) name a, given]
    rfl

/-- Tracking what is offered takes a faithful snapshot. News that offers a service, in a watch in any
state and with room for another service, is never answered with a fault. The service is added exactly
if the registry has something of it at that moment: for a contract an object in a box of exactly this
contract, for no particular subject a list of interfaces that is not empty. That very object or list
is kept, and nothing that happens in the registry or comes in as news changes it until the service is
given up. -/
theorem snapshot_of_offers (name : String) :
    (∀ (c : Contract) (w : Watch (.sameService c)) (e : Event c.subject) (r : Reference c.subject),
      w.tracker.Offers e r →
      (∀ capacity, w.tracker.config.capacity = some capacity → w.tracker.size < capacity) →
      (w.turn name (.tracker (.apply e))).Keeps name r (w.registry.Serves r.id c)) ∧
    (∀ (w : Watch .wholeOffering) (e : Event .untyped) (r : Reference .untyped),
      w.tracker.Offers e r →
      (∀ capacity, w.tracker.config.capacity = some capacity → w.tracker.size < capacity) →
      (w.turn name (.tracker (.apply e))).Keeps name r (w.registry.Lists r.id)) := by
  refine ⟨fun c w e r offers room => ?_, fun w e r offers room => ?_⟩
  · exact keeps_of_offers rfl name offers (reached?_eq_none_iff.2 room)
      fun _ => Registry.serves_iff
  · exact keeps_of_offers rfl name offers (reached?_eq_none_iff.2 room)
      fun _ => Registry.lists_iff

/-- A contract of a service that goes out. -/
def lamp : Contract := ⟨"lamp", "dyn Lamp"⟩

/-- A lamp is registered. -/
def lit {s : Subject} : List (Action s) := [.registry (.registerAs 3 lamp 7 0)]

/-- A lamp is ranked anew and then gone, and news of it comes in that is late or made up. -/
def dimmed {s : Subject} : List (Action s) :=
  [.registry (.setRanking ⟨1⟩ 9), .registry (.unregister ⟨1⟩),
    .tracker (.apply (.modified ⟨⟨1⟩, 4⟩)), .tracker (.apply (.registered ⟨⟨1⟩, 2⟩))]

/-- The lamp is kept after it is gone, and so are its interfaces where they are kept. -/
theorem snapshot_of_offers_dimmed :
    (let w : Watch (.sameService lamp) := (fresh .standard).after "tracker" lit
     let turn := w.turn "tracker" (.tracker (.apply (.registered ⟨⟨1⟩, 0⟩)))
     w.tracker.Offers (.registered ⟨⟨1⟩, 0⟩) ⟨⟨1⟩, 0⟩ ∧
      turn.Keeps "tracker" ⟨⟨1⟩, 0⟩ (w.registry.Serves ⟨1⟩ lamp) ∧
      w.registry.Serves ⟨1⟩ lamp ⟨some 7⟩ ∧
      (turn.after.after "tracker" dimmed).tracker.get? ⟨1⟩ = some ⟨some 7⟩) ∧
    (let w : Watch .wholeOffering := (fresh .standard).after "tracker" lit
     let turn := w.turn "tracker" (.tracker (.apply (.modified ⟨⟨1⟩, 5⟩)))
     w.tracker.Offers (.modified ⟨⟨1⟩, 5⟩) ⟨⟨1⟩, 5⟩ ∧
      turn.Keeps "tracker" ⟨⟨1⟩, 5⟩ (w.registry.Lists ⟨1⟩) ∧
      w.registry.Lists ⟨1⟩ (Offering.empty.publish 3 lamp 7) ∧
      (turn.after.after "tracker" dimmed).tracker.get? ⟨1⟩ =
        some (Offering.empty.publish 3 lamp 7)) := by
  refine ⟨?_, ?_⟩
  · intro w turn
    have offers : w.tracker.Offers (.registered ⟨⟨1⟩, 0⟩) ⟨⟨1⟩, 0⟩ := .registered rfl
    have keeps := (snapshot_of_offers "tracker").1 lamp w _ _ offers nofun
    have serves : w.registry.Serves ⟨1⟩ lamp ⟨some 7⟩ :=
      ⟨⟨0, Offering.empty.publish 3 lamp 7⟩, 3, 7, by rfl, by rfl, rfl⟩
    exact ⟨offers, keeps, serves, keeps.stays _ serves dimmed (by decide)⟩
  · intro w turn
    have offers : w.tracker.Offers (.modified ⟨⟨1⟩, 5⟩) ⟨⟨1⟩, 5⟩ := .modified rfl rfl
    have keeps := (snapshot_of_offers "tracker").2 w _ _ offers nofun
    have lists : w.registry.Lists ⟨1⟩ (Offering.empty.publish 3 lamp 7) :=
      ⟨⟨0, Offering.empty.publish 3 lamp 7⟩, by rfl, by rfl, rfl⟩
    exact ⟨offers, keeps, lists, keeps.stays _ lists dimmed (by decide)⟩

end Watch

end ServiceWatch
