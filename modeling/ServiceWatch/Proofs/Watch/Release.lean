import ServiceWatch.Proofs.Tracker.Membership
import ServiceWatch.Proofs.Tracker.Trace
import ServiceWatch.Watch

/-!
# Releases

What a tracker takes from a registry it gives back: each time a service stops being tracked its
number is noted as released, once, and at no other time. So the releases of a service are as many
as the times it was added, less one while it is tracked. Both sides are read off what an action
changes. `turn_released` says that the registry notes what departs from the tracker, and
`takesUp_turn` that a turn answers `added` for a service exactly when it comes in.
-/

namespace ServiceWatch

namespace Tracker

variable {rep : Representation} {t : Tracker rep} {g : Registry}

/-- An event gives back the service that departs with it. -/
lemma Intake.released {name e out}
    (intake : Intake (.standard rep Registry.context name) t g e out) (keyed : t.Keyed) :
    out.state.released = g.released ++ t.departed out.tracker := by
  rw [intake.touches.departed_eq]
  cases intake with
  | known | full | ignoring | notTracked => simp
  | failed | declined => simp [Observer.state_adding_standard, Registry.context]
  | added offers =>
    simp [Observer.state_adding_standard, Registry.context, offers.not_contains]
  | modified => simp [Event.id, Event.reference, contains_store]
  | removed found =>
    simp [Event.id, Event.reference, contains_drop, contains_iff.2 ⟨_, found⟩, Registry.context,
      Registry.release, keyed _ _ found]

variable (name : String)

/-- A removal gives the service back if it is tracked. -/
lemma remove_released (t : Tracker rep) (keyed : t.Keyed) (id : ServiceId) (g : Registry) :
    (t.remove (.standard rep Registry.context name) id g).state.released =
      g.released ++ if t.contains id then [id] else [] := by
  cases h : t.slots.get? id with
  | none => simp [remove_of_untracked h, not_contains_iff.2 h]
  | some slot =>
    simp [remove_of_tracked h, contains_iff.2 ⟨_, h⟩, Registry.context, Registry.release,
      keyed _ _ h]

/-- Tracked services that are given up are released in the order in which they are listed. -/
lemma removeAll_released (t : Tracker rep) (keyed : t.Keyed) {ids : List ServiceId}
    (tracks : t.Tracks ids) (g : Registry) :
    (t.removeAll (.standard rep Registry.context name) ids g).state.released =
      g.released ++ ids := by
  induction ids generalizing t g with
  | nil => simp [removeAll]
  | cons id ids ih =>
    rw [removeAll, remove_tracker, ih _ (keyed.drop id) tracks.tail, remove_released name t keyed,
      tracks.tracked id List.mem_cons_self]
    simp

/-- An operation releases what departs, in this order. -/
lemma perform_released (t : Tracker rep) (keyed : t.Keyed) (op : Operation rep.subject)
    (g : Registry) :
    let out := t.perform (.standard rep Registry.context name) op g
    out.state.released = g.released ++ t.departed out.tracker := by
  cases op with
  | apply e => exact (apply_intake t _ e g).released keyed
  | remove id =>
    show (t.remove _ id g).state.released = g.released ++ t.departed (t.remove _ id g).tracker
    rw [remove_released name t keyed, remove_tracker, (touches_drop t id).departed_eq]
    simp [contains_drop]
  | close =>
    show (t.close _ g).state.released = g.released ++ t.departed (t.close _ g).tracker
    rw [state_close, removeAll_released name t keyed (tracks_ids t), tracker_close,
      departed_fresh]

end Tracker

namespace Watch

open Tracker

variable {rep : Representation}

/-- The services that left the tracker in a turn, in the order in which they left. -/
def Turn.departed (turn : Turn rep) : List ServiceId :=
  turn.before.tracker.departed turn.after.tracker

/-- Whether a turn was news of the service and was answered by its being added. -/
def Turn.takesUp (id : ServiceId) (turn : Turn rep) : Bool :=
  match turn.action, turn.answer with
  | .tracker (.apply e), .tracker (.applied result) => decide (e.id = id) && isAdded result
  | _, _ => false

/-- A turn begins where the watch is. -/
@[simp]
lemma before_turn (w : Watch rep) (name : String) (a : Action rep.subject) :
    (w.turn name a).before = w := rfl

/-- A turn keeps every slot under its own service. -/
lemma turn_keyed (w : Watch rep) (keyed : w.tracker.Keyed) (name : String)
    (a : Action rep.subject) : (w.turn name a).after.tracker.Keyed := by
  cases a with
  | registry _ => exact keyed
  | tracker op => exact (perform_trace w.tracker keyed op w.registry).keyed keyed

/-- A turn gives back what departs in it. -/
lemma turn_released (w : Watch rep) (keyed : w.tracker.Keyed) (name : String)
    (a : Action rep.subject) :
    (w.turn name a).after.registry.released = w.registry.released ++ (w.turn name a).departed := by
  cases a with
  | registry a => simp [turn, step, Turn.departed]
  | tracker op => exact perform_released name w.tracker keyed op w.registry

/-- A turn answers that a service was added exactly if it came in. -/
lemma takesUp_turn (w : Watch rep) (name : String) (a : Action rep.subject) (id : ServiceId) :
    (w.turn name a).takesUp id =
      (!w.tracker.contains id && (w.turn name a).after.tracker.contains id) := by
  cases a with
  | registry a =>
    show false = (!w.tracker.contains id && w.tracker.contains id)
    rw [Bool.not_and_self]
  | tracker op =>
    cases op with
    | apply e =>
      have intake := apply_intake w.tracker (.standard rep Registry.context name) e w.registry
      show (decide (e.id = id) && isAdded (w.tracker.apply _ e _).result) =
        (!w.tracker.contains id && (w.tracker.apply _ e _).tracker.contains id)
      by_cases h : e.id = id
      · subst h
        rw [intake.isAdded_eq, decide_eq_true rfl, Bool.true_and]
      · rw [decide_eq_false h, intake.touches.contains_of_ne h, Bool.false_and, Bool.not_and_self]
    | remove id' =>
      show false = (!w.tracker.contains id && (w.tracker.remove _ id' _).tracker.contains id)
      rw [remove_tracker, contains_drop]
      cases w.tracker.contains id <;> simp
    | close =>
      show false = (!w.tracker.contains id && (w.tracker.close _ _).tracker.contains id)
      rw [tracker_close, contains_fresh, Bool.and_false]

/-- A turn balances what it takes up and what departs with what is tracked. -/
lemma count_departed_turn (w : Watch rep) (name : String) (a : Action rep.subject)
    (id : ServiceId) :
    (w.turn name a).departed.count id + ((w.turn name a).after.tracker.contains id).toNat =
      (w.tracker.contains id).toNat + ((w.turn name a).takesUp id).toNat := by
  rw [takesUp_turn, Turn.departed, count_departed, before_turn]
  cases w.tracker.contains id <;> cases (w.turn name a).after.tracker.contains id <;> rfl

/-- Turns release what departs in them, in this order. -/
lemma after_released (w : Watch rep) (keyed : w.tracker.Keyed) (name : String)
    (as : List (Action rep.subject)) :
    (w.after name as).registry.released =
      w.registry.released ++ (w.run name as).flatMap Turn.departed := by
  induction as generalizing w with
  | nil => simp [after, run]
  | cons a as ih =>
    rw [after, run, List.flatMap_cons, ih _ (turn_keyed w keyed name a), turn_released w keyed,
      List.append_assoc]

/-- The balance of turns: what departs and what is tracked in the end was there at first or came
in. -/
lemma count_departed_run (w : Watch rep) (name : String) (as : List (Action rep.subject))
    (id : ServiceId) :
    ((w.run name as).flatMap Turn.departed).count id +
        ((w.after name as).tracker.contains id).toNat =
      (w.tracker.contains id).toNat + (w.run name as).countP (Turn.takesUp id) := by
  induction as generalizing w with
  | nil => simp [after, run]
  | cons a as ih =>
    have first := count_departed_turn w name a id
    have others := ih (w.turn name a).after
    rw [after, run, List.flatMap_cons, List.count_append, List.countP_cons]
    cases h : (w.turn name a).takesUp id <;> simp [h] at first ⊢ <;> omega

/-- The turns of a run are those of watches whose trackers keep their slots under their keys. -/
lemma exists_of_mem_run {w : Watch rep} (keyed : w.tracker.Keyed) {name : String}
    {as : List (Action rep.subject)} {turn : Turn rep} (mem : turn ∈ w.run name as) :
    ∃ u : Watch rep, ∃ a, u.tracker.Keyed ∧ turn = u.turn name a := by
  induction as generalizing w with
  | nil => cases mem
  | cons a as ih =>
    rcases List.mem_cons.1 mem with rfl | mem
    · exact ⟨w, a, keyed, rfl⟩
    · exact ih (turn_keyed w keyed name a) mem

/-- Every slot is kept under its own service, whatever happens. -/
lemma after_keyed {w : Watch rep} (keyed : w.tracker.Keyed) (name : String)
    (as : List (Action rep.subject)) : (w.after name as).tracker.Keyed := by
  induction as generalizing w with
  | nil => exact keyed
  | cons a as ih => exact ih (turn_keyed w keyed name a)

/-- An event that is not answered by its service being removed releases nothing. -/
lemma released_of_not_removed (w : Watch rep) (keyed : w.tracker.Keyed) (name : String)
    (e : Event rep.subject) {result : Except Fault Change}
    (answer : (w.turn name (.tracker (.apply e))).answer = .tracker (.applied result))
    (stays : result ≠ .ok .removed) :
    (w.turn name (.tracker (.apply e))).after.registry.released = w.registry.released := by
  have intake := apply_intake w.tracker (.standard rep Registry.context name) e w.registry
  cases answer
  have released := intake.released keyed
  rw [intake.departed_eq_nil stays, List.append_nil] at released
  exact released

/-- Closing releases what is tracked, each service once. -/
lemma count_released_close (w : Watch rep) (keyed : w.tracker.Keyed) (name : String)
    (id : ServiceId) :
    (w.turn name (.tracker .close)).after.registry.released.count id =
      w.registry.released.count id + (w.tracker.contains id).toNat := by
  have balance := count_departed_turn w name (.tracker .close) id
  have empty : (w.turn name (.tracker .close)).after.tracker.contains id = false := by
    show (w.tracker.close _ _).tracker.contains id = false
    rw [tracker_close, contains_fresh]
  rw [empty] at balance
  rw [turn_released w keyed, List.count_append]
  exact congrArg _ balance

/-- Every tracked service is given back exactly once. On a registry and a tracker that start empty,
whatever is done to either, the registry notes the services in the order in which they left the
tracker. A service has been released as often as it was added, less once if it is tracked; closing
the tracker makes up for that. An event releases nothing unless it is answered by its service being
removed, so services that were declined, ignored or refused are not released. -/
theorem released_as_added (config : Config) (name : String) (as : List (Action rep.subject)) :
    let w := (Watch.fresh config : Watch rep).after name as
    let turns := (Watch.fresh config : Watch rep).run name as
    w.registry.released = turns.flatMap Turn.departed ∧
    (∀ id, w.registry.released.count id + (w.tracker.contains id).toNat =
      turns.countP (Turn.takesUp id)) ∧
    (∀ id, (w.turn name (.tracker .close)).after.registry.released.count id =
      turns.countP (Turn.takesUp id)) ∧
    ∀ turn ∈ turns, ∀ e result, turn.action = .tracker (.apply e) →
      turn.answer = .tracker (.applied result) → result ≠ .ok .removed →
      turn.after.registry.released = turn.before.registry.released := by
  intro w turns
  have keyed : (Watch.fresh config : Watch rep).tracker.Keyed := keyed_fresh config
  have released : w.registry.released = turns.flatMap Turn.departed :=
    after_released (Watch.fresh config) keyed name as
  have balance : ∀ id, w.registry.released.count id + (w.tracker.contains id).toNat =
      turns.countP (Turn.takesUp id) := by
    intro id
    have count := count_departed_run (Watch.fresh config : Watch rep) name as id
    rw [released, count]
    exact Nat.zero_add _
  refine ⟨released, balance, fun id => ?_, fun turn mem e result action answer stays => ?_⟩
  · rw [count_released_close w (after_keyed keyed name as) name id]
    exact balance id
  · obtain ⟨u, a, keyed, rfl⟩ := exists_of_mem_run keyed mem
    obtain rfl : a = .tracker (.apply e) := action
    exact released_of_not_removed u keyed name e answer stays

end Watch

end ServiceWatch
