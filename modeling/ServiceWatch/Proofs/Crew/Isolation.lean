import ServiceWatch.Crew
import ServiceWatch.Proofs.Registry.Alike
import ServiceWatch.Proofs.Tracker.Agreement
import ServiceWatch.Proofs.Watch.Release

/-!
# Isolation

Trackers on one registry do not get in each other's way. The registry changes under the hands of all
of them, but only in what is noted as released, which no observer looks at: two registries that are
`Alike` have the same registrations, and a tracker cannot tell them apart. So the work of one tracker
is the same if the operations of the others are left out (`Follows.after`), and what the crew
releases is what its members release, each in its order (`released_after`, `departures_filter`).
-/

namespace ServiceWatch

namespace Observer

/-- The standard observer does not look at what was released. -/
lemma standard_matches (rep : Representation) (name : String) :
    (standard rep Registry.context name).Matches Registry.Alike
      (standard rep Registry.context name) where
  answer_eq {g g'} alike q := by
    cases q with
    | adding r =>
      rw [answer, answer, answer_adding_standard, answer_adding_standard]
      exact congrArg rep.convert (alike.offering_eq r.id)
    | modified => rfl
    | removed => rfl
  hear {g g'} alike q := (alike_hear_standard g q).trans (alike.trans (alike_hear_standard g' q).symm)

end Observer

namespace Watch

variable {rep : Representation}

/-- The tracker's work leaves the registrations as they are. -/
lemma alike_perform (w : Watch rep) (keyed : w.tracker.Keyed) (name : String)
    (op : Operation rep.subject) : (w.perform name op).state.Alike w.registry := by
  have trace := Tracker.perform_trace (o := .standard rep Registry.context name) w.tracker keyed op
    w.registry
  rw [perform, trace.state_eq]
  exact Observer.alike_hearAll_standard ..

end Watch

namespace Crew

open Tracker

variable {ι : Type} {rep : ι → Representation}

/-- Whether an action is one of the registry or of the given tracker. -/
def Action.concerns [DecidableEq ι] (i : ι) : Action rep → Bool
  | registry _ => true
  | tracker j _ => j = i

/-- Whether an action is one of the registry. -/
def Action.isOfRegistry : Action rep → Bool
  | registry _ => true
  | tracker _ _ => false

/-- Whether a turn is one of the registry or of the given tracker. -/
def Turn.concerns [DecidableEq ι] (i : ι) : Turn rep → Bool
  | registry _ => true
  | tracker j _ _ _ => j = i

/-- Every tracker keeps its slots under their numbers. -/
def Keyed (c : Crew rep) : Prop := ∀ i, (c.tracker i).Keyed

/-- Every slot of a fresh crew is kept under its own service. -/
lemma keyed_fresh (config : ι → Config) : (fresh config : Crew rep).Keyed :=
  fun i => Tracker.keyed_fresh (config i)

variable {c d : Crew rep} {i : ι}

/-- Two crews are the same to one of their trackers. -/
structure Follows (i : ι) (c d : Crew rep) : Prop where
  alike : c.registry.Alike d.registry
  tracker_eq : c.tracker i = d.tracker i

/-- A crew follows itself. -/
lemma follows_self (i : ι) (c : Crew rep) : Follows i c c := ⟨c.registry.alike_self, rfl⟩

/-- A member that is followed does the same for the same operation. -/
lemma Follows.perform (follows : Follows i c d) (keyed : c.Keyed) (name : String)
    (op : Operation (rep i).subject) :
    ((c.watch i).perform name op).Same ((d.watch i).perform name op) ∧
      ((c.watch i).perform name op).state.Alike ((d.watch i).perform name op).state := by
  have keyed' : (d.tracker i).Keyed := follows.tracker_eq ▸ keyed i
  rw [watch, watch, follows.tracker_eq]
  exact perform_matches (Observer.standard_matches (rep i) name) follows.alike keyed' op

variable [DecidableEq ι] (name : ι → String)

/-- A step concerns a member exactly if its action does. -/
@[simp]
lemma concerns_step (c : Crew rep) (a : Action rep) :
    (c.step name a).1.concerns i = a.concerns i := by
  cases a <;> rfl

/-- A step keeps every slot under its own service. -/
lemma step_keyed (keyed : c.Keyed) (a : Action rep) : (c.step name a).2.Keyed := by
  cases a with
  | registry => exact keyed
  | tracker j op =>
    intro i
    show (Function.update c.tracker j ((c.watch j).perform (name j) op).tracker i).Keyed
    by_cases h : i = j
    · subst h
      rw [Function.update_self]
      exact (perform_trace (c.tracker i) (keyed i) op c.registry).keyed (keyed i)
    · rw [Function.update_of_ne h]
      exact keyed i

/-- An action that does not concern a member is nothing to who follows it. -/
lemma Follows.skip (follows : Follows i c d) (keyed : c.Keyed) {a : Action rep}
    (other : a.concerns i = false) : Follows i (c.step name a).2 d := by
  cases a with
  | registry => cases other
  | tracker j op =>
    have h : i ≠ j := Ne.symm (of_decide_eq_false other)
    refine ⟨((c.watch j).alike_perform (keyed j) (name j) op).trans follows.alike, ?_⟩
    show Function.update c.tracker j _ i = d.tracker i
    rw [Function.update_of_ne h, follows.tracker_eq]

/-- An action that concerns a member is answered alike and followed. -/
lemma Follows.step (follows : Follows i c d) (keyed : c.Keyed) {a : Action rep}
    (own : a.concerns i = true) :
    (c.step name a).1 = (d.step name a).1 ∧
      Follows i (c.step name a).2 (d.step name a).2 := by
  cases a with
  | registry a =>
    obtain ⟨answer, alike⟩ := follows.alike.act a
    exact ⟨congrArg Turn.registry answer, alike, follows.tracker_eq⟩
  | tracker j op =>
    obtain rfl : j = i := of_decide_eq_true own
    obtain ⟨same, alike⟩ := follows.perform keyed (name j) op
    refine ⟨?_, alike, ?_⟩
    · show Turn.tracker j _ _ _ = Turn.tracker j _ _ _
      rw [same.result_eq, same.calls_eq, same.tracker_eq]
    · show Function.update c.tracker j _ j = Function.update d.tracker j _ j
      rw [Function.update_self, Function.update_self]
      exact same.tracker_eq

/-- Leaving out the operations of the other trackers changes nothing for one of them. -/
lemma Follows.after (follows : Follows i c d) (keyed : c.Keyed) (as : List (Action rep)) :
    (c.run name as).filter (Turn.concerns i) = d.run name (as.filter (Action.concerns i)) ∧
      Follows i (c.after name as) (d.after name (as.filter (Action.concerns i))) := by
  induction as generalizing c d with
  | nil => exact ⟨rfl, follows⟩
  | cons a as ih =>
    have keyed' := step_keyed name keyed a
    cases own : a.concerns i with
    | false =>
      -- The other run does nothing here, and the two stay the same to this tracker.
      rw [List.filter_cons_of_neg (by simp [own]), run,
        List.filter_cons_of_neg (by simp [own])]
      exact ih (follows.skip name keyed own) keyed'
    | true =>
      obtain ⟨turn, next⟩ := follows.step name keyed own
      obtain ⟨turns, final⟩ := ih next keyed'
      rw [List.filter_cons_of_pos own, run, run, List.filter_cons_of_pos (by simp [own]), turn, turns]
      exact ⟨rfl, final⟩

/-- The services that leave the trackers in actions done one after the other, each with the tracker
that it leaves. -/
def departures (c : Crew rep) (name : ι → String) : List (Action rep) → List (ι × ServiceId)
  | [] => []
  | .registry a :: as => (c.step name (.registry a)).2.departures name as
  | .tracker i op :: as =>
    let next := (c.step name (.tracker i op)).2
    ((c.tracker i).departed (next.tracker i)).map (Prod.mk i) ++ next.departures name as

/-- What a member's operation gives back is what departs from this member. -/
lemma released_step_tracker (keyed : c.Keyed) (i : ι) (op : Operation (rep i).subject) :
    (c.step name (.tracker i op)).2.registry.released = c.registry.released ++
      (c.tracker i).departed ((c.step name (.tracker i op)).2.tracker i) := by
  have released := perform_released (name i) (c.tracker i) (keyed i) op c.registry
  show ((c.watch i).perform (name i) op).state.released = c.registry.released ++
    (c.tracker i).departed (Function.update c.tracker i ((c.watch i).perform (name i) op).tracker i)
  rw [Function.update_self]
  exact released

/-- The registry notes the departures, in the order in which they happen. -/
lemma released_after (keyed : c.Keyed) (as : List (Action rep)) :
    (c.after name as).registry.released =
      c.registry.released ++ (c.departures name as).map Prod.snd := by
  induction as generalizing c with
  | nil => exact (List.append_nil _).symm
  | cons a as ih =>
    have rest := ih (step_keyed name keyed a)
    rw [after, rest]
    cases a with
    | registry a => exact congrArg (· ++ _) (Registry.released_act c.registry a)
    | tracker i op =>
      rw [released_step_tracker name keyed, departures, List.map_append, List.map_map,
        List.append_assoc]
      simp [Function.comp_def]

/-- The departures from one tracker are those of the work that it does alone. -/
lemma departures_filter (follows : Follows i c d) (keyed : c.Keyed) (as : List (Action rep)) :
    (c.departures name as).filter (fun p => p.1 = i) =
      d.departures name (as.filter (Action.concerns i)) := by
  induction as generalizing c d with
  | nil => rfl
  | cons a as ih =>
    have keyed' := step_keyed name keyed a
    cases own : a.concerns i with
    | false =>
      have rest := ih (follows.skip name keyed own) keyed'
      rw [List.filter_cons_of_neg (by simp [own]), ← rest]
      cases a with
      | registry => cases own
      | tracker j op =>
        have other : j ≠ i := of_decide_eq_false own
        rw [departures, List.filter_append, List.filter_eq_nil_iff.2 (by simp [other])]
        rfl
    | true =>
      obtain ⟨-, next⟩ := follows.step name keyed own
      have rest := ih next keyed'
      rw [List.filter_cons_of_pos own]
      cases a with
      | registry => exact rest
      | tracker j op =>
        obtain rfl : j = i := of_decide_eq_true own
        rw [departures, departures, List.filter_append, List.filter_eq_self.2 (by simp), rest,
          follows.tracker_eq, next.tracker_eq]

/-- The registrations are those that the registry's own actions lead to. -/
lemma alike_after_registry (alike : c.registry.Alike d.registry) (keyed : c.Keyed)
    (as : List (Action rep)) :
    (c.after name as).registry.Alike (d.after name (as.filter Action.isOfRegistry)).registry := by
  induction as generalizing c d with
  | nil => exact alike
  | cons a as ih =>
    have keyed' := step_keyed name keyed a
    cases a with
    | registry a => exact ih (alike.act a).2 keyed'
    | tracker i op => exact ih (((c.watch i).alike_perform (keyed i) (name i) op).trans alike) keyed'

/-- Trackers on one registry do not interfere. Whatever a crew does from the start, for each of its
trackers the registry's answers, its own results and callbacks and what it keeps are, at every point,
those of the run in which the operations of all others are left out. The registrations, and so what
is on offer, are those of the registry's own actions. And what is released is put together from what
each tracker releases in its run alone, with the order kept. -/
theorem run_filter_concerns (config : ι → Config) (as : List (Action rep)) :
    let start : Crew rep := fresh config
    let whole := start.after name as
    let alone i := start.after name (as.filter (Action.concerns i))
    let untouched := start.after name (as.filter Action.isOfRegistry)
    (∀ i, (start.run name as).filter (Turn.concerns i) =
        start.run name (as.filter (Action.concerns i)) ∧
      whole.tracker i = (alone i).tracker i) ∧
    (whole.registry.live = untouched.registry.live ∧
      ∀ id, whole.registry.offering id = untouched.registry.offering id) ∧
    ∃ notes : List (ι × ServiceId), whole.registry.released = notes.map Prod.snd ∧
      ∀ i, (alone i).registry.released = (notes.filter fun p => p.1 = i).map Prod.snd := by
  intro start whole alone untouched
  have keyed : start.Keyed := keyed_fresh config
  refine ⟨fun i => ?_, ?_, start.departures name as, ?_, fun i => ?_⟩
  · obtain ⟨turns, final⟩ := (follows_self i start).after name keyed as
    exact ⟨turns, final.tracker_eq⟩
  · have alike : whole.registry.Alike untouched.registry :=
      alike_after_registry name start.registry.alike_self keyed as
    exact ⟨alike.live_eq, alike.offering_eq⟩
  · exact released_after name keyed as
  · have released := released_after name keyed (as.filter (Action.concerns i))
    rw [departures_filter name (follows_self i start) keyed as]
    exact released

end Crew

end ServiceWatch
