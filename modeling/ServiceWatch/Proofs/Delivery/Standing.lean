import ServiceWatch.Proofs.Registry.Inversion
import ServiceWatch.Proofs.Tracker.Derived

/-!
# The standing of a service

How a tracker that lags behind its registry stands with one service: what is registered, which news
of it is still in flight, and what is kept for it. `Standing` lists the combinations that can come
about. It is kept up when the registry acts (`Standing.raise`) and when the oldest news is taken in
(`Standing.deliver`), and once there is no news left the tracker has what the registry has
(`Standing.settled`).
-/

namespace ServiceWatch

namespace Delivery

open Tracker

/-- News in flight that takes one ranking to another, change by change. -/
inductive Updates {s : Subject} : Int32 → List (Event s) → Int32 → Prop
  | none {ranking} : Updates ranking [] ranking
  | modified {stale ranking r q} : Updates r.ranking q ranking →
      Updates stale (.modified r :: q) ranking

/-- Without events under way the ranking that was heard of is the current one. -/
lemma Updates.nil_inv {s : Subject} {stale ranking : Int32}
    (updates : Updates stale ([] : List (Event s)) ranking) : stale = ranking := by
  cases updates
  rfl

/-- The first event under way to a tracked service is a change of its ranking. -/
lemma Updates.cons_inv {s : Subject} {stale ranking : Int32} {e : Event s} {q : List (Event s)}
    (updates : Updates stale (e :: q) ranking) :
    ∃ r, e = .modified r ∧ Updates r.ranking q ranking := by
  cases updates with
  | @modified _ _ r _ updates => exact ⟨r, rfl, updates⟩

/-- One more change behind the others leads to its ranking. -/
lemma Updates.append {s : Subject} {stale ranking : Int32} {q : List (Event s)}
    (updates : Updates stale q ranking) (r : Reference s) :
    Updates stale (q ++ [.modified r]) r.ranking := by
  induction updates with
  | none => exact .modified .none
  | modified _ ih => exact .modified ih

variable {rep : Representation}

/-- How a tracker stands with one service: the registration, the news of it that is in flight and
the slot. A service is

* `useless` if it is registered but offers nothing that could be kept,
* `announced` if its registration is still in flight,
* `kept` if it is tracked, up to changes that are in flight,
* `leaving` if it is gone but that is still in flight, whatever was in flight before,
* `gone` if there is nothing more to know. -/
inductive Standing (snapshot : Offering → rep.Value) :
    Option Registration → List (Event rep.subject) → Option (Slot rep) → Prop
  | useless {entry q} : rep.isPresent (snapshot entry.offering) = false →
      Standing snapshot (some entry) q none
  | announced {entry r q} : rep.isPresent (snapshot entry.offering) = true →
      Updates r.ranking q entry.ranking →
      Standing snapshot (some entry) (.registered r :: q) none
  | kept {entry r q} : rep.isPresent (snapshot entry.offering) = true →
      Updates r.ranking q entry.ranking →
      Standing snapshot (some entry) q (some ⟨r, snapshot entry.offering⟩)
  | leaving {q slot} r : Standing snapshot none (q ++ [.unregistering r]) slot
  | gone : Standing snapshot none [] none

variable {snapshot : Offering → rep.Value} {entry : Registration} {live : Option Registration}
  {q : List (Event rep.subject)} {slot : Option (Slot rep)}

/-- The oldest news is taken in. -/
lemma Standing.deliver {e : Event rep.subject} (standing : Standing snapshot live (e :: q) slot)
    (eager : Bool) :
    Standing snapshot live q
      (upon snapshot eager ((live.map Registration.offering).getD .empty) slot e) := by
  generalize h : e :: q = pending at standing
  cases standing with
  | @useless entry _ absent =>
    have untaken := takenUp_of_absent absent
    have stays : upon snapshot eager entry.offering none e = none := by
      cases e with
      | registered r => exact untaken r
      | modified r =>
        show (if eager then takenUp snapshot entry.offering r else none) = none
        rw [untaken, ite_self]
      | unregistering r => rfl
    show Standing snapshot (some entry) q (upon snapshot eager entry.offering none e)
    rw [stays]
    exact .useless absent
  | @announced entry r _ present updates =>
    cases h
    show Standing snapshot (some entry) q (takenUp snapshot entry.offering r)
    rw [takenUp_of_present present]
    exact .kept present updates
  | kept present updates =>
    subst h
    obtain ⟨r, rfl, later⟩ := updates.cons_inv
    exact .kept present later
  | @leaving others _ r =>
    cases others with
    | nil =>
      cases h
      rw [upon]
      exact .gone
    | cons first others =>
      cases h
      exact .leaving r
  | gone => cases h

/-- A registration comes in that nothing is known of yet. -/
lemma Standing.registered (standing : Standing snapshot none [] slot) (entry : Registration)
    (id : ServiceId) :
    Standing snapshot (some entry) [.registered ⟨id, entry.ranking⟩] slot := by
  generalize h : ([] : List (Event rep.subject)) = pending at standing
  cases standing with
  | leaving => simp at h
  | gone =>
    cases present : rep.isPresent (snapshot entry.offering) with
    | false => exact .useless present
    | true => exact .announced present .none

/-- A service that stands still does with one more change under way. -/
lemma Standing.modified (standing : Standing snapshot (some entry) q slot)
    (r : Reference rep.subject) :
    Standing snapshot (some ⟨r.ranking, entry.offering⟩) (q ++ [.modified r]) slot := by
  cases standing with
  | useless absent => exact .useless absent
  | announced present updates => exact .announced present (updates.append r)
  | kept present updates => exact .kept present (updates.append r)

/-- What the registry does and the news that it makes keep the standing of every service up, as
long as the number given to a registration is not in use. -/
lemma Standing.raise {g g' : Registry} {a : Registry.Action} {es : List (Event rep.subject)}
    (raises : g.Raises a es g') {id : ServiceId}
    (unused : a.isRegistration = true → id = g.next → g.live.get? id = none ∧ q = [])
    (standing : Standing snapshot (g.live.get? id) q slot) :
    Standing snapshot (g'.live.get? id) (q ++ es.filter fun e => e.id = id) slot := by
  cases raises with
  | @registered _ entry taken =>
    have registration : a.isRegistration = true := by
      rw [a.isRegistration_eq, taken]
      rfl
    rw [Table.get?_insert]
    by_cases h : id = g.next
    · obtain ⟨absent, rfl⟩ := unused registration h
      subst h
      rw [absent] at standing
      simpa [Event.id, Event.reference] using standing.registered entry g.next
    · simpa [Event.id, Event.reference, h, Ne.symm h] using standing
  | @modified id' ranking entry found =>
    rw [Table.get?_insert]
    by_cases h : id = id'
    · subst h
      rw [found] at standing
      simpa [Event.id, Event.reference] using standing.modified ⟨id, ranking⟩
    · simpa [Event.id, Event.reference, h, Ne.symm h] using standing
  | @unregistering id' entry found =>
    rw [Table.get?_erase]
    by_cases h : id = id'
    · subst h
      simpa [Event.id, Event.reference] using Standing.leaving ⟨id, entry.ranking⟩
    · simpa [Event.id, Event.reference, h, Ne.symm h] using standing
  | unranked => simpa using standing
  | unknown => simpa using standing

/-- Where nothing is in flight, the tracker has what the registry has. -/
lemma Standing.settled (standing : Standing snapshot live [] slot) (id : ServiceId)
    (keyed : ∀ found, slot = some found → found.reference.id = id) :
    slot = live.bind fun entry => takenUp snapshot entry.offering ⟨id, entry.ranking⟩ := by
  generalize h : ([] : List (Event rep.subject)) = pending at standing
  cases standing with
  | useless absent =>
    exact (takenUp_of_absent absent _).symm
  | announced => cases h
  | @kept entry r _ present updates =>
    subst h
    obtain rfl : r.id = id := keyed _ rfl
    show _ = takenUp snapshot entry.offering ⟨r.id, entry.ranking⟩
    rw [takenUp_of_present present, ← updates.nil_inv]
  | leaving => simp at h
  | gone => rfl

end Delivery

end ServiceWatch
