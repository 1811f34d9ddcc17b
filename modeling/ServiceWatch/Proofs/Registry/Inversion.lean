import Mathlib.Tactic.Lemma
import ServiceWatch.Delivery

/-!
# Inversion of registry actions

What each action of a registry comes to. `Raises` lists the ways in which an action can go, with
the news that it makes and the registry afterwards; `act_raises` says that there are no others. A
registration takes the next number, and the other actions need a live registration.
-/

namespace ServiceWatch.Registry

variable {s : Subject}

/-- The registration that an action takes in. -/
def Action.incoming : Action → Option Registration
  | register offering ranking => some ⟨ranking, offering⟩
  | registerAs box c object ranking => some ⟨ranking, Offering.empty.publish box c object⟩
  | _ => none

/-- The number that the next registration gets. -/
def next (g : Registry) : ServiceId := ⟨g.issued + 1⟩

/-- The ways an action can go. -/
inductive Raises (g : Registry) : Action → List (Event s) → Registry → Prop
  | registered {a entry} : a.incoming = some entry →
      Raises g a [.registered ⟨g.next, entry.ranking⟩]
        ⟨g.issued + 1, g.live.insert g.next entry, g.released⟩
  | modified {id ranking entry} : g.live.get? id = some entry →
      Raises g (.setRanking id ranking) [.modified ⟨id, ranking⟩]
        ⟨g.issued, g.live.insert id ⟨ranking, entry.offering⟩, g.released⟩
  | unregistering {id entry} : g.live.get? id = some entry →
      Raises g (.unregister id) [.unregistering ⟨id, entry.ranking⟩]
        ⟨g.issued, g.live.erase id, g.released⟩
  | unranked {id ranking} : g.live.get? id = none → Raises g (.setRanking id ranking) [] g
  | unknown {id} : g.live.get? id = none → Raises g (.unregister id) [] g

/-- An action goes in one of the ways of `Raises`. -/
theorem act_raises (g : Registry) (a : Action) :
    g.Raises a (g.news s a) (g.act a).2 := by
  cases a with
  | register offering ranking =>
    have taken : (Action.register offering ranking).incoming = some ⟨ranking, offering⟩ := rfl
    exact .registered taken
  | registerAs box c object ranking =>
    have taken : (Action.registerAs box c object ranking).incoming =
      some ⟨ranking, Offering.empty.publish box c object⟩ := rfl
    exact .registered taken
  | setRanking id ranking =>
    rw [news, act, setRanking]
    cases h : g.live.get? id with
    | none => exact .unranked h
    | some entry => exact .modified h
  | unregister id =>
    rw [news, act, unregister]
    cases h : g.live.get? id with
    | none => exact .unknown h
    | some entry => exact .unregistering h

/-- An action registers exactly if something comes in with it. -/
lemma Action.isRegistration_eq (a : Action) : a.isRegistration = a.incoming.isSome := by
  cases a <;> rfl

/-- Each registration issues one number, and nothing else does. -/
lemma Raises.issued_eq {g g' : Registry} {a : Action} {es : List (Event s)}
    (raises : g.Raises a es g') : g'.issued = g.issued + if a.isRegistration then 1 else 0 := by
  cases raises with
  | registered taken => simp [Action.isRegistration_eq, taken]
  | modified => simp [Action.isRegistration]
  | unregistering => simp [Action.isRegistration]
  | unranked => simp [Action.isRegistration]
  | unknown => simp [Action.isRegistration]

/-- An action uses a number up exactly if it registers. -/
lemma Raises.toNat_issued {g g' : Registry} {a : Action} {es : List (Event s)}
    (raises : g.Raises a es g')
    (room : g.issued.toNat + (if a.isRegistration then 1 else 0) < UInt64.size) :
    g'.issued.toNat = g.issued.toNat + if a.isRegistration then 1 else 0 := by
  rw [raises.issued_eq]
  cases h : a.isRegistration with
  | false => simp
  | true =>
    rw [h, if_pos rfl] at room
    rw [if_pos rfl, if_pos rfl, UInt64.toNat_add]
    exact Nat.mod_eq_of_lt room

/-- A service that is live is another than one that is not. -/
lemma ne_of_live {g : Registry} {id id' : ServiceId} {entry : Registration}
    (absent : g.live.get? id = none) (found : g.live.get? id' = some entry) : id ≠ id' := by
  rintro rfl
  rw [absent] at found
  cases found

/-- A registration that is taken in gets the next number. -/
lemma act_of_incoming (g : Registry) {a : Action} {entry : Registration}
    (taken : a.incoming = some entry) :
    g.act a = (some ⟨g.next, entry.ranking⟩,
      ⟨g.issued + 1, g.live.insert g.next entry, g.released⟩) := by
  cases a with
  | register => cases taken; rfl
  | registerAs => cases taken; rfl
  | setRanking => cases taken
  | unregister => cases taken

/-- A change of ranking, by whether the service is live. -/
lemma act_setRanking (g : Registry) (id : ServiceId) (ranking : Int32) :
    g.act (.setRanking id ranking) = match g.live.get? id with
      | some entry => (some ⟨id, ranking⟩,
          ⟨g.issued, g.live.insert id ⟨ranking, entry.offering⟩, g.released⟩)
      | none => (none, g) := by
  rw [act, setRanking]
  cases g.live.get? id <;> rfl

/-- An unregistration, by whether the service is live. -/
lemma act_unregister (g : Registry) (id : ServiceId) :
    g.act (.unregister id) = match g.live.get? id with
      | some entry => (some ⟨id, entry.ranking⟩, ⟨g.issued, g.live.erase id, g.released⟩)
      | none => (none, g) := by
  rw [act, unregister]
  cases g.live.get? id <;> rfl

end ServiceWatch.Registry
