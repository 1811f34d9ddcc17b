import ServiceWatch.Observer.Standard
import ServiceWatch.Proofs.Observer.Questions
import ServiceWatch.Registry.Action

/-!
# Registries that are alike

What an observer sees of a registry are its registrations; what was given back is noted, but nobody
looks it up. Registries with the same registrations are `Alike`: an action on both keeps them so
(`Alike.act`), and so does anything that the standard observer is asked (`alike_hear_standard`).
-/

namespace ServiceWatch

namespace Registry

/-- Two registries have the same registrations and will give the same numbers. -/
structure Alike (g g' : Registry) : Prop where
  issued_eq : g.issued = g'.issued
  live_eq : g.live = g'.live

variable {g g' g'' : Registry}

/-- A registry is like itself. -/
lemma alike_self (g : Registry) : g.Alike g := ⟨rfl, rfl⟩

/-- To be alike goes both ways. -/
lemma Alike.symm (alike : g.Alike g') : g'.Alike g := ⟨alike.issued_eq.symm, alike.live_eq.symm⟩

/-- Registries that are like one in between are alike. -/
lemma Alike.trans (first : g.Alike g') (second : g'.Alike g'') : g.Alike g'' :=
  ⟨first.issued_eq.trans second.issued_eq, first.live_eq.trans second.live_eq⟩

/-- Registries that are alike offer the same. -/
lemma Alike.offering_eq (alike : g.Alike g') (id : ServiceId) : g.offering id = g'.offering id := by
  rw [offering, offering, alike.live_eq]

/-- Registries that are alike answer an action alike and stay alike. -/
lemma Alike.act (alike : g.Alike g') (a : Action) :
    (g.act a).1 = (g'.act a).1 ∧ (g.act a).2.Alike (g'.act a).2 := by
  obtain ⟨issued, live, _⟩ := g
  obtain ⟨issued', live', _⟩ := g'
  obtain ⟨rfl, rfl⟩ := alike
  cases a with
  | register => exact ⟨rfl, rfl, rfl⟩
  | registerAs => exact ⟨rfl, rfl, rfl⟩
  | setRanking id ranking =>
    simp only [Registry.act, setRanking]
    cases live.get? id with
    | none => exact ⟨rfl, rfl, rfl⟩
    | some => exact ⟨rfl, rfl, rfl⟩
  | unregister id =>
    simp only [Registry.act, unregister]
    cases live.get? id with
    | none => exact ⟨rfl, rfl, rfl⟩
    | some => exact ⟨rfl, rfl, rfl⟩

end Registry

namespace Observer

variable {rep : Representation} {name : String}

/-- Whatever it is asked, the standard observer leaves the registrations as they are. -/
lemma alike_hear_standard (g : Registry) (q : Question rep) :
    ((standard rep Registry.context name).hear g q).Alike g := by
  cases q with
  | adding r =>
    rw [hear, state_adding_standard]
    exact g.alike_self
  | modified => exact g.alike_self
  | removed => exact ⟨rfl, rfl⟩

/-- The standard observer leaves a registry like it was, whatever it hears. -/
lemma alike_hearAll_standard (g : Registry) (qs : List (Question rep)) :
    ((standard rep Registry.context name).hearAll qs g).Alike g := by
  induction qs generalizing g with
  | nil => exact g.alike_self
  | cons q qs ih => exact (ih _).trans (alike_hear_standard g q)

end Observer

end ServiceWatch
