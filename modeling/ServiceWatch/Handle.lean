import ServiceWatch.Service.Contract
import ServiceWatch.Text.Outline

/-!
# Handles

A handle points at one shared object, or at nothing. It is typed by what the object is used as.
Two handles are equal when they point at the same object or both at nothing, whatever the object
holds.
-/

namespace ServiceWatch

open Text

/-- The identity of a shared object. -/
abbrev ObjectId := Nat

/-- A way to one shared object, or to none. -/
structure Handle (s : Subject) where
  object : Option ObjectId
  deriving DecidableEq

namespace Handle

variable {s : Subject}

/-- The handle to nothing. -/
def null : Handle s := ⟨none⟩

/-- Whether the handle points at nothing. -/
def isNull (h : Handle s) : Bool := h.object.isNone

/-- Whether two handles point at the same object, or both at none. -/
def pointsWhere (h k : Handle s) : Bool :=
  match h.object, k.object with
  | some o, some p => o == p
  | none, none => true
  | _, _ => false

/-- Takes the object out: what the handle held, and the handle left behind. -/
def take (h : Handle s) : Option ObjectId × Handle s := (h.object, null)

/-- The handle by its type; an address is not part of the picture. -/
def outline (h : Handle s) : Outline :=
  .leaf ("ServiceHandle<" ++ s.typeName ++ ">(" ++ (if h.isNull then "null" else "PTR") ++ ")")

/-- Pointing at the same place is being equal. -/
theorem pointsWhere_iff {h k : Handle s} : h.pointsWhere k = true ↔ h = k := by
  obtain ⟨o⟩ := h
  obtain ⟨p⟩ := k
  cases o <;> cases p <;> simp [pointsWhere]

end Handle

end ServiceWatch
