import ServiceWatch.Fault
import ServiceWatch.Log
import ServiceWatch.Offering

/-!
# Representations

A representation says how services of one subject are kept by a tracker: as what type of value,
which value stands for absence, which values count as present, and whether an observer may change
a kept value or only look at it. Some representations can be read off the service's offering; the
others need an observer that builds their values.

There are four families: a handle to the tracked contract itself, a handle to another contract, a
value that knows whether it is present, and the whole offering of a service without a subject.
-/

namespace ServiceWatch

/-- What an observer may do to a kept value. -/
inductive Access
  | shared
  | exclusive
  deriving DecidableEq

/-- How services of one subject are kept. -/
structure Representation where
  subject : Subject
  tracked : String
  Value : Type
  access : Access
  absent : Value
  isPresent : Value → Bool
  isPresent_absent : isPresent absent = false
  snapshot? : Option (Offering → Value)

namespace Representation

/-- Whether values can be read off an offering. -/
def isDerived (rep : Representation) : Bool := rep.snapshot?.isSome

/-- What is kept once an observer has had its hands on a value: a shared value stays as it was. -/
def settle (rep : Representation) (before after : rep.Value) : rep.Value :=
  match rep.access with
  | .shared => before
  | .exclusive => after

/-- What is left of a value that is given up. -/
def dispose (rep : Representation) (_ : rep.Value) : rep.Value := rep.absent

/-- The fault of a representation that cannot be read off an offering. -/
def underived (rep : Representation) : Fault :=
  .observerRequired rep.subject.typeName rep.tracked

/-- The value read off an offering. -/
def convert (rep : Representation) (o : Offering) : Except Fault rep.Value :=
  match rep.snapshot? with
  | some snapshot => .ok (snapshot o)
  | none => .error rep.underived

/-- What a conversion logs: its fault, under no tracker's name. -/
def conversionLog (rep : Representation) : List Record :=
  if rep.isDerived then [] else [⟨.warn, "tracker: " ++ rep.underived.message⟩]

/-- The type name of a handle. -/
def handleName (s : Subject) : String :=
  "service_tracking::handle::ServiceHandle<" ++ s.typeName ++ ">"

/-- A contract kept as a handle to itself. -/
def sameService (c : Contract) : Representation where
  subject := c.subject
  tracked := handleName c.subject
  Value := Handle c.subject
  access := .shared
  absent := .null
  isPresent h := !h.isNull
  isPresent_absent := rfl
  snapshot? := some fun o => o.service c

/-- A contract kept as a handle to something else. -/
def distinctHandle (c target : Contract) : Representation where
  subject := c.subject
  tracked := handleName target.subject
  Value := Handle target.subject
  access := .shared
  absent := .null
  isPresent h := !h.isNull
  isPresent_absent := rfl
  snapshot? := none

/-- A contract kept as a value that knows whether it is present. -/
def presence {V : Type} (c : Contract) (tracked : String) (absent : V) (isPresent : V → Bool)
    (isPresent_absent : isPresent absent = false) : Representation where
  subject := c.subject
  tracked := tracked
  Value := V
  access := .exclusive
  absent := absent
  isPresent := isPresent
  isPresent_absent := isPresent_absent
  snapshot? := none

/-- A service of no particular subject kept as all that it offers. -/
def wholeOffering : Representation where
  subject := .untyped
  tracked := handleName ⟨"dyn core::any::Any + core::marker::Send + core::marker::Sync"⟩
  Value := Offering
  access := .shared
  absent := .empty
  isPresent o := !o.isEmpty
  isPresent_absent := rfl
  snapshot? := some id

end Representation

end ServiceWatch
