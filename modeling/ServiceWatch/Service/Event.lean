import ServiceWatch.Service.Reference

/-!
# Events

What a registry tells about one of its registrations: that it is there, that it changed, or that
it is about to go.
-/

namespace ServiceWatch

open Text

/-- News of one registration. -/
inductive Event (s : Subject)
  | registered (r : Reference s)
  | modified (r : Reference s)
  | unregistering (r : Reference s)
  deriving DecidableEq

namespace Event

variable {s : Subject}

/-- The registration that the news is about. -/
def reference : Event s → Reference s
  | registered r => r
  | modified r => r
  | unregistering r => r

/-- The number of the registration that the news is about. -/
def id (e : Event s) : ServiceId := e.reference.id

/-- The name of the kind of news. -/
def kind : Event s → String
  | registered _ => "Registered"
  | modified _ => "Modified"
  | unregistering _ => "Unregistering"

/-- The news with the reference it carries. -/
def outline (e : Event s) : Outline := .tuple e.kind [e.reference.outline]

end Event

end ServiceWatch
