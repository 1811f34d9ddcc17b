/-!
# Log records

A record has a level and a text. Operations return the records they make, in the order in which
they make them.
-/

namespace ServiceWatch

/-- How much a record matters. -/
inductive Level
  | trace
  | debug
  | warn
  deriving DecidableEq

/-- The name of a level. -/
def Level.name : Level → String
  | trace => "TRACE"
  | debug => "DEBUG"
  | warn => "WARN"

/-- One line of a log. -/
structure Record where
  level : Level
  text : String
  deriving DecidableEq

/-- A record of a named tracker. -/
def Record.ofTracker (name : String) (level : Level) (body : String) : Record :=
  ⟨level, "tracker(" ++ name ++ "): " ++ body⟩

end ServiceWatch
