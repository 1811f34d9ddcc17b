import ServiceWatch.Fault

/-!
# Tracker configuration

A tracker has a name for its log lines, may be told to take up services that it first hears of
when they change, and may be bounded in how many services it tracks at a time.
-/

namespace ServiceWatch

open Text

/-- The settings of a tracker. -/
structure Config where
  name : String := "tracker"
  trackOnModified : Bool := true
  capacity : Option Nat := none
  deriving DecidableEq

namespace Config

/-- The settings where nothing is said. -/
def standard : Config := {}

/-- What makes settings unusable: first a blank name, then a capacity of zero. -/
def flaw? (c : Config) : Option Fault :=
  if isBlankText c.name then some (.unusableConfig "name must not be empty")
  else if c.capacity = some 0 then some (.unusableConfig "max_tracked must be at least 1")
  else none

/-- Settings that a tracker can be made with. -/
def Usable (c : Config) : Prop := c.flaw? = none

instance (c : Config) : Decidable c.Usable := inferInstanceAs (Decidable (c.flaw? = none))

/-- The settings by name. -/
def outline (c : Config) : Outline :=
  .record "TrackingConfig"
    [("name", .text c.name), ("track_on_modified", .truth c.trackOnModified),
      ("max_tracked", .optional (c.capacity.map fun n => .number n))]

/-- A tracker can be made with the standard settings. -/
theorem usable_standard : standard.Usable := by decide

end Config

end ServiceWatch
