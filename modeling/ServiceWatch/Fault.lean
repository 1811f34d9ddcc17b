import ServiceWatch.Service.Reference

/-!
# Faults

What can go wrong while tracking: a service cannot be represented in the wanted form without an
observer of its own, an observer fails on one service, or a configuration is not usable.
-/

namespace ServiceWatch

open Text

/-- A cause of failure. -/
inductive Fault
  | observerRequired (service tracked : String)
  | observerFailed (id : ServiceId) (reason : String)
  | unusableConfig (reason : String)
  deriving DecidableEq

namespace Fault

/-- The fault in words. -/
def message : Fault → String
  | observerRequired service tracked =>
    "a custom customizer is required to track " ++ service ++ " as " ++ tracked
  | observerFailed id reason => "customizer failed for service " ++ id.text ++ ": " ++ reason
  | unusableConfig reason => "invalid tracking config: " ++ reason

/-- The fault with what it carries. -/
def outline : Fault → Outline
  | observerRequired service tracked =>
    .record "CustomizerRequired" [("service", .text service), ("tracked", .text tracked)]
  | observerFailed id reason =>
    .record "Customizer" [("id", id.outline), ("message", .text reason)]
  | unusableConfig reason => .record "InvalidConfig" [("message", .text reason)]

/-- Whether the remedy is an observer of one's own. -/
def needsObserver : Fault → Bool
  | observerRequired _ _ => true
  | _ => false

end Fault

end ServiceWatch
