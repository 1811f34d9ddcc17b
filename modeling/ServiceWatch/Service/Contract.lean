/-!
# Contracts

A contract is what a service promises to its users. It is published under an interface id, and it
is told from other contracts by the name of its type as well: two contracts may claim the same
interface id and stay different. A subject is what a service is looked up as, which is a contract
or nothing in particular.
-/

namespace ServiceWatch

/-- What a service is looked up as, by the name of its type. -/
structure Subject where
  typeName : String
  deriving DecidableEq

/-- A contract that can be published. -/
structure Contract where
  interfaceId : String
  typeName : String
  deriving DecidableEq

/-- The subject of services looked up under a contract. -/
def Contract.subject (c : Contract) : Subject := ⟨c.typeName⟩

/-- The subject of services known by their published interfaces alone. -/
def Subject.untyped : Subject := ⟨"service_tracking::reference::Untyped"⟩

end ServiceWatch
