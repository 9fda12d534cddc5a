set_option autoImplicit false

namespace DeployWizard

inductive ZoneId where
  | minted (n : Nat)
  /-- An identity that no zone of the session was ever given. -/
  | foreign (text : String)
  deriving DecidableEq

def ZoneId.label : ZoneId → String
  | .minted n => "#" ++ toString n
  | .foreign text => text

structure Zone where
  id : ZoneId
  name : String
  servers : List String := []
  coordinator : Option String := none
  deriving DecidableEq

def Zone.isBlank (z : Zone) : Bool :=
  z.servers.isEmpty && z.coordinator.isNone

/-- A zone as a deployment carries it: without an identity. -/
structure ZonePlan where
  name : String
  servers : List String := []
  coordinator : Option String := none
  deriving DecidableEq

def Zone.plan (z : Zone) : ZonePlan :=
  ⟨z.name, z.servers, z.coordinator⟩

end DeployWizard
