import DeployWizard.Zone

set_option autoImplicit false

namespace DeployWizard

inductive Issue where
  | invalidFormat (name : String)
  | duplicateName (name : String)
  | invalidAddress (address : String)
  | duplicateAddress (address : String)
  | notInZone (address : String)
  | lastZone
  | confirmationRequired (name : String)
  | zoneNotFound (id : ZoneId)
  | required
  | multipleSelection
  | invalidEntry (reason : String)
  deriving DecidableEq

def Issue.message : Issue → String
  | .invalidFormat name =>
    "Invalid zone name '" ++ name ++ "': must start with a letter, end with a letter or digit, " ++
      "contain only letters, digits and underscores, and be 2-32 characters long"
  | .duplicateName name => "Zone name already occupied: " ++ name
  | .invalidAddress address => "Invalid IP address: " ++ address
  | .duplicateAddress address => "Duplicate node: " ++ address ++ " is already assigned"
  | .notInZone address => "RootServer " ++ address ++ " is not a server of this zone"
  | .lastZone => "Keep at least one zone"
  | .confirmationRequired name =>
    "Zone " ++ name ++ " has node configuration, confirmation required"
  | .zoneNotFound id => "Zone not found: " ++ id.label
  | .required => "This item is required"
  | .multipleSelection => "Only one node can be selected or entered"
  | .invalidEntry reason => "Validation error: " ++ reason

inductive Field where
  | zones
  | zoneName (id : ZoneId)
  | zoneServers (id : ZoneId)
  | zoneCoordinator (id : ZoneId)
  | proxyServers
  | consoleServers
  | user
  | port
  | homePath
  deriving DecidableEq

def Field.label : Field → String
  | .zones => "zones"
  | .zoneName id => id.label ++ ".name"
  | .zoneServers id => id.label ++ ".servers"
  | .zoneCoordinator id => id.label ++ ".rootservice"
  | .proxyServers => "obproxy.servers"
  | .consoleServers => "ocpexpress.servers"
  | .user => "auth.user"
  | .port => "auth.port"
  | .homePath => "home_path"

/-- The zone a field belongs to. -/
def Field.zone? : Field → Option ZoneId
  | .zoneName id | .zoneServers id | .zoneCoordinator id => some id
  | _ => none

structure Diagnostic where
  field : Field
  issue : Issue
  deriving DecidableEq

def Diagnostic.message (d : Diagnostic) : String :=
  d.field.label ++ ": " ++ d.issue.message

end DeployWizard
