import DeployWizard.Wizard
import DeployWizard.Payload.Deployment

set_option autoImplicit false

namespace DeployWizard.Payload
open Json

def issueCode : Issue → String
  | .invalidFormat _ => "InvalidFormat"
  | .duplicateName _ => "DuplicateName"
  | .invalidAddress _ => "InvalidAddress"
  | .duplicateAddress _ => "DuplicateAddress"
  | .notInZone _ => "NotInZone"
  | .lastZone => "LastZoneGuard"
  | .confirmationRequired _ => "ConfirmationRequired"
  | .zoneNotFound _ => "ZoneNotFound"
  | .required => "Required"
  | .multipleSelection => "MultipleSelection"
  | .invalidEntry _ => "ValidationError"

def issueSubject? : Issue → Option String
  | .invalidFormat s | .duplicateName s | .invalidAddress s | .duplicateAddress s | .notInZone s
  | .confirmationRequired s | .invalidEntry s => some s
  | .zoneNotFound id => some id.label
  | .lastZone | .required | .multipleSelection => none

def ofIssue (i : Issue) : Value :=
  .object (("code", .text (issueCode i)) :: member "details" .text (issueSubject? i))

def fieldKey : Field → String
  | .zones => "zones"
  | .zoneName _ => "zoneName"
  | .zoneServers _ => "zoneServers"
  | .zoneCoordinator _ => "zoneRootservice"
  | .proxyServers => "proxyServers"
  | .consoleServers => "consoleServers"
  | .user => "authUser"
  | .port => "authPort"
  | .homePath => "homePath"

def ofField (f : Field) : Value :=
  .object (("field", .text (fieldKey f)) :: member "zone" (fun id => .text id.label) f.zone?)

def ofDiagnostic (d : Diagnostic) : Value :=
  .object [("field", ofField d.field), ("error", ofIssue d.issue)]

def stepErrorCode : StepError → String
  | .formInvalid _ => "FormInvalid"
  | _ => "InvalidStep"

end DeployWizard.Payload
