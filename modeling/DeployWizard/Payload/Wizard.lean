import DeployWizard.Wizard
import DeployWizard.Payload.Deployment

set_option autoImplicit false

namespace DeployWizard.Payload
open Json

def orNull {α : Type} (write : α → Value) : Option α → Value
  | none => .null
  | some a => write a

def ofZoneState (z : Zone) : Value :=
  .object [("id", .text z.id.label), ("name", .text z.name), ("servers", .texts z.servers),
    ("rootservice", orNull .text z.coordinator)]

def asZoneState (v : Value) : Option Zone :=
  match Record.fields
      [⟨"id", [], false⟩, ⟨"name", [], false⟩, ⟨"servers", [], false⟩, ⟨"rootservice", [], false⟩]
      .ignored v with
  | some [id, name, servers, coordinator] => do
    some ⟨.foreign (← need asText id), ← need asText name, ← need asTexts servers,
      ← maybe asText coordinator⟩
  | _ => none

def ofStep (s : Step) : Value :=
  .text s.key

def asStep (v : Value) : Option Step :=
  (Spelling.strict.name? v).bind Step.ofKey?

def ofSummary (c : ComponentSummary) : Value :=
  .object [("kind", orNull ofComponent c.kind), ("name", .text c.name),
    ("version", .text c.version), ("servers", .texts c.servers)]

def ofZoneSummary (z : ZonePlan) : Value :=
  .object [("name", .text z.name), ("servers", .texts z.servers),
    ("rootservice", orNull .text z.coordinator)]

def ofReview (r : Review) : Value :=
  .object [("appname", .text r.appName), ("user", orNull .text r.user),
    ("homePath", orNull .text r.homePath), ("dataDir", orNull .text r.dataDir),
    ("mysqlPort", orNull ofPort r.sqlPort), ("rpcPort", orNull ofPort r.rpcPort),
    ("components", .array (r.components.map ofSummary)),
    ("zones", .array (r.zones.map ofZoneSummary))]

end DeployWizard.Payload
