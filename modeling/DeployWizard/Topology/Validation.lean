import DeployWizard.Topology.Basic

set_option autoImplicit false

namespace DeployWizard.Topology

def nameIssue? (zones : List Zone) (z : Zone) : Option Issue :=
  if z.name = "" then some .required
  else if !isZoneName z.name then some (.invalidFormat z.name)
  else if zones.any fun other => other.id ≠ z.id && other.name = z.name then
    some (.duplicateName z.name)
  else none

/-- The issues of a list of servers after the addresses already seen, and the addresses seen then.
-/
def serverIssues : List String → List String → List Issue × List String
  | seen, [] => ([], seen)
  | seen, s :: ss =>
    if !isAddress s then
      let (issues, seen) := serverIssues seen ss
      (.invalidAddress s :: issues, seen)
    else if s ∈ seen then
      let (issues, seen) := serverIssues seen ss
      (.duplicateAddress s :: issues, seen)
    else serverIssues (s :: seen) ss

def coordinatorIssue? (z : Zone) : Option Issue :=
  match z.coordinator with
  | none => if z.servers.isEmpty then none else some .required
  | some c =>
    if !isAddress c then some (.invalidAddress c)
    else if c ∈ z.servers then none
    else some (.notInZone c)

def diagnose (zones : List Zone) : List String → List Zone → List Diagnostic
  | _, [] => []
  | seen, z :: zs =>
    let (issues, seen) := serverIssues seen z.servers
    (nameIssue? zones z).toList.map (⟨.zoneName z.id, ·⟩) ++
      (if z.servers.isEmpty then [⟨.zoneServers z.id, .required⟩] else []) ++
      issues.map (⟨.zoneServers z.id, ·⟩) ++
      (coordinatorIssue? z).toList.map (⟨.zoneCoordinator z.id, ·⟩) ++
      diagnose zones seen zs

def validate (t : Topology) : List Diagnostic :=
  if t.zones.isEmpty then [⟨.zones, .lastZone⟩] else diagnose t.zones [] t.zones

structure Deployable (z : Zone) : Prop where
  name : isZoneName z.name = true
  servers : z.servers ≠ []
  addresses : ∀ s ∈ z.servers, isAddress s = true
  coordinator : ∃ c ∈ z.servers, z.coordinator = some c

/-- A zone list that can be deployed: there are zones, each can be deployed, no two share a name,
and no address occurs twice. -/
structure Consistent (t : Topology) : Prop where
  nonempty : t.zones ≠ []
  zones : ∀ z ∈ t.zones, Deployable z
  names : t.names.Nodup
  servers : t.allServers.Nodup

end DeployWizard.Topology
