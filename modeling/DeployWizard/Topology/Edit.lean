import DeployWizard.Topology.Basic

set_option autoImplicit false

namespace DeployWizard.Topology

def update (t : Topology) (id : ZoneId) (f : Zone → Zone) : Topology :=
  { t with zones := t.zones.map fun z => if z.id = id then f z else z }

def drop (t : Topology) (id : ZoneId) : Topology :=
  { t with zones := t.zones.filter (·.id ≠ id) }

/-- Removes a zone even if it holds something. The last zone stays. -/
def removeConfirmed (t : Topology) (id : ZoneId) : Except Issue Zone × Topology :=
  match t.zone? id with
  | none => (.error (.zoneNotFound id), t)
  | some z => if t.zones.length = 1 then (.error .lastZone, t) else (.ok z, t.drop id)

/-- Removes a blank zone; any other has to be confirmed. -/
def remove (t : Topology) (id : ZoneId) : Except Issue Zone × Topology :=
  match t.zone? id with
  | none => (.error (.zoneNotFound id), t)
  | some z =>
    if t.zones.length = 1 then (.error .lastZone, t)
    else if z.isBlank then (.ok z, t.drop id)
    else (.error (.confirmationRequired z.name), t)

def rename (t : Topology) (id : ZoneId) (name : String) : Except Issue Unit × Topology :=
  match t.zone? id with
  | none => (.error (.zoneNotFound id), t)
  | some _ =>
    if !isZoneName name then (.error (.invalidFormat name), t)
    else if t.zones.any fun z => z.id ≠ id && z.name = name then (.error (.duplicateName name), t)
    else (.ok (), t.update id fun z => { z with name })

/-- Sorts the entries of a server list: the addresses to store, and an issue for each other entry.
An address in `taken` or stored before is a duplicate. -/
def accept : List String → List String → List String × List Issue
  | _, [] => ([], [])
  | taken, entry :: entries =>
    let address := Text.trim entry
    if !isAddress address then
      let (stored, issues) := accept taken entries
      (stored, .invalidAddress address :: issues)
    else if address ∈ taken then
      let (stored, issues) := accept taken entries
      (stored, .duplicateAddress address :: issues)
    else
      let (stored, issues) := accept (address :: taken) entries
      (address :: stored, issues)

def heldElsewhere (t : Topology) (id : ZoneId) : List String :=
  (t.zones.filter (·.id ≠ id)).flatMap (·.servers)

structure ServersEdit where
  /-- The addresses that the zone held and no longer holds. -/
  removed : List String
  rejected : List Issue
  deriving DecidableEq

def ServersEdit.hasDuplicates (e : ServersEdit) : Bool :=
  e.rejected.any fun
    | .duplicateAddress _ => true
    | _ => false

/-- The coordinator stays while it is a server; without one a single server takes its place. -/
def coordinatorFor (servers : List String) (old : Option String) : Option String :=
  match old.filter (· ∈ servers) with
  | some c => some c
  | none =>
    match servers with
    | [s] => some s
    | _ => none

/-- Replaces the servers of a zone. Entries that are no address or already taken are dropped and
reported. -/
def setServers (t : Topology) (id : ZoneId) (entries : List String) :
    Except Issue ServersEdit × Topology :=
  match t.zone? id with
  | none => (.error (.zoneNotFound id), t)
  | some z =>
    let (stored, rejected) := accept (t.heldElsewhere id) entries
    (.ok ⟨z.servers.filter (· ∉ stored), rejected⟩,
      t.update id fun z =>
        { z with servers := stored, coordinator := coordinatorFor stored z.coordinator })

/-- Designates the coordinator of a zone. An address that is not a server of the zone is stored too,
to be corrected later, and reported. -/
def setCoordinator (t : Topology) (id : ZoneId) (entry : String) : Except Issue Unit × Topology :=
  match t.zone? id with
  | none => (.error (.zoneNotFound id), t)
  | some z =>
    let address := Text.trim entry
    if !isAddress address then (.error (.invalidAddress address), t)
    else
      (if address ∈ z.servers then .ok () else .error (.notInZone address),
        t.update id fun z => { z with coordinator := some address })

def clearCoordinator (t : Topology) (id : ZoneId) : Except Issue Unit × Topology :=
  match t.zone? id with
  | none => (.error (.zoneNotFound id), t)
  | some _ => (.ok (), t.update id fun z => { z with coordinator := none })

end DeployWizard.Topology
