import DeployWizard.Address
import DeployWizard.Names
import DeployWizard.Diagnostic

set_option autoImplicit false

namespace DeployWizard

structure Topology where
  zones : List Zone
  nameIndex : Nat
  /-- The number of the next identity. -/
  nextId : Nat
  deriving DecidableEq

namespace Topology

/-- Default names are numbered up to this number, which is then tried again and again. -/
def lastNameIndex : Nat := 4294967295

def nextIndex (i : Nat) : Nat := min (i + 1) lastNameIndex

def defaultName (i : Nat) : String := "zone" ++ toString i

def names (t : Topology) : List String :=
  t.zones.map (·.name)

def zone? (t : Topology) (id : ZoneId) : Option Zone :=
  t.zones.find? (·.id = id)

def zoneNamed? (t : Topology) (name : String) : Option Zone :=
  t.zones.find? (·.name = name)

def allServers (t : Topology) : List String :=
  t.zones.flatMap (·.servers)

/-- The first free default name from an index on, and the index after it. Among one name more than
there are zones one is free, unless the numbers have come to their end. -/
def freeName? (taken : List String) : Nat → Nat → Option (String × Nat)
  | 0, _ => none
  | tries + 1, i =>
    if defaultName i ∈ taken then freeName? taken tries (nextIndex i)
    else some (defaultName i, nextIndex i)

/-- A new zone at the end of the list. The name is not checked. -/
def addNamed (t : Topology) (name : String) : ZoneId × Topology :=
  let id := .minted t.nextId
  (id, { t with zones := t.zones ++ [{ id, name }], nextId := t.nextId + 1 })

/-- A new zone with the next free default name; none if every default name is taken. -/
def addDefault? (t : Topology) : Option (ZoneId × Topology) :=
  (freeName? t.names (t.zones.length + 1) t.nameIndex).map fun (name, next) =>
    { t with nameIndex := next }.addNamed name

def add? (t : Topology) : Option String → Option (ZoneId × Topology)
  | some name => some (t.addNamed name)
  | none => t.addDefault?

/-- The three blank zones of a fresh deployment, their identities numbered from `firstId`. -/
def fresh (firstId : Nat) : Topology where
  zones := (List.range 3).map fun k => { id := .minted (firstId + k), name := defaultName (k + 1) }
  nameIndex := 4
  nextId := firstId + 3

def loadZones : Nat → List ZonePlan → List Zone
  | _, [] => []
  | n, p :: ps =>
    { id := .minted n
      name := p.name
      servers := p.servers.map Text.trim
      coordinator := p.coordinator.filter (· ≠ "") } :: loadZones (n + 1) ps

/-- The zones of a deployment with new identities; a deployment without zones gets fresh ones. -/
def ofPlans (plans : List ZonePlan) (firstId : Nat) : Topology :=
  if plans.isEmpty then fresh firstId
  else
    { zones := loadZones firstId plans
      nameIndex := min (min plans.length lastNameIndex + 1) lastNameIndex
      nextId := firstId + plans.length }

def plans (t : Topology) : List ZonePlan :=
  t.zones.map Zone.plan

/-- The same zones under new identities. -/
def reload (t : Topology) : Topology :=
  ofPlans t.plans t.nextId

structure Pools where
  allServers : List String
  zoneServers : List (ZoneId × List String)
  proxyServers : List String
  consoleServer : Option String

def pools (t : Topology) : Pools where
  allServers := t.allServers
  zoneServers := t.zones.map fun z => (z.id, z.servers)
  proxyServers := t.allServers.head?.toList
  consoleServer := t.allServers.head?

end Topology

end DeployWizard
