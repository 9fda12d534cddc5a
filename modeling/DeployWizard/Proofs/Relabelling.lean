import Mathlib.Data.List.GetD
import Mathlib.Data.List.Nodup
import DeployWizard.Topology.Validation
import DeployWizard.Proofs.AddressOwnership
import DeployWizard.Proofs.Reloading

set_option autoImplicit false

namespace DeployWizard

def Zone.relabel (f : ZoneId → ZoneId) (z : Zone) : Zone :=
  { z with id := f z.id }

def Field.relabel (f : ZoneId → ZoneId) : Field → Field
  | .zoneName id => .zoneName (f id)
  | .zoneServers id => .zoneServers (f id)
  | .zoneCoordinator id => .zoneCoordinator (f id)
  | .zones => .zones
  | .proxyServers => .proxyServers
  | .consoleServers => .consoleServers
  | .user => .user
  | .port => .port
  | .homePath => .homePath

def Diagnostic.relabel (f : ZoneId → ZoneId) (d : Diagnostic) : Diagnostic :=
  { d with field := d.field.relabel f }

namespace Topology
variable {f : ZoneId → ZoneId} {t u : Topology}

/-- The identity in `u` of the zone that stands where the zone of an identity stands in `t`. -/
def counterpart (t u : Topology) (id : ZoneId) : ZoneId :=
  u.ids.getD (t.ids.idxOf id) id

def KeepsApart (f : ZoneId → ZoneId) (zones : List Zone) : Prop :=
  ∀ y ∈ zones, ∀ z ∈ zones, f y.id = f z.id → y.id = z.id

theorem nameIssue?_relabel {zones : List Zone} (h : KeepsApart f zones) {z : Zone}
    (hz : z ∈ zones) :
    nameIssue? (zones.map (Zone.relabel f)) (z.relabel f) = nameIssue? zones z := by
  have hshared : ((zones.map (Zone.relabel f)).any fun other =>
      other.id ≠ (z.relabel f).id && other.name = (z.relabel f).name) =
      zones.any fun other => other.id ≠ z.id && other.name = z.name := by
    rw [List.any_map, Bool.eq_iff_iff, List.any_eq_true, List.any_eq_true]
    refine exists_congr fun y => and_congr_right fun hy => ?_
    have hid : f y.id = f z.id ↔ y.id = z.id := ⟨h y hy z hz, congrArg f⟩
    simp only [Function.comp_apply, Bool.and_eq_true, decide_eq_true_eq]
    exact and_congr_left fun _ => not_congr hid
  unfold nameIssue?
  rw [hshared]
  rfl

theorem diagnose_relabel {zones : List Zone} (h : KeepsApart f zones) (seen : List String)
    {zs : List Zone} (hzs : ∀ z ∈ zs, z ∈ zones) :
    diagnose (zones.map (Zone.relabel f)) seen (zs.map (Zone.relabel f)) =
      (diagnose zones seen zs).map (Diagnostic.relabel f) := by
  induction zs generalizing seen with
  | nil => rfl
  | cons z zs ih =>
    have hname := nameIssue?_relabel h (hzs z List.mem_cons_self)
    have hrest := ih (serverIssues seen z.servers).2 fun y hy => hzs y (List.mem_cons_of_mem z hy)
    have hmissing : (if z.servers.isEmpty then
          [(⟨.zoneServers (f z.id), .required⟩ : Diagnostic)] else []) =
        (if z.servers.isEmpty then [⟨.zoneServers z.id, .required⟩] else []).map
          (Diagnostic.relabel f) := by
      split <;> rfl
    rw [List.map_cons, diagnose, diagnose, hname]
    simp only [List.map_append, List.map_map, ← hmissing, ← hrest]
    rfl

theorem validate_relabel (h : KeepsApart f t.zones)
    (hu : u.zones = t.zones.map (Zone.relabel f)) :
    u.validate = t.validate.map (Diagnostic.relabel f) := by
  unfold validate
  rw [hu, List.isEmpty_map]
  split
  · rfl
  · exact diagnose_relabel h [] fun _ hz => hz

theorem ids_relabel (hu : u.zones = t.zones.map (Zone.relabel f)) : u.ids = t.ids.map f := by
  simp only [ids, hu, List.map_map]
  rfl

theorem keepsApart_of_nodup (hu : u.zones = t.zones.map (Zone.relabel f)) (hids : u.ids.Nodup) :
    KeepsApart f t.zones := by
  rw [ids_relabel hu] at hids
  intro y hy z hz hsame
  exact List.inj_on_of_nodup_map hids (List.mem_map_of_mem hy) (List.mem_map_of_mem hz) hsame

/-- Lists of the same zones differ in the identities only. -/
theorem zones_eq_relabel (hids : t.ids.Nodup) (hplans : u.plans = t.plans) :
    u.zones = t.zones.map (Zone.relabel (counterpart t u)) := by
  have hlength : u.zones.length = t.zones.length := by
    simpa [plans] using congrArg List.length hplans
  refine List.ext_getElem (by simpa using hlength) fun i hu ht => ?_
  have ht : i < t.zones.length := by simpa using ht
  have hplan : u.zones[i].plan = t.zones[i].plan := by
    have hat : u.plans[i]? = t.plans[i]? := by rw [hplans]
    simpa [plans, hu, ht] using hat
  have hid : counterpart t u t.zones[i].id = u.zones[i].id := by
    have hpos : t.ids.idxOf t.zones[i].id = i := by
      have hat := hids.idxOf_getElem i (by simpa [ids] using ht)
      simpa [ids] using hat
    rw [counterpart, hpos, List.getD_eq_getElem _ _ (by simpa [ids] using hu)]
    exact List.getElem_map _
  obtain ⟨hname, hservers, hcoordinator⟩ := ZonePlan.mk.inj hplan
  rw [List.getElem_map, Zone.relabel, hid, ← hname, ← hservers, ← hcoordinator]

theorem Run.tidy {plans : List ZonePlan} {firstId : Nat} {past : List Event}
    (run : Run plans firstId past t) : ∀ z ∈ t.zones, z.Tidy := by
  induction run with
  | load => exact tidy_ofPlans plans firstId
  | step _ h ih => exact tidy_of_effect ih (apply_effect h)

/-- Loading what was saved of a zone list gives the same zones in the same places, and the same
diagnostics, each at the zone in the place of the one it was at. -/
theorem reloaded_relabelled {plans : List ZonePlan} {firstId : Nat} {past : List Event}
    (run : Run plans firstId past t) (nextId : Nat) (hu : u = ofPlans t.plans nextId) :
    u.plans = t.plans ∧ u.zones = t.zones.map (Zone.relabel (counterpart t u)) ∧
      u.validate = t.validate.map (Diagnostic.relabel (counterpart t u)) := by
  subst hu
  have ht := run.identified
  have hu := identified_ofPlans t.plans nextId
  have hplans := plans_ofPlans ht.nonempty run.tidy nextId
  have hzones := zones_eq_relabel ht.distinct hplans
  exact ⟨hplans, hzones, validate_relabel (keepsApart_of_nodup hzones hu.distinct) hzones⟩

/-- Two loaded zones of one name share an address, one has a coordinator from outside; the first
zone is removed and a zone is added. -/
theorem reloaded_relabelled_after_edits :
    let plans : List ZonePlan := [⟨"zone1", [], some ""⟩, ⟨"zone2", [" 10.0.0.1"], some " nowhere"⟩,
      ⟨"zone2", ["10.0.0.1 "], none⟩]
    let t : Topology :=
      ⟨[⟨.minted 1, "zone2", ["10.0.0.1"], some " nowhere"⟩,
        ⟨.minted 2, "zone2", ["10.0.0.1"], none⟩, ⟨.minted 3, "zone4", [], none⟩], 5, 4⟩
    let u : Topology :=
      ⟨[⟨.minted 4, "zone2", ["10.0.0.1"], some " nowhere"⟩,
        ⟨.minted 5, "zone2", ["10.0.0.1"], none⟩, ⟨.minted 6, "zone4", [], none⟩], 4, 7⟩
    (∃ past, Run plans 0 past t) ∧ u = ofPlans t.plans 4 ∧ t.validate.length = 6 ∧
      u.validate = t.validate.map (Diagnostic.relabel (counterpart t u)) := by
  intro plans t u
  have removed : (ofPlans plans 0).apply (.remove (.minted 0)) =
      some (.ok (.removed ⟨.minted 0, "zone1", [], none⟩),
        ⟨[⟨.minted 1, "zone2", ["10.0.0.1"], some " nowhere"⟩,
          ⟨.minted 2, "zone2", ["10.0.0.1"], none⟩], 4, 3⟩) := by
    decide +kernel
  have added : Topology.apply ⟨[⟨.minted 1, "zone2", ["10.0.0.1"], some " nowhere"⟩,
      ⟨.minted 2, "zone2", ["10.0.0.1"], none⟩], 4, 3⟩ (.add none) =
        some (.ok (.added (.minted 3)), t) := by
    decide +kernel
  have run := Run.step (.step .load removed) added
  have hu : u = ofPlans t.plans 4 := by decide +kernel
  exact ⟨⟨_, run⟩, hu, by decide +kernel, (reloaded_relabelled run 4 hu).2.2⟩

end Topology

end DeployWizard
