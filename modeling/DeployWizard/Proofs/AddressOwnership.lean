import Mathlib.Data.List.Nodup
import DeployWizard.Proofs.ZoneEdits

set_option autoImplicit false

/-!
Who holds an address. A loaded zone list may assign an address twice; a zone that the session
created, or whose servers it entered, holds its addresses alone, whatever becomes of the others.
-/
namespace DeployWizard.Topology

abbrev Event := Edit × Except Issue Answer

/-- The zone lists reached from the zones of a deployment, and what was done on the way, the latest
first. -/
inductive Run (plans : List ZonePlan) (firstId : Nat) : List Event → Topology → Prop
  | load : Run plans firstId [] (ofPlans plans firstId)
  | step {past : List Event} {t t' : Topology} {e : Edit} {r : Except Issue Answer}
    (run : Run plans firstId past t) (h : t.apply e = some (r, t')) :
    Run plans firstId ((e, r) :: past) t'

def Tends (event : Event) (id : ZoneId) : Prop :=
  (∃ name, event = (.add name, .ok (.added id))) ∨
    ∃ entries edit, event = (.setServers id entries, .ok (.assigned edit))

/-- The session created the zone or entered its servers. A deployment without zones gets zones that
the session creates. -/
def Tended (plans : List ZonePlan) (past : List Event) (id : ZoneId) : Prop :=
  plans = [] ∨ ∃ event ∈ past, Tends event id

def Strayed (past : List Event) (id : ZoneId) : Prop :=
  ∃ newer older entry address,
    past = newer ++ (.setCoordinator id entry, .error (.notInZone address)) :: older ∧
      ∀ event ∈ newer, ¬Tends event id

theorem Strayed.cons {past : List Event} {id : ZoneId} {event : Event} (h : Strayed past id)
    (hevent : ¬Tends event id) : Strayed (event :: past) id := by
  obtain ⟨newer, older, entry, address, rfl, hnewer⟩ := h
  refine ⟨event :: newer, older, entry, address, rfl, ?_⟩
  intro other hother
  obtain rfl | hother := List.mem_cons.1 hother
  · exact hevent
  · exact hnewer other hother

theorem strayed_now (past : List Event) (id : ZoneId) (entry address : String) :
    Strayed ((.setCoordinator id entry, .error (.notInZone address)) :: past) id :=
  ⟨[], past, entry, address, rfl, by simp⟩

theorem not_tends_error {e : Edit} {issue : Issue} {id : ZoneId} : ¬Tends (e, .error issue) id := by
  simp [Tends]

/-- A zone whose addresses are well-formed and its own. -/
structure Owned (t : Topology) (z : Zone) : Prop where
  trimmed : ∀ s ∈ z.servers, Text.trim s = s
  addresses : ∀ s ∈ z.servers, isAddress s = true
  distinct : z.servers.Nodup
  exclusive : ∀ other ∈ t.zones, other.id ≠ z.id → ∀ s ∈ z.servers, s ∉ other.servers

structure Separated (plans : List ZonePlan) (past : List Event) (t : Topology) : Prop where
  nonempty : t.zones ≠ []
  distinct : t.ids.Nodup
  owned : ∀ z ∈ t.zones, Tended plans past z.id → Owned t z
  coordinated : ∀ z ∈ t.zones, Tended plans past z.id →
    ∀ c, z.coordinator = some c → c ∈ z.servers ∨ Strayed past z.id
  pool : plans = [] → t.allServers.Nodup

inductive Origin (t : Topology) (e : Edit) (r : Except Issue Answer) (z : Zone) : Prop
  | kept (old : Zone) (hold : old ∈ t.zones) (hid : old.id = z.id)
    (hservers : old.servers = z.servers)
    (huntended : ¬Tends (e, r) z.id)
    (hcoordinator : ∀ c, z.coordinator = some c → old.coordinator = some c ∨ c ∈ z.servers ∨
      ∃ entry address, (e, r) = (.setCoordinator z.id entry, .error (.notInZone address)))
  | created (hservers : z.servers = []) (hcoordinator : z.coordinator = none)
  | entered (entries : List String) (old : Option String) (hedit : e = .setServers z.id entries)
    (hservers : z.servers = (accept (t.heldElsewhere z.id) entries).1)
    (hcoordinator : z.coordinator = coordinatorFor z.servers old)

theorem mem_heldElsewhere {t : Topology} {id : ZoneId} {s : String} :
    s ∈ t.heldElsewhere id ↔ ∃ z ∈ t.zones, z.id ≠ id ∧ s ∈ z.servers := by
  simp [heldElsewhere, and_assoc]

theorem Origin.same {t : Topology} {e : Edit} {r : Except Issue Answer} {z : Zone}
    (hz : z ∈ t.zones) (huntended : ¬Tends (e, r) z.id) : Origin t e r z :=
  .kept z hz rfl rfl huntended fun _ hc => Or.inl hc

theorem origin_of_effect {t t' : Topology} {e : Edit} {r : Except Issue Answer}
    (ht : t.Identified) (eff : Effect t e r t') {z : Zone} (hz : z ∈ t'.zones) :
    Origin t e r z := by
  cases eff with
  | added entry name index =>
    simp only [addNamed, List.mem_append, List.mem_singleton] at hz
    obtain hz | rfl := hz
    · refine .same hz ?_
      rintro (⟨name, h⟩ | ⟨entries, edit, h⟩)
      · have hid : ZoneId.minted t.nextId = z.id := by simpa using congrArg Prod.snd h
        exact ht.fresh_id (hid ▸ List.mem_map_of_mem hz)
      · simp at h
    · exact .created rfl rfl
  | removed _ removed _ _ he =>
    refine .same (mem_drop.1 hz).1 ?_
    obtain rfl | rfl := he <;> simp [Tends]
  | renamed id name _ _ =>
    have huntended : ¬Tends (.rename id name, .ok .done) z.id := by simp [Tends]
    obtain ⟨hz, -⟩ | ⟨old, hold, -, rfl⟩ := mem_update.1 hz
    · exact .same hz huntended
    · exact .kept old hold rfl rfl huntended fun _ hc => Or.inl hc
  | assigned target entries _ =>
    obtain ⟨hz, hne⟩ | ⟨old, hold, hid, rfl⟩ := mem_update.1 hz
    · refine .same hz ?_
      simp only [Tends, Prod.mk.injEq, Edit.setServers.injEq]
      rintro (⟨_, h, -⟩ | ⟨_, _, ⟨hid, -⟩, -⟩)
      · cases h
      · exact hne hid.symm
    · refine .entered entries old.coordinator ?_ ?_ rfl
      · rw [← hid]
        rfl
      · rw [← hid]
        rfl
  | coordinated target entry htarget _ hserver =>
    have huntended : ¬Tends (.setCoordinator target.id entry, .ok .done) z.id := by simp [Tends]
    obtain ⟨hz, -⟩ | ⟨old, hold, hid, rfl⟩ := mem_update.1 hz
    · exact .same hz huntended
    · refine .kept old hold rfl rfl huntended fun c hc => ?_
      obtain rfl := ht.eq_of_id hold (mem_of_zone? htarget).1 hid
      rw [← Option.some.inj hc]
      exact Or.inr (Or.inl hserver)
  | strayed target entry _ _ _ =>
    obtain ⟨hz, -⟩ | ⟨old, hold, hid, rfl⟩ := mem_update.1 hz
    · exact .same hz not_tends_error
    · refine .kept old hold rfl rfl not_tends_error fun c _ => ?_
      rw [← hid]
      exact Or.inr (Or.inr ⟨entry, _, rfl⟩)
  | cleared id =>
    have huntended : ¬Tends (.clearCoordinator id, .ok .done) z.id := by simp [Tends]
    obtain ⟨hz, -⟩ | ⟨old, hold, -, rfl⟩ := mem_update.1 hz
    · exact .same hz huntended
    · exact .kept old hold rfl rfl huntended fun _ hc => by cases hc
  | refused e issue _ => exact .same hz not_tends_error

theorem tended_cons {plans : List ZonePlan} {past : List Event} {event : Event} {id : ZoneId}
    (h : Tended plans (event :: past) id) (huntended : ¬Tends event id) : Tended plans past id := by
  obtain h | ⟨other, hother, htends⟩ := h
  · exact Or.inl h
  · obtain rfl | hother := List.mem_cons.1 hother
    · exact absurd htends huntended
    · exact Or.inr ⟨other, hother, htends⟩

theorem exclusive_after {t : Topology} {e : Edit} {r : Except Issue Answer} {old other : Zone}
    (hold : old ∈ t.zones) (howned : Owned t old) (hne : other.id ≠ old.id)
    (horigin : Origin t e r other) : ∀ s ∈ old.servers, s ∉ other.servers := by
  intro s hs
  cases horigin with
  | kept before hbefore hid hservers _ _ =>
    rw [← hservers]
    exact howned.exclusive before hbefore (hid ▸ hne) s hs
  | created hservers _ => simp [hservers]
  | entered entries _ _ hservers _ =>
    rw [hservers]
    intro hmem
    have hfree := ((accept_spec _ entries).1 s hmem).2.2
    exact hfree (mem_heldElsewhere.2 ⟨old, hold, hne.symm, hs⟩)

theorem owned_after {plans : List ZonePlan} {past : List Event} {t t' : Topology} {e : Edit}
    {r : Except Issue Answer} (ht : t.Identified) (eff : Effect t e r t')
    (ih : ∀ z ∈ t.zones, Tended plans past z.id → Owned t z) {z : Zone} (hz : z ∈ t'.zones)
    (htended : Tended plans ((e, r) :: past) z.id) : Owned t' z := by
  cases origin_of_effect ht eff hz with
  | kept old hold hid hservers huntended _ =>
    have howned := ih old hold (hid ▸ tended_cons htended huntended)
    refine ⟨hservers ▸ howned.trimmed, hservers ▸ howned.addresses, hservers ▸ howned.distinct, ?_⟩
    intro other hother hne
    rw [← hservers]
    exact exclusive_after hold howned (hid ▸ hne) (origin_of_effect ht eff hother)
  | created hservers _ =>
    constructor <;> simp [hservers]
  | entered entries _ hedit hservers _ =>
    obtain ⟨hstored, hnodup⟩ := accept_spec (t.heldElsewhere z.id) entries
    rw [← hservers] at hstored hnodup
    refine ⟨fun s hs => (hstored s hs).1, fun s hs => (hstored s hs).2.1, hnodup, ?_⟩
    intro other hother hne s hs hmem
    cases origin_of_effect ht eff hother with
    | kept before hbefore hid hsame _ _ =>
      refine (hstored s hs).2.2 (mem_heldElsewhere.2 ⟨before, hbefore, hid ▸ hne, ?_⟩)
      rw [hsame]
      exact hmem
    | created hnone _ => simp [hnone] at hmem
    | entered _ _ hother _ _ =>
      -- One edit enters the servers of one zone only.
      rw [hedit, Edit.setServers.injEq] at hother
      exact hne hother.1.symm

theorem coordinated_after {plans : List ZonePlan} {past : List Event} {t t' : Topology} {e : Edit}
    {r : Except Issue Answer} (ht : t.Identified) (eff : Effect t e r t')
    (ih : ∀ z ∈ t.zones, Tended plans past z.id →
      ∀ c, z.coordinator = some c → c ∈ z.servers ∨ Strayed past z.id)
    {z : Zone} (hz : z ∈ t'.zones) (htended : Tended plans ((e, r) :: past) z.id) :
    ∀ c, z.coordinator = some c → c ∈ z.servers ∨ Strayed ((e, r) :: past) z.id := by
  intro c hc
  cases origin_of_effect ht eff hz with
  | kept old hold hid hservers huntended hcoordinator =>
    obtain hbefore | hserver | ⟨entry, address, hevent⟩ := hcoordinator c hc
    · obtain hserver | hstrayed := ih old hold (hid ▸ tended_cons htended huntended) c hbefore
      · exact Or.inl (hservers ▸ hserver)
      · exact Or.inr ((hid ▸ hstrayed).cons huntended)
    · exact Or.inl hserver
    · rw [hevent]
      exact Or.inr (strayed_now past z.id entry address)
  | created _ hnone => simp [hnone] at hc
  | entered _ _ _ _ hcoordinator =>
    rw [hcoordinator] at hc
    exact Or.inl (mem_of_coordinatorFor hc)

theorem allServers_nodup {t : Topology} (ht : t.Identified) (h : ∀ z ∈ t.zones, Owned t z) :
    t.allServers.Nodup := by
  refine List.nodup_flatMap.2 ⟨fun z hz => (h z hz).distinct, ?_⟩
  have hids : t.zones.Pairwise fun y z => y.id ≠ z.id := List.pairwise_map.1 ht.distinct
  refine hids.imp_of_mem fun {y z} hy hz hne => ?_
  intro s hs hmem
  exact (h y hy).exclusive z hz hne.symm s hs hmem

theorem Run.identified {plans : List ZonePlan} {firstId : Nat} {past : List Event} {t : Topology}
    (run : Run plans firstId past t) : t.Identified := by
  induction run with
  | load => exact identified_ofPlans plans firstId
  | step _ h ih => exact ih.of_effect (apply_effect h)

theorem not_tended_nil {plans : List ZonePlan} (hplans : plans ≠ []) (id : ZoneId) :
    ¬Tended plans [] id := by
  simp [Tended, hplans]

theorem Run.tended {plans : List ZonePlan} {firstId : Nat} {past : List Event} {t : Topology}
    (run : Run plans firstId past t) :
    ∀ z ∈ t.zones, Tended plans past z.id → Owned t z ∧
      ∀ c, z.coordinator = some c → c ∈ z.servers ∨ Strayed past z.id := by
  induction run with
  | load =>
    intro z hz htended
    by_cases hplans : plans = []
    · subst hplans
      obtain ⟨hservers, hcoordinator⟩ := blank_of_mem_fresh hz
      refine ⟨by constructor <;> simp [hservers], ?_⟩
      simp [hcoordinator]
    · exact absurd htended (not_tended_nil hplans z.id)
  | step run h ih =>
    intro z hz htended
    have eff := apply_effect h
    exact ⟨owned_after run.identified eff (fun y hy hy' => (ih y hy hy').1) hz htended,
      coordinated_after run.identified eff (fun y hy hy' => (ih y hy hy').2) hz htended⟩

/-- In every run from any deployment, zones keep their identities apart, and every zone that the
session created or whose servers it entered holds well-formed addresses of its own, one of which
coordinates unless an outside coordinator was reported. -/
theorem run_separated {plans : List ZonePlan} {firstId : Nat} {past : List Event} {t : Topology}
    (run : Run plans firstId past t) : Separated plans past t where
  nonempty := run.identified.nonempty
  distinct := run.identified.distinct
  owned := fun z hz htended => (run.tended z hz htended).1
  coordinated := fun z hz htended => (run.tended z hz htended).2
  pool := fun hplans =>
    allServers_nodup run.identified fun z hz => (run.tended z hz (Or.inl hplans)).1

/-- A loaded zone, a new one whose servers are entered, and a coordinator from outside for it. -/
theorem run_separated_with_stray :
    let plans : List ZonePlan := [⟨"zone1", ["10.0.0.1"], none⟩]
    let past : List Event :=
      [(.setCoordinator (.minted 1) "10.0.0.9", .error (.notInZone "10.0.0.9")),
        (.setServers (.minted 1) ["10.0.0.1", " 10.0.0.2"],
          .ok (.assigned ⟨[], [.duplicateAddress "10.0.0.1"]⟩)),
        (.add none, .ok (.added (.minted 1)))]
    let t : Topology :=
      ⟨[⟨.minted 0, "zone1", ["10.0.0.1"], none⟩,
        ⟨.minted 1, "zone2", ["10.0.0.2"], some "10.0.0.9"⟩], 3, 2⟩
    Run plans 0 past t ∧ Separated plans past t := by
  have added : (ofPlans [⟨"zone1", ["10.0.0.1"], none⟩] 0).apply (.add none) =
      some (.ok (.added (.minted 1)),
        ⟨[⟨.minted 0, "zone1", ["10.0.0.1"], none⟩, ⟨.minted 1, "zone2", [], none⟩], 3, 2⟩) := by
    decide +kernel
  have entered : Topology.apply
      ⟨[⟨.minted 0, "zone1", ["10.0.0.1"], none⟩, ⟨.minted 1, "zone2", [], none⟩], 3, 2⟩
      (.setServers (.minted 1) ["10.0.0.1", " 10.0.0.2"]) =
        some (.ok (.assigned ⟨[], [.duplicateAddress "10.0.0.1"]⟩),
          ⟨[⟨.minted 0, "zone1", ["10.0.0.1"], none⟩,
            ⟨.minted 1, "zone2", ["10.0.0.2"], some "10.0.0.2"⟩], 3, 2⟩) := by
    decide +kernel
  have strayed : Topology.apply
      ⟨[⟨.minted 0, "zone1", ["10.0.0.1"], none⟩,
        ⟨.minted 1, "zone2", ["10.0.0.2"], some "10.0.0.2"⟩], 3, 2⟩
      (.setCoordinator (.minted 1) "10.0.0.9") =
        some (.error (.notInZone "10.0.0.9"),
          ⟨[⟨.minted 0, "zone1", ["10.0.0.1"], none⟩,
            ⟨.minted 1, "zone2", ["10.0.0.2"], some "10.0.0.9"⟩], 3, 2⟩) := by
    decide +kernel
  have run := Run.step (.step (.step .load added) entered) strayed
  exact ⟨run, run_separated run⟩

end DeployWizard.Topology
