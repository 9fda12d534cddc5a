import DeployWizard.Proofs.Gate
import DeployWizard.Proofs.ReplayedZones

set_option autoImplicit false

namespace DeployWizard.Command
variable {file : WizardFile} {info : Option ServiceInfo} {log : List LogLine} {w : Wizard}

theorem mem_entitled {held entries : List String} {s : String} :
    s ∈ entitled held entries ↔ s ∈ entries.map Text.trim ∧ isAddress s = true ∧ s ∉ held := by
  simp only [entitled, List.mem_eraseDups, List.mem_filter, Bool.and_eq_true, decide_eq_true_eq]

theorem single?_eq_some_iff {servers : List String} {s : String} :
    single? servers = some s ↔ servers = [s] := by
  unfold single?
  split
  next x => simp
  next hmany =>
    simp only [reduceCtorEq, false_iff]
    rintro rfl
    exact hmany s rfl

theorem length_replays (held : List String) (zones : List ZonePlan) :
    (replays held zones).length = zones.length := by
  induction zones generalizing held with
  | nil => rfl
  | cons z zs ih => rw [replays, List.length_cons, ih, List.length_cons]

theorem plans_filled (hzones : file.zones ≠ []) (info : Option ServiceInfo) :
    (filled file info).2.topology.plans = replays [] file.zones :=
  ((replayed_enterNodes hzones).of_sameNodes (enterLogin_sameNodes _ _ _)).zones

theorem zones_prepared (h : (prepare file info).2 = .ok w) (hzones : file.zones ≠ []) :
    w.draft.components.database.zones = replays [] file.zones ∧
      ConsistentPlans (replays [] file.zones) := by
  obtain ⟨hvalid, hw⟩ := prepared_iff.1 h
  have hreached := reachable_filled file info
  have hplans := plans_filled hzones info
  have hsub := NodeForm.submittable_writeInto hreached.wellFormed hreached.appName_eq hvalid
  constructor
  · rw [hw, ← hplans]
    rfl
  · rw [← hplans]
    exact hsub.zones

theorem prepare_cases (file : WizardFile) (info : Option ServiceInfo) :
    (∃ w, (prepare file info).2 = .ok w) ∨
      ∃ n, (prepare file info).2 = .error (.invalidFields n) := by
  rw [prepare_eq]
  cases (filled file info).2.validate with
  | nil => exact Or.inl ⟨_, rfl⟩
  | cons d ds => exact Or.inr ⟨_, rfl⟩

theorem warned_of_mem_filled {d : Diagnostic} (h : d ∈ (filled file info).1) :
    ⟨.warn, .diagnostic d⟩ ∈ (prepare file info).1 := by
  have hline : (⟨.warn, .diagnostic d⟩ : LogLine) ∈ lines .warn (filled file info).1 :=
    List.mem_map_of_mem h
  rw [prepare_eq]
  cases (filled file info).2.validate with
  | nil => exact hline
  | cons d ds => exact List.mem_append_left _ hline

theorem refusal_mem_enterZones {d : Deployment} {chosen : Selection} {firstId : Nat} {f : NodeForm}
    (hf : NodeForm.Reachable d chosen firstId f) {zones : List ZonePlan} {z : ZonePlan}
    (hz : z ∈ zones) {c : String} (hnamed : z.coordinator = some c)
    (hinvalid : isAddress (Text.trim c) = false) :
    ∃ id, ⟨.zoneCoordinator id, .invalidAddress (Text.trim c)⟩ ∈ (enterZones zones f).1 := by
  induction zones generalizing f with
  | nil => cases hz
  | cons y ys ih =>
    obtain rfl | hz := List.mem_cons.1 hz
    · exact ⟨_, List.mem_append_left _
        ((enterZone_enters hf.wellFormed z).refusal c hnamed hinvalid)⟩
    · obtain ⟨id, hid⟩ := ih (reachable_enterZone hf y) hz
      exact ⟨id, List.mem_append_right _ hid⟩

theorem refusal_warned {z : ZonePlan} (hz : z ∈ file.zones) {c : String}
    (hnamed : z.coordinator = some c) (hinvalid : isAddress (Text.trim c) = false)
    (info : Option ServiceInfo) :
    ∃ id, ⟨.warn, .diagnostic ⟨.zoneCoordinator id, .invalidAddress (Text.trim c)⟩⟩ ∈
      (prepare file info).1 := by
  have hload : NodeForm.Reachable file.draft file.selection 0 (fresh file) := .load
  obtain ⟨id, hrefused⟩ := refusal_mem_enterZones hload hz hnamed hinvalid
  have hsome : file.zones.isEmpty = false := by simpa using List.ne_nil_of_mem hz
  have hreplaced : (replaceZones file.zones (fresh file)).1 =
      (enterZones file.zones (fresh file)).1 := by
    simp only [replaceZones, hsome, Bool.false_eq_true, if_false]
  rw [← hreplaced] at hrefused
  exact ⟨id, warned_of_mem_filled
    (List.mem_append_left _ (List.mem_append_left _ hrefused))⟩

def accepted (before : List ZonePlan) (z : ZonePlan) : List String :=
  entitled ((replays [] before).flatMap (·.servers)) z.servers

/-- A zone of the file, behind others, with a coordinator that is not among the servers that the
file lists for it. -/
structure NamesOutside (file : WizardFile) (before : List ZonePlan) (z : ZonePlan) (c : String) :
    Prop where
  placed : ∃ after, file.zones = before ++ z :: after
  named : z.coordinator = some c
  outside : Text.trim c ∉ z.servers.map Text.trim

namespace NamesOutside
variable {before : List ZonePlan} {z : ZonePlan} {c : String}

theorem mem (h : NamesOutside file before z c) : z ∈ file.zones := by
  obtain ⟨after, hzones⟩ := h.placed
  rw [hzones]
  exact List.mem_append_right _ List.mem_cons_self

theorem replayed (h : NamesOutside file before z c) :
    (replays [] file.zones)[before.length]? =
      some ⟨z.name, accepted before z, coordinating (some c) (accepted before z)⟩ := by
  obtain ⟨after, hzones⟩ := h.placed
  rw [hzones, replays_append, List.getElem?_append_right (length_replays _ _).le, length_replays,
    Nat.sub_self, replays, List.getElem?_cons_zero, replay, h.named, List.nil_append]
  rfl

/-- The file is prepared only if the name is refused, and the only server takes its place. -/
theorem of_prepared (h : NamesOutside file before z c) (hprepared : (prepare file info).2 = .ok w) :
    isAddress (Text.trim c) = false ∧ ∃ s, accepted before z = [s] ∧
      w.draft.components.database.zones[before.length]? = some ⟨z.name, [s], some s⟩ := by
  obtain ⟨hdraft, hconsistent⟩ := zones_prepared hprepared (List.ne_nil_of_mem h.mem)
  obtain ⟨s, hs, hcoordinator⟩ := hconsistent.coordinators _ (List.mem_of_getElem? h.replayed)
  dsimp only at hs hcoordinator
  cases haddress : isAddress (Text.trim c) with
  | true =>
    -- The address is stored, so a valid zone would have it among its servers.
    rw [coordinating_of_address haddress, Option.some.injEq] at hcoordinator
    exact absurd (mem_entitled.1 (hcoordinator ▸ hs)).1 h.outside
  | false =>
    rw [coordinating_of_not_address haddress] at hcoordinator
    have hsingle := single?_eq_some_iff.1 hcoordinator
    refine ⟨rfl, s, hsingle, ?_⟩
    rw [hdraft, h.replayed, coordinating_of_not_address haddress, hcoordinator, hsingle]

end NamesOutside

/-- A coordinator from outside its zone keeps a file from being prepared, unless it is no address
and the zone has one server. What is no address is refused with a warning that names it, and if the
file is prepared then the only server of the zone is its coordinator. -/
theorem outside_coordinator_rejected {before : List ZonePlan} {z : ZonePlan} {c : String}
    (h : NamesOutside file before z c) (info : Option ServiceInfo) :
    (isAddress (Text.trim c) = true ∨ (accepted before z).length ≠ 1 →
      ∃ n, (prepare file info).2 = .error (.invalidFields n)) ∧
      (isAddress (Text.trim c) = false →
        ∃ id, ⟨.warn, .diagnostic ⟨.zoneCoordinator id, .invalidAddress (Text.trim c)⟩⟩ ∈
          (prepare file info).1) ∧
      ∀ w, (prepare file info).2 = .ok w → ∃ s, accepted before z = [s] ∧
        w.draft.components.database.zones[before.length]? = some ⟨z.name, [s], some s⟩ := by
  refine ⟨?_, fun hinvalid => refusal_warned h.mem h.named hinvalid info,
    fun w hprepared => (h.of_prepared hprepared).2⟩
  intro hkind
  obtain ⟨w, hprepared⟩ | hfailed := prepare_cases file info
  · obtain ⟨hinvalid, s, hsingle, -⟩ := h.of_prepared hprepared
    obtain haddress | hmany := hkind
    · cases hinvalid.symm.trans haddress
    · exact absurd (congrArg List.length hsingle) hmany
  · exact hfailed

def borrowingFile : WizardFile where
  deployment := { appName := "demo", auth := { user := "admin" } }
  zones := [⟨"zone1", ["10.0.0.1"], none⟩, ⟨"zone2", ["10.0.0.2"], some "10.0.0.1"⟩]

def nowhereFile : WizardFile where
  deployment := { appName := "demo", auth := { user := "admin" } }
  zones := [⟨"zone1", ["10.0.0.1"], some "nowhere"⟩]

theorem outside_coordinators_of_two_files :
    (∃ n, (prepare borrowingFile none).2 = .error (.invalidFields n)) ∧
      ∃ id, ⟨.warn, .diagnostic ⟨.zoneCoordinator id, .invalidAddress "nowhere"⟩⟩ ∈
        (prepare nowhereFile none).1 := by
  have hborrowing : NamesOutside borrowingFile [⟨"zone1", ["10.0.0.1"], none⟩]
      ⟨"zone2", ["10.0.0.2"], some "10.0.0.1"⟩ "10.0.0.1" :=
    ⟨⟨[], rfl⟩, rfl, by decide +kernel⟩
  have hnowhere : NamesOutside nowhereFile [] ⟨"zone1", ["10.0.0.1"], some "nowhere"⟩ "nowhere" :=
    ⟨⟨[], rfl⟩, rfl, by decide +kernel⟩
  have htrim : Text.trim "nowhere" = "nowhere" := by decide +kernel
  have hrefused := (outside_coordinator_rejected hnowhere none).2.1 (by decide +kernel)
  rw [htrim] at hrefused
  exact ⟨(outside_coordinator_rejected hborrowing none).1 (Or.inl (by decide +kernel)), hrefused⟩

theorem outside_coordinator_prepared :
    ¬∀ (file : WizardFile) (info : Option ServiceInfo) (z : ZonePlan) (c : String),
      z ∈ file.zones → z.coordinator = some c → Text.trim c ∉ z.servers.map Text.trim →
        ∃ e, (prepare file info).2 = .error e := by
  intro h
  obtain ⟨e, he⟩ := h nowhereFile none ⟨"zone1", ["10.0.0.1"], some "nowhere"⟩ "nowhere"
    (by decide) rfl (by decide +kernel)
  have hvalid : (filled nowhereFile none).2.validate = [] := by decide +kernel
  have hprepared := prepared_iff.2 ⟨hvalid, rfl⟩
  cases hprepared.symm.trans he

end DeployWizard.Command
