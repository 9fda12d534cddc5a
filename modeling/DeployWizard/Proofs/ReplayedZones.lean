import DeployWizard.Proofs.FileReplay
import DeployWizard.Proofs.PlacedZones
import DeployWizard.Proofs.PoolFollowing

set_option autoImplicit false

namespace DeployWizard.Command

/-- The addresses that a zone has from the entries of a file when others are held already: those
that are well-formed and free, each once, in the order of entry. -/
def entitled (held entries : List String) : List String :=
  ((entries.map Text.trim).filter fun s => isAddress s && s ∉ held).eraseDups

def single? : List String → Option String
  | [s] => some s
  | _ => none

def coordinating (named : Option String) (servers : List String) : Option String :=
  ((named.map Text.trim).filter isAddress).or (single? servers)

/-- What becomes of a zone of the file when addresses are held already. -/
def replay (held : List String) (z : ZonePlan) : ZonePlan :=
  ⟨z.name, entitled held z.servers, coordinating z.coordinator (entitled held z.servers)⟩

def replays : List String → List ZonePlan → List ZonePlan
  | _, [] => []
  | held, z :: zs => replay held z :: replays (held ++ entitled held z.servers) zs

theorem replays_append (held : List String) (xs ys : List ZonePlan) :
    replays held (xs ++ ys) =
      replays held xs ++ replays (held ++ (replays held xs).flatMap (·.servers)) ys := by
  induction xs generalizing held with
  | nil => simp [replays]
  | cons x xs ih =>
    simp only [List.cons_append, replays, ih, List.flatMap_cons, List.append_assoc]
    rfl

theorem replays_ne_nil {zones : List ZonePlan} (h : zones ≠ []) (held : List String) :
    replays held zones ≠ [] := by
  cases zones with
  | nil => exact absurd rfl h
  | cons z zs => exact List.cons_ne_nil _ _

theorem accept_eq_entitled (taken entries : List String) :
    (Topology.accept taken entries).1 = entitled taken entries := by
  fun_induction Topology.accept taken entries with
  | case1 => rfl
  | case2 taken entry entries address hinvalid stored issues hrec ih =>
    have hinvalid : isAddress (Text.trim entry) = false := by simpa using hinvalid
    simp only [hrec] at ih
    simp [ih, entitled, hinvalid]
  | case3 taken entry entries address _ htaken stored issues hrec ih =>
    have htaken : Text.trim entry ∈ taken := htaken
    simp only [hrec] at ih
    simp [ih, entitled, htaken]
  | case4 taken entry entries address hvalid hfree stored issues hrec ih =>
    have hvalid : isAddress (Text.trim entry) = true := by simpa using hvalid
    have hfree : Text.trim entry ∉ taken := hfree
    simp only [hrec] at ih
    -- What the entry takes is not free for the entries after it.
    have hrest : (entries.map Text.trim).filter
        (fun s => isAddress s && s ∉ Text.trim entry :: taken) =
          ((entries.map Text.trim).filter fun s => isAddress s && s ∉ taken).filter
            (fun s => !s == Text.trim entry) := by
      rw [List.filter_filter]
      apply List.filter_congr
      intro s _
      by_cases hs : s = Text.trim entry <;> simp [hs]
    rw [ih, entitled, entitled, hrest, List.map_cons,
      List.filter_cons_of_pos (by simp [hvalid, hfree]), List.eraseDups_cons]

def entered (f : NodeForm) (z : ZonePlan) : Zone where
  id := .minted f.topology.nextId
  name := z.name
  servers := entitled f.pool z.servers
  coordinator := coordinating z.coordinator (entitled f.pool z.servers)

theorem plan_entered (f : NodeForm) (z : ZonePlan) : (entered f z).plan = replay f.pool z := rfl

structure Assigned (z : ZonePlan) (f : NodeForm) (g : NodeForm) : Prop where
  placed : g.topology.Placed f.topology.zones
    { id := .minted f.topology.nextId
      name := z.name
      servers := entitled f.pool z.servers
      coordinator := single? (entitled f.pool z.servers) } []
  proxy : g.proxyServers = NodeList.following f.proxyServers f.pool g.pool
  console : g.consoleServers = NodeList.following f.consoleServers f.pool g.pool

theorem assigned_added {f : NodeForm} (hf : f.WellFormed) (z : ZonePlan) :
    ∃ reports g, (f.addNamed z.name).2.setServers (.minted f.topology.nextId) z.servers =
      (.ok reports, g) ∧ Assigned z f g := by
  have hadded : (f.addNamed z.name).2.WellFormed :=
    ⟨hf.identified.addNamed f.topology.nameIndex z.name, hf.console⟩
  have hpool : (f.addNamed z.name).2.pool = f.pool := by
    simp [NodeForm.pool, NodeForm.addNamed, Topology.addNamed, Topology.allServers]
  have hplaced := Topology.placed_addNamed hf.identified z.name
  have htopology := hplaced.setServers_eq z.servers
  rw [List.append_nil] at htopology
  obtain ⟨reports, g, hset, hzones⟩ : ∃ reports g,
      (f.addNamed z.name).2.setServers (.minted f.topology.nextId) z.servers = (.ok reports, g) ∧
        g.topology.zones = f.topology.zones ++
          [Topology.assigned (Topology.accept f.pool z.servers).1
            { id := .minted f.topology.nextId, name := z.name }] := by
    unfold NodeForm.setServers
    split
    next issue t hedit => cases htopology.symm.trans hedit
    next edit t hedit =>
      refine ⟨_, _, rfl, ?_⟩
      obtain ⟨-, rfl⟩ := Prod.mk.inj (htopology.symm.trans hedit)
      rfl
  have hfollows := NodeForm.setServers_follows hadded hset
  refine ⟨reports, g, hset, ⟨?_, hplaced.others⟩, ?_, ?_⟩
  · rw [hzones, accept_eq_entitled]
    rfl
  · rw [hfollows.proxy, hpool]
    rfl
  · rw [hfollows.console, hpool]
    rfl

theorem coordinating_of_address {c : String} (h : isAddress (Text.trim c) = true)
    (servers : List String) : coordinating (some c) servers = some (Text.trim c) := by
  simp [coordinating, Option.filter, h]

theorem coordinating_of_not_address {c : String} (h : isAddress (Text.trim c) = false)
    (servers : List String) : coordinating (some c) servers = single? servers := by
  simp [coordinating, Option.filter, h]

theorem Assigned.choose {z : ZonePlan} {f g : NodeForm} (h : Assigned z f g) {c : String}
    (hnamed : z.coordinator = some c) :
    ∃ result t, g.setCoordinator (.minted f.topology.nextId) c =
        (result, { g with topology := t }) ∧
      t.zones = f.topology.zones ++ [entered f z] ∧
      (isAddress (Text.trim c) = false → result = .error (.invalidAddress (Text.trim c))) := by
  have hchoose : g.topology.setCoordinator (.minted f.topology.nextId) c = _ :=
    h.placed.setCoordinator_eq c
  refine ⟨(g.topology.setCoordinator (.minted f.topology.nextId) c).1,
    (g.topology.setCoordinator (.minted f.topology.nextId) c).2, rfl, ?_, ?_⟩
  · rw [hchoose]
    cases haddress : isAddress (Text.trim c) with
    | false =>
      simp only [Bool.false_eq_true, if_false, h.placed.zones, entered, hnamed,
        coordinating_of_not_address haddress]
    | true =>
      simp only [if_true, entered, hnamed, coordinating_of_address haddress]
  · intro hinvalid
    rw [hchoose, hinvalid]
    rfl

structure Enters (z : ZonePlan) (f : NodeForm) (reports : List Diagnostic) (g : NodeForm) :
    Prop where
  zones : g.topology.zones = f.topology.zones ++ [entered f z]
  proxy : g.proxyServers = NodeList.following f.proxyServers f.pool g.pool
  console : g.consoleServers = NodeList.following f.consoleServers f.pool g.pool
  refusal : ∀ c, z.coordinator = some c → isAddress (Text.trim c) = false →
    ⟨.zoneCoordinator (entered f z).id, .invalidAddress (Text.trim c)⟩ ∈ reports

theorem enterZone_enters {f : NodeForm} (hf : f.WellFormed) (z : ZonePlan) :
    Enters z f (enterZone z f).1 (enterZone z f).2 := by
  obtain ⟨reports, g, hset, hassigned⟩ := assigned_added hf z
  have hadd : f.addNamed z.name = (.minted f.topology.nextId, (f.addNamed z.name).2) := rfl
  unfold enterZone
  rw [hadd]
  simp only [hset]
  cases hnamed : z.coordinator with
  | none =>
    refine ⟨?_, hassigned.proxy, hassigned.console, ?_⟩
    · rw [hassigned.placed.zones, entered, hnamed]
      rfl
    · intro c hc
      cases hnamed.symm.trans hc
  | some c =>
    obtain ⟨result, t, hchoose, hzones, hrefused⟩ := hassigned.choose hnamed
    -- Naming a coordinator changes no server, so the node lists still follow the pool.
    have hpool : g.pool = ({ g with topology := t } : NodeForm).pool := by
      simp only [NodeForm.pool, Topology.allServers, hzones, hassigned.placed.zones,
        List.flatMap_append]
      rfl
    have hproxy := hassigned.proxy
    have hconsole := hassigned.console
    rw [hpool] at hproxy hconsole
    simp only [hchoose]
    cases result with
    | ok u =>
      refine ⟨hzones, hproxy, hconsole, ?_⟩
      intro c' hc' hinvalid
      cases hnamed.symm.trans hc'
      cases hrefused hinvalid
    | error issue =>
      refine ⟨hzones, hproxy, hconsole, ?_⟩
      intro c' hc' hinvalid
      cases hnamed.symm.trans hc'
      cases hrefused hinvalid
      exact List.mem_append_right _ (List.mem_singleton_self _)

theorem following_head? (before more : List String) :
    NodeList.following before.head?.toList before (before ++ more) =
      (before ++ more).head?.toList := by
  cases before with
  | nil => rfl
  | cons first rest => simp [NodeList.following]

/-- The form while zones are entered behind others that hold nothing. -/
structure Replaying (blank behind : List Zone) (f : NodeForm) : Prop where
  zones : f.topology.zones = blank ++ behind
  blank : ∀ z ∈ blank, z.servers = []
  proxy : f.proxyServers = f.pool.head?.toList
  console : f.consoleServers = f.pool.head?.toList

namespace Replaying
variable {blank behind : List Zone} {f : NodeForm}

theorem pool_eq (h : Replaying blank behind f) :
    f.pool = (behind.map Zone.plan).flatMap (·.servers) := by
  have hnone : blank.flatMap (·.servers) = [] := List.flatMap_eq_nil_iff.2 h.blank
  rw [NodeForm.pool, Topology.allServers, h.zones, List.flatMap_append, hnone, List.nil_append,
    List.flatMap_map]
  rfl

theorem enterZone (h : Replaying blank behind f) (hf : f.WellFormed) (z : ZonePlan) :
    Replaying blank (behind ++ [entered f z]) (enterZone z f).2 := by
  have henters := enterZone_enters hf z
  have hpool : (Command.enterZone z f).2.pool = f.pool ++ entitled f.pool z.servers := by
    simp only [NodeForm.pool, Topology.allServers, henters.zones, List.flatMap_append,
      List.flatMap_singleton]
    rfl
  refine ⟨?_, h.blank, ?_, ?_⟩
  · rw [henters.zones, h.zones, List.append_assoc]
  · rw [henters.proxy, h.proxy, hpool, following_head?]
  · rw [henters.console, h.console, hpool, following_head?]

theorem enterZones {d : Deployment} {chosen : Selection} {firstId : Nat}
    (h : Replaying blank behind f) (hf : NodeForm.Reachable d chosen firstId f)
    (zones : List ZonePlan) :
    ∃ more, more.map Zone.plan = replays f.pool zones ∧
      Replaying blank (behind ++ more) (enterZones zones f).2 := by
  induction zones generalizing behind f with
  | nil => exact ⟨[], rfl, by rwa [List.append_nil]⟩
  | cons z zs ih =>
    have hone := h.enterZone hf.wellFormed z
    obtain ⟨more, hplans, hmore⟩ := ih hone (reachable_enterZone hf z)
    -- The zones that are left find the pool with what this one was entitled to at its end.
    have hpool : (Command.enterZone z f).2.pool = f.pool ++ entitled f.pool z.servers := by
      rw [hone.pool_eq, h.pool_eq]
      simp [plan_entered, replay, h.pool_eq]
    refine ⟨entered f z :: more, ?_, ?_⟩
    · rw [List.map_cons, hplans, hpool]
      rfl
    · rw [List.append_cons]
      exact hmore

theorem removeConfirmed {z : Zone} (h : Replaying (z :: blank) behind f) (hf : f.WellFormed)
    (hsome : behind ≠ []) : Replaying blank behind (f.removeConfirmed z.id).2 := by
  have hplaced : f.topology.Placed [] z (blank ++ behind) := hf.identified.placed h.zones
  have hremoved := hplaced.removeConfirmed_eq (by simp [hsome])
  obtain ⟨reports, g, hform, hzones⟩ : ∃ reports g,
      f.removeConfirmed z.id = (.ok reports, g) ∧ g.topology.zones = blank ++ behind := by
    simp only [NodeForm.removeConfirmed, hremoved, NodeForm.afterRemoval]
    exact ⟨_, _, rfl, rfl⟩
  have hfollows := NodeForm.afterRemoval_follows hf
    (Topology.apply_effect (e := .removeConfirmed z.id) rfl) hform
  have hpool : f.pool = g.pool := by
    simp [NodeForm.pool, Topology.allServers, hzones, h.zones, h.blank z]
  have hkept := following_head? f.pool []
  rw [List.append_nil] at hkept
  rw [hform]
  refine ⟨hzones, fun y hy => h.blank y (List.mem_cons_of_mem _ hy), ?_, ?_⟩
  · rw [hfollows.proxy, h.proxy, ← hpool, hkept]
  · rw [hfollows.console, h.console, ← hpool, hkept]

theorem removals {d : Deployment} {chosen : Selection} {firstId : Nat}
    (h : Replaying blank behind f) (hf : NodeForm.Reachable d chosen firstId f)
    (hsome : behind ≠ []) :
    Replaying [] behind
      ((blank.map (·.id)).foldl (fun f id => (f.removeConfirmed id).2) f) := by
  induction blank generalizing f with
  | nil => exact h
  | cons z zs ih =>
    exact ih (h.removeConfirmed hf.wellFormed hsome) (hf.step (e := .removeConfirmed z.id) rfl)

end Replaying

/-- The zones of the file take the place of zones that hold nothing. -/
theorem replaceZones_replaying {d : Deployment} {chosen : Selection} {firstId : Nat} {f : NodeForm}
    (hf : NodeForm.Reachable d chosen firstId f) (h : Replaying f.topology.zones [] f)
    {zones : List ZonePlan} (hzones : zones ≠ []) :
    ∃ behind, behind.map Zone.plan = replays [] zones ∧
      Replaying [] behind (replaceZones zones f).2 ∧ ∀ z ∈ behind, z.id ∉ f.topology.ids := by
  obtain ⟨behind, hplans, hentered⟩ := h.enterZones hf zones
  rw [h.pool_eq, List.map_nil, List.flatMap_nil] at hplans
  rw [List.nil_append] at hentered
  have hsome : behind ≠ [] := by
    rintro rfl
    exact replays_ne_nil hzones [] hplans.symm
  have hreached := reachable_enterZones hf zones
  refine ⟨behind, hplans, ?_, ?_⟩
  · have hnonempty : zones.isEmpty = false := by simpa using hzones
    simp only [replaceZones, hnonempty, Bool.false_eq_true, if_false]
    exact hentered.removals hreached hsome
  · -- Before the removals the form holds both, under distinct identities.
    intro z hz hid
    have hids := hreached.wellFormed.identified.distinct
    rw [Topology.ids, hentered.zones, List.map_append, List.nodup_append'] at hids
    exact hids.2.2 hid (List.mem_map_of_mem hz)

def fresh (file : WizardFile) : NodeForm :=
  NodeForm.ofDeployment file.draft file.selection 0

theorem replaying_fresh (file : WizardFile) :
    Replaying (fresh file).topology.zones [] (fresh file) := by
  have hpool : (fresh file).pool = [] := rfl
  have hblank : ∀ z ∈ (Topology.fresh 0).zones, z.servers = [] :=
    fun z hz => (Topology.blank_of_mem_fresh hz).1
  refine ⟨(List.append_nil _).symm, hblank, ?_, ?_⟩
  · rw [hpool]
    simp only [fresh, NodeForm.ofDeployment, NodeForm.follow, WizardFile.draft]
    cases file.proxy <;> rfl
  · rw [hpool]
    simp only [fresh, NodeForm.ofDeployment, NodeForm.follow, WizardFile.draft]
    cases file.console <;> rfl

theorem enterNodes_eq (file : WizardFile) (f : NodeForm) :
    (enterNodes file f).2 =
      let g := (replaceZones file.zones f).2
      { g with
        proxyServers :=
          match listedNodes file.proxy with
          | some servers => (f.setProxyServers servers).2.proxyServers
          | none => g.proxyServers
        consoleServers :=
          match listedNodes file.console with
          | some servers => (f.setConsoleServers servers).2.consoleServers
          | none => g.consoleServers } := by
  simp only [enterNodes]
  cases listedNodes file.proxy <;> cases listedNodes file.console <;> rfl

structure SameNodes (f g : NodeForm) : Prop where
  topology : g.topology = f.topology
  proxy : g.proxyServers = f.proxyServers
  console : g.consoleServers = f.consoleServers

theorem SameNodes.trans {f g h : NodeForm} (hfg : SameNodes f g) (hgh : SameNodes g h) :
    SameNodes f h :=
  ⟨hgh.topology.trans hfg.topology, hgh.proxy.trans hfg.proxy, hgh.console.trans hfg.console⟩

theorem sameNodes_setUser (f : NodeForm) (entry : String) : SameNodes f (f.setUser entry) := by
  unfold NodeForm.setUser
  exact ⟨rfl, rfl, rfl⟩

theorem sameNodes_applyServiceInfo (f : NodeForm) (info : ServiceInfo) :
    SameNodes f (f.applyServiceInfo info) := by
  unfold NodeForm.applyServiceInfo
  split
  next => exact sameNodes_setUser f _
  next => exact ⟨rfl, rfl, rfl⟩

theorem enterLogin_sameNodes (s : DeploymentSettings) (info : Option ServiceInfo) (f : NodeForm) :
    SameNodes f (enterLogin s info f) := by
  simp only [enterLogin]
  generalize hg : (if s.auth.user = "" then _ else _) = g
  have huser : SameNodes f g := by
    rw [← hg]
    split
    next =>
      cases info with
      | none => exact ⟨rfl, rfl, rfl⟩
      | some info => exact sameNodes_applyServiceInfo f info
    next => exact sameNodes_setUser f _
  refine huser.trans ?_
  cases s.homePath <;> exact ⟨rfl, rfl, rfl⟩

/-- What the zones and nodes of a form are after a file was replayed on a fresh one. -/
structure Replayed (file : WizardFile) (start f : NodeForm) : Prop where
  zones : f.topology.plans = replays [] file.zones
  replaced : ∀ z ∈ f.topology.zones, z.id ∉ start.topology.ids
  proxy : f.proxyServers =
    match listedNodes file.proxy with
    | some servers => (start.setProxyServers servers).2.proxyServers
    | none => f.pool.head?.toList
  console : f.consoleServers =
    match listedNodes file.console with
    | some servers => (start.setConsoleServers servers).2.consoleServers
    | none => f.pool.head?.toList

theorem Replayed.of_sameNodes {file : WizardFile} {start f g : NodeForm}
    (h : Replayed file start f) (hsame : SameNodes f g) : Replayed file start g := by
  have hpool : g.pool = f.pool := congrArg Topology.allServers hsame.topology
  constructor
  case zones =>
    rw [hsame.topology]
    exact h.zones
  case replaced =>
    rw [hsame.topology]
    exact h.replaced
  case proxy =>
    rw [hsame.proxy, hpool]
    exact h.proxy
  case console =>
    rw [hsame.console, hpool]
    exact h.console

theorem replayed_enterNodes {file : WizardFile} (hzones : file.zones ≠ []) :
    Replayed file (fresh file) (enterNodes file (fresh file)).2 := by
  have hload : NodeForm.Reachable file.draft file.selection 0 (fresh file) := .load
  obtain ⟨behind, hplans, hreplaying, hnew⟩ :=
    replaceZones_replaying hload (replaying_fresh file) hzones
  have hbehind := hreplaying.zones
  rw [List.nil_append] at hbehind
  rw [enterNodes_eq]
  constructor
  case zones =>
    rw [← hplans, ← hbehind]
    rfl
  case replaced =>
    intro z hz
    exact hnew z (hbehind ▸ hz)
  case proxy =>
    dsimp only
    rw [hreplaying.proxy]
    rfl
  case console =>
    dsimp only
    rw [hreplaying.console]
    rfl

/-- A file with zones is replayed on the fresh form of a wizard: its zones take the place of the
default ones, with the addresses and coordinators that are theirs, and a node list has the first
address of the pool if the file lists no nodes for it. -/
theorem fresh_form_replayed {file : WizardFile} (hzones : file.zones ≠ [])
    (info : Option ServiceInfo) :
    ∃ start, (Wizard.start file.draft file.selection).next.2.form = some start ∧
      start.topology = Topology.fresh 0 ∧ Replayed file start (fillNodeForm file info start).2 :=
  ⟨fresh file, rfl, rfl, (replayed_enterNodes hzones).of_sameNodes (enterLogin_sameNodes _ _ _)⟩

/-- Three zones, two with the name of a default zone. Addresses have blanks, are no addresses, are
repeated, and are asked for by two zones; coordinators are listed, malformed, and foreign. -/
def crowdedFile : WizardFile where
  zones :=
    [⟨"zone1", [" 10.0.0.1", "nowhere", "10.0.0.2", "10.0.0.1"], some " 10.0.0.2 "⟩,
      ⟨"zone2", ["10.0.0.2", "10.0.0.3"], some "nowhere"⟩, ⟨"zone2", [], some "10.0.0.9"⟩]
  proxy := some { servers := ["10.9.9.9 "] }
  console := some {}

theorem crowdedFile_replayed :
    crowdedFile.zones ≠ [] ∧
      (∃ start, (Wizard.start crowdedFile.draft crowdedFile.selection).next.2.form = some start ∧
        start.topology = Topology.fresh 0 ∧
        Replayed crowdedFile start (fillNodeForm crowdedFile none start).2) ∧
      replays [] crowdedFile.zones =
        [⟨"zone1", ["10.0.0.1", "10.0.0.2"], some "10.0.0.2"⟩,
          ⟨"zone2", ["10.0.0.3"], some "10.0.0.3"⟩, ⟨"zone2", [], some "10.0.0.9"⟩] ∧
      (filled crowdedFile none).2.proxyServers = ["10.9.9.9"] ∧
      (filled crowdedFile none).2.consoleServers = ["10.0.0.1"] :=
  ⟨by decide, fresh_form_replayed (by decide) none, by decide +kernel, by decide +kernel,
    by decide +kernel⟩

end DeployWizard.Command
