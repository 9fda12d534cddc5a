import DeployWizard.Proofs.FileReplay
import DeployWizard.Proofs.Reloading

set_option autoImplicit false

namespace DeployWizard

structure CleanAddress (s : String) : Prop where
  trimmed : Text.trim s = s
  address : isAddress s = true

def Deployment.formNodes (d : Deployment) : List String :=
  d.components.database.zones.flatMap (fun p => p.servers ++ p.coordinator.toList) ++
    d.components.proxy.toList.flatMap (·.servers) ++
    d.components.agent.toList.flatMap (·.servers) ++
    d.components.console.toList.flatMap (·.servers)

def Deployment.nodes (d : Deployment) : List String :=
  d.formNodes ++ d.components.configServer.toList.flatMap (·.servers)

namespace NodeForm
variable {f g : NodeForm} {d : Deployment} {chosen : Selection} {firstId : Nat}

structure TrimmedLists (f : NodeForm) : Prop where
  proxy : ∀ v ∈ f.proxyServers, Text.trim v = v
  console : ∀ v ∈ f.consoleServers, Text.trim v = v

theorem TrimmedLists.follow (hf : f.TrimmedLists) (hzones : ∀ z ∈ f.topology.zones, z.Tidy)
    (removed : List String) : (f.follow removed).2.TrimmedLists := by
  have hpool : ∀ v ∈ f.topology.allServers, Text.trim v = v := by
    intro v hv
    obtain ⟨z, hz, hvz⟩ := List.mem_flatMap.1 hv
    exact (hzones z hz).trimmed v hvz
  constructor
  · intro v hv
    obtain hv | hv := NodeList.mem_of_mem_reconcile hv
    · exact hf.proxy v hv
    · exact hpool v hv
  · intro v hv
    obtain hv | hv := NodeList.mem_of_mem_reconcile (NodeList.mem_of_mem_collapse hv)
    · exact hf.console v hv
    · exact hpool v hv

theorem TrimmedLists.of_effect (hf : f.TrimmedLists) (htidy : f.Tidy) (eff : Effect f g) :
    g.TrimmedLists := by
  cases eff with
  | zones e r t h => exact ⟨hf.proxy, hf.console⟩
  | followed e r t removed h =>
    have hlists : ({ f with topology := t } : NodeForm).TrimmedLists := ⟨hf.proxy, hf.console⟩
    exact hlists.follow (Topology.tidy_of_effect htidy.zones (Topology.apply_effect h)) removed
  | proxy values htrim => exact ⟨htrim, hf.console⟩
  | console values _ htrim => exact ⟨hf.proxy, htrim⟩
  | login auth homePath _ => exact ⟨hf.proxy, hf.console⟩

theorem Reachable.trimmedLists (hproxy : ∀ p ∈ d.components.proxy, p.servers = [])
    (hconsole : ∀ c ∈ d.components.console, c.servers = [])
    (hf : Reachable d chosen firstId f) : f.TrimmedLists := by
  induction hf with
  | load =>
    refine TrimmedLists.follow ⟨?_, ?_⟩ (Topology.tidy_ofPlans _ firstId) []
    · cases hp : d.components.proxy with
      | none => simp
      | some p => simp [hproxy p hp]
    · cases hc : d.components.console with
      | none => simp
      | some c => simp [hconsole c hc]
  | step hf h ih => exact ih.of_effect hf.tidy (apply_effect h)

theorem clean_zones (hf : f.Tidy) (hzones : ConsistentPlans f.topology.plans) :
    ∀ p ∈ f.topology.plans, ∀ s ∈ p.servers, CleanAddress s := by
  intro p hp s hs
  obtain ⟨z, hz, rfl⟩ := List.mem_map.1 hp
  exact ⟨(hf.zones z hz).trimmed s hs, hzones.addresses _ hp s hs⟩

/-- A valid form with trimmed lists writes clean addresses only. -/
theorem clean_formNodes (hf : Reachable d chosen firstId f) (hlists : f.TrimmedLists)
    (hvalid : f.validate = []) : ∀ s ∈ (f.writeInto d).formNodes, CleanAddress s := by
  have hsub := submittable_writeInto hf.wellFormed hf.appName_eq hvalid
  have hclean := clean_zones hf.tidy hsub.zones
  intro s hs
  simp only [Deployment.formNodes, List.mem_append, List.mem_flatMap, Option.mem_toList] at hs
  obtain ((⟨p, hp, hs⟩ | ⟨p, hp, hs⟩) | ⟨a, ha, hs⟩) | ⟨c, hc, hs⟩ := hs
  · obtain hs | hs := hs
    · exact hclean p hp s hs
    · obtain ⟨c, hc, hpc⟩ := hsub.zones.coordinators p hp
      rw [hpc, Option.some.injEq] at hs
      exact hclean p hp s (hs ▸ hc)
  · have haddress := (hsub.proxyServers p hp).2 s hs
    rw [(written_proxy hp).2] at hs
    exact ⟨hlists.proxy s hs, haddress⟩
  · -- The agent runs on the servers of the zones.
    rw [hsub.agentServers a ha] at hs
    obtain ⟨p, hp, hs⟩ := List.mem_flatMap.1 hs
    exact hclean p hp s hs
  · obtain ⟨node, hnode, haddress⟩ := hsub.consoleServers c hc
    rw [hnode, List.mem_singleton] at hs
    subst hs
    refine ⟨hlists.console s ?_, haddress⟩
    rw [← (written_console hc).2, hnode]
    exact List.mem_singleton_self s

end NodeForm

namespace Command
variable {file : WizardFile} {info : Option ServiceInfo} {log : List LogLine} {w : Wizard}

theorem trimmedLists_filled (file : WizardFile) (info : Option ServiceInfo) :
    (filled file info).2.TrimmedLists := by
  refine (reachable_filled file info).trimmedLists ?_ ?_
  · intro p hp
    obtain ⟨settings, -, rfl⟩ := Option.map_eq_some_iff.1 hp
    rfl
  · intro c hc
    obtain ⟨settings, -, rfl⟩ := Option.map_eq_some_iff.1 hc
    rfl

theorem mem_configServer_nodes (h : prepare file info = (log, .ok w)) {s : String} :
    s ∈ w.draft.components.configServer.toList.flatMap (·.servers) ↔
      file.selection.enabled .configServer = true ∧
        ∃ settings, file.configServer = some settings ∧ s ∈ settings.servers := by
  have hdraft : w.draft.components.configServer =
      if file.selection.enabled .configServer then file.draft.components.configServer
      else none := by
    obtain ⟨-, -, rfl⟩ := prepare_eq_ok_iff.1 h
    rw [← (reachable_filled file info).selection_eq]
    rfl
  rw [hdraft]
  cases file.selection.enabled .configServer with
  | false => simp
  | true => cases hsection : file.configServer <;> simp [WizardFile.draft, hsection]

/-- Every node address that the form enters comes out clean. The draft as a whole is clean exactly
if the file lists clean nodes for the config server or the config server is not chosen. -/
theorem prepared_nodes_clean_iff (h : prepare file info = (log, .ok w)) :
    (∀ s ∈ w.draft.formNodes, CleanAddress s) ∧
      ((∀ s ∈ w.draft.nodes, CleanAddress s) ↔
        (file.selection.enabled .configServer = true →
          ∀ settings, file.configServer = some settings →
            ∀ s ∈ settings.servers, CleanAddress s)) := by
  have hform : ∀ s ∈ w.draft.formNodes, CleanAddress s := by
    obtain ⟨hvalid, -, rfl⟩ := prepare_eq_ok_iff.1 h
    exact NodeForm.clean_formNodes (reachable_filled file info) (trimmedLists_filled file info)
      hvalid
  refine ⟨hform, ?_, ?_⟩
  · intro hall henabled settings hsection s hs
    refine hall s (List.mem_append_right _ ?_)
    exact (mem_configServer_nodes h).2 ⟨henabled, settings, hsection, hs⟩
  · intro hlisted s hs
    obtain hs | hs := List.mem_append.1 hs
    · exact hform s hs
    · obtain ⟨henabled, settings, hsection, hs⟩ := (mem_configServer_nodes h).1 hs
      exact hlisted henabled settings hsection s hs

/-- Entries with blanks, a typed proxy node, and a clean node for the config server. -/
theorem prepared_nodes_clean_of_listed :
    let file : WizardFile :=
      { deployment := { appName := "demo", components := [.proxy, .agent, .console, .configServer] }
        zones := [⟨"zone1", [" 10.0.0.1", "10.0.0.1"], none⟩, ⟨"zone2", ["10.0.0.2 "], none⟩]
        proxy := some { servers := [" 10.9.9.9 ", "10.0.0.2"] }
        configServer := some { servers := ["10.0.0.9"] } }
    let w : Wizard :=
      { step := .checkInfo
        draft :=
          { auth := some { user := "admin" }
            components :=
              { database :=
                  { appName := "demo"
                    zones := [⟨"zone1", ["10.0.0.1"], some "10.0.0.1"⟩,
                      ⟨"zone2", ["10.0.0.2"], some "10.0.0.2"⟩] }
                proxy := some { servers := ["10.9.9.9", "10.0.0.2"] }
                agent := some { servers := ["10.0.0.1", "10.0.0.2"] }
                console := some { servers := ["10.0.0.1"] }
                configServer := some { servers := ["10.0.0.9"] } }
            homePath := some "/home/admin/demo" }
        selection := file.selection
        errors := []
        form := none
        nextId := 5 }
    let log : List LogLine :=
      [⟨.warn, .diagnostic ⟨.zoneServers (.minted 3), .duplicateAddress "10.0.0.1"⟩⟩]
    prepare file (some { user := "admin" }) = (log, .ok w) ∧
      ∀ s ∈ w.draft.nodes, CleanAddress s := by
  intro file w log
  have h : prepare file (some { user := "admin" }) = (log, .ok w) := by decide +kernel
  refine ⟨h, (prepared_nodes_clean_iff h).2.2 ?_⟩
  rintro - _ ⟨⟩ s hs
  obtain rfl := List.mem_singleton.1 hs
  exact ⟨by decide +kernel, by decide +kernel⟩

/-- The nodes of the config server are not looked at: an accepted file submits them as they are. -/
theorem prepared_nodes_unclean :
    let file : WizardFile :=
      { deployment :=
          { appName := "demo", components := [.configServer], auth := { user := "admin" } }
        zones := [⟨"zone1", ["10.0.0.1"], none⟩]
        configServer := some { servers := ["nowhere"] } }
    ∃ w, prepare file none = ([], .ok w) ∧ "nowhere" ∈ w.draft.nodes ∧ ¬CleanAddress "nowhere" := by
  intro file
  let w : Wizard :=
    { step := .checkInfo
      draft := (filled file none).2.writeInto file.draft
      selection := file.selection
      errors := []
      form := none
      nextId := (filled file none).2.topology.nextId }
  have h : prepare file none = ([], .ok w) := by decide +kernel
  refine ⟨w, h, ?_, fun hclean => ?_⟩
  · refine List.mem_append_right _ ?_
    exact (mem_configServer_nodes h).2 ⟨by decide, _, rfl, List.mem_singleton_self _⟩
  · have hinvalid : isAddress "nowhere" = false := by decide +kernel
    exact Bool.noConfusion (hinvalid.symm.trans hclean.address)

end Command

end DeployWizard
