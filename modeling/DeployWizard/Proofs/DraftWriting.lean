import DeployWizard.NodeForm

set_option autoImplicit false

namespace DeployWizard

/-- How a section of a component is taken apart. -/
structure SectionParts (α : Type) where
  servers : α → List String
  settings : α → String × List (Option UInt16)
  blank : α
  ext : ∀ {x y : α}, servers x = servers y → settings x = settings y → x = y

namespace SectionParts
variable {α : Type}

/-- A section is there iff its component is chosen, with the given nodes and the settings that it
had before. -/
def Written (parts : SectionParts α) (chosen : Bool) (servers : List String)
    (before after : Option α) : Prop :=
  if chosen then
    ∃ s, after = some s ∧ parts.servers s = servers ∧
      parts.settings s = parts.settings (before.getD parts.blank)
  else after = none

variable {parts : SectionParts α} {chosen : Bool} {servers : List String}

theorem written_ite {before : Option α} {s : α} (hservers : parts.servers s = servers)
    (hsettings : parts.settings s = parts.settings (before.getD parts.blank)) :
    parts.Written chosen servers before (if chosen then some s else none) := by
  cases chosen
  · exact rfl
  · exact ⟨s, rfl, hservers, hsettings⟩

theorem Written.unique {before x y : Option α} (hx : parts.Written chosen servers before x)
    (hy : parts.Written chosen servers before y) : x = y := by
  cases chosen with
  | false => exact Eq.trans hx (Eq.symm hy)
  | true =>
    obtain ⟨s, rfl, hs, hssettings⟩ := hx
    obtain ⟨t, rfl, ht, htsettings⟩ := hy
    rw [parts.ext (hs.trans ht.symm) (hssettings.trans htsettings.symm)]

theorem Written.trans {earlier : Bool} {others : List String} {before between after : Option α}
    (hchosen : chosen = true → earlier = true)
    (hearlier : parts.Written earlier others before between)
    (hlater : parts.Written chosen servers between after) :
    parts.Written chosen servers before after := by
  cases chosen with
  | false => exact hlater
  | true =>
    rw [hchosen rfl] at hearlier
    obtain ⟨s, rfl, -, hkept⟩ := hearlier
    obtain ⟨t, rfl, hservers, hsettings⟩ := hlater
    exact ⟨t, rfl, hservers, hsettings.trans hkept⟩

end SectionParts

def Proxy.parts : SectionParts Proxy where
  servers p := p.servers
  settings p := (p.version, [p.listenPort, p.metricsPort])
  blank := {}
  ext {x y} hservers hsettings := by
    cases x
    cases y
    simp_all

def Agent.parts : SectionParts Agent where
  servers a := a.servers
  settings a := (a.version, [a.monitorPort, a.managerPort])
  blank := {}
  ext {x y} hservers hsettings := by
    cases x
    cases y
    simp_all

def Console.parts : SectionParts Console where
  servers c := c.servers
  settings c := (c.version, [c.port])
  blank := {}
  ext {x y} hservers hsettings := by
    cases x
    cases y
    simp_all

namespace NodeForm

/-- The draft `e` is the draft `d` after the form was written into it. -/
structure Writes (f : NodeForm) (d e : Deployment) : Prop where
  name : e.name = d.name
  version : e.components.database.version = d.components.database.version
  sqlPort : e.components.database.sqlPort = d.components.database.sqlPort
  rpcPort : e.components.database.rpcPort = d.components.database.rpcPort
  zones : e.components.database.zones = f.topology.plans
  proxy : Proxy.parts.Written (f.selection.enabled .proxy) f.proxyServers
    d.components.proxy e.components.proxy
  agent : Agent.parts.Written (f.selection.enabled .agent) (f.topology.zones.flatMap (·.servers))
    d.components.agent e.components.agent
  console : Console.parts.Written (f.selection.enabled .console) f.consoleServers
    d.components.console e.components.console
  configServer : e.components.configServer =
    if f.selection.enabled .configServer then d.components.configServer else none
  auth : e.auth = some f.auth
  homePath : e.homePath = f.homePath.map (· ++ "/" ++ f.appName)

theorem writes_writeInto (f : NodeForm) (d : Deployment) : Writes f d (f.writeInto d) where
  name := rfl
  version := rfl
  sqlPort := rfl
  rpcPort := rfl
  zones := rfl
  proxy := SectionParts.written_ite rfl rfl
  agent := SectionParts.written_ite rfl rfl
  console := SectionParts.written_ite rfl rfl
  configServer := rfl
  auth := rfl
  homePath := rfl

namespace Writes
variable {f g : NodeForm} {d e : Deployment}

theorem unique {e' : Deployment} (h : Writes f d e) (h' : Writes f d e') : e = e' := by
  obtain ⟨auth, ⟨⟨name, version, sqlPort, rpcPort, zones⟩, proxy, agent, console, configServer⟩,
    homePath⟩ := e
  obtain ⟨auth', ⟨⟨name', version', sqlPort', rpcPort', zones'⟩, proxy', agent', console',
    configServer'⟩, homePath'⟩ := e'
  obtain rfl : name = name' := h.name.trans h'.name.symm
  obtain rfl : version = version' := h.version.trans h'.version.symm
  obtain rfl : sqlPort = sqlPort' := h.sqlPort.trans h'.sqlPort.symm
  obtain rfl : rpcPort = rpcPort' := h.rpcPort.trans h'.rpcPort.symm
  obtain rfl : zones = zones' := h.zones.trans h'.zones.symm
  obtain rfl : proxy = proxy' := h.proxy.unique h'.proxy
  obtain rfl : agent = agent' := h.agent.unique h'.agent
  obtain rfl : console = console' := h.console.unique h'.console
  obtain rfl : configServer = configServer' := h.configServer.trans h'.configServer.symm
  obtain rfl : auth = auth' := h.auth.trans h'.auth.symm
  obtain rfl : homePath = homePath' := h.homePath.trans h'.homePath.symm
  rfl

theorem eq_writeInto_iff : Writes f d e ↔ e = f.writeInto d :=
  ⟨fun h => h.unique (writes_writeInto f d), fun h => h ▸ writes_writeInto f d⟩

/-- A form that chooses no component anew leaves nothing of the form that was written before it. -/
theorem trans {between : Deployment}
    (hchosen : ∀ k, f.selection.enabled k = true → g.selection.enabled k = true)
    (hg : Writes g d between) (hf : Writes f between e) : Writes f d e where
  name := hf.name.trans hg.name
  version := hf.version.trans hg.version
  sqlPort := hf.sqlPort.trans hg.sqlPort
  rpcPort := hf.rpcPort.trans hg.rpcPort
  zones := hf.zones
  proxy := SectionParts.Written.trans (hchosen .proxy) hg.proxy hf.proxy
  agent := SectionParts.Written.trans (hchosen .agent) hg.agent hf.agent
  console := SectionParts.Written.trans (hchosen .console) hg.console hf.console
  configServer := by
    rw [hf.configServer, hg.configServer]
    by_cases henabled : f.selection.enabled .configServer = true
    · simp [henabled, hchosen .configServer henabled]
    · simp [henabled]
  auth := hf.auth
  homePath := hf.homePath

end Writes

/-- Of two forms written one after the other only the later one counts. -/
theorem writeInto_writeInto_of_enabled {f g : NodeForm}
    (hchosen : ∀ k, f.selection.enabled k = true → g.selection.enabled k = true) (d : Deployment) :
    f.writeInto (g.writeInto d) = f.writeInto d :=
  Writes.eq_writeInto_iff.1
    (Writes.trans hchosen (writes_writeInto g d) (writes_writeInto f (g.writeInto d)))

theorem writeInto_writeInto (f : NodeForm) (d : Deployment) :
    f.writeInto (f.writeInto d) = f.writeInto d :=
  writeInto_writeInto_of_enabled (fun _ henabled => henabled) d

/-- Writing a form into any draft changes what the form owns and nothing else. What it owns depends
on the form alone, and writing it again changes nothing. -/
theorem write_changes_owned_only (f : NodeForm) (d : Deployment) :
    let written := f.writeInto d
    (∀ e, Writes f d e ↔ e = written) ∧
      (∀ other : Deployment,
        (f.writeInto other).components.database.zones = written.components.database.zones ∧
        (f.writeInto other).auth = written.auth ∧
        (f.writeInto other).homePath = written.homePath) ∧
      f.writeInto written = written := by
  intro written
  have hwritten : Writes f d written := writes_writeInto f d
  refine ⟨fun e => Writes.eq_writeInto_iff, fun other => ?_, writeInto_writeInto f d⟩
  have hother := writes_writeInto f other
  exact ⟨hother.zones.trans hwritten.zones.symm, hother.auth.trans hwritten.auth.symm,
    hother.homePath.trans hwritten.homePath.symm⟩

end NodeForm

end DeployWizard
