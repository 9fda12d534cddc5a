import Mathlib.Tactic.Common
import DeployWizard.Payload.Deployment
import DeployWizard.Proofs.JsonText

set_option autoImplicit false

namespace DeployWizard.Json

namespace Record

def present (entries : List (String × Option Value)) : List (String × Value) :=
  entries.flatMap fun e => e.2.toList.map (e.1, ·)

def Apart (s t : Slot) : Prop :=
  s.answers t.name = false ∧ t.answers s.name = false

instance (s t : Slot) : Decidable (Apart s t) :=
  inferInstanceAs (Decidable (_ ∧ _))

theorem present_cons (e : String × Option Value) (es : List (String × Option Value)) :
    present (e :: es) = e.2.toList.map (e.1, ·) ++ present es := rfl

theorem mem_present {entries : List (String × Option Value)} {m : String × Value}
    (h : m ∈ present entries) : ∃ e ∈ entries, e.1 = m.1 ∧ e.2 = some m.2 := by
  obtain ⟨e, he, hm⟩ := List.mem_flatMap.1 h
  obtain ⟨v, hv, rfl⟩ := List.mem_map.1 hm
  exact ⟨e, he, rfl, Option.mem_toList.1 hv⟩

theorem found_append (s : Slot) (ms ns : List (String × Value)) :
    found s (ms ++ ns) = found s ms ++ found s ns := by
  rw [found, List.filter_append, List.map_append]
  rfl

theorem found_eq_nil {s : Slot} {ms : List (String × Value)}
    (h : ∀ m ∈ ms, s.answers m.1 = false) : found s ms = [] := by
  rw [found, List.filter_eq_nil_iff.2 fun m hm => Bool.eq_false_iff.1 (h m hm), List.map_nil]

theorem ofMembers_append {ss : List Slot} {ms : List (String × Value)}
    (h : ∀ s ∈ ss, ∀ m ∈ ms, s.answers m.1 = false) (ns : List (String × Value)) :
    ofMembers ss (ms ++ ns) = ofMembers ss ns := by
  induction ss with
  | nil => rfl
  | cons s ss ih =>
    have hs := found_eq_nil (h s List.mem_cons_self)
    rw [ofMembers, ofMembers, found_append, hs, List.nil_append,
      ih fun t ht => h t (List.mem_cons_of_mem _ ht)]

theorem ofMembers_present {ss : List Slot} {entries : List (String × Option Value)}
    (hnames : entries.map (·.1) = ss.map (·.name)) (hapart : ss.Pairwise Apart) :
    ofMembers ss (present entries) = some (entries.map (·.2)) := by
  induction ss generalizing entries with
  | nil =>
    rw [List.map_nil, List.map_eq_nil_iff] at hnames
    rw [hnames]
    rfl
  | cons s ss ih =>
    obtain ⟨e, es, rfl⟩ : ∃ e es, entries = e :: es :=
      List.exists_cons_of_ne_nil (by rintro rfl; cases hnames)
    rw [List.map_cons, List.map_cons, List.cons.injEq] at hnames
    rw [List.pairwise_cons] at hapart
    have hown : found s (e.2.toList.map (e.1, ·)) = e.2.toList := by
      cases e.2 <;> simp [found, Slot.answers, hnames.1]
    have hothers : found s (present es) = [] := by
      refine found_eq_nil fun m hm => ?_
      obtain ⟨d, hd, hname, -⟩ := mem_present hm
      have hmem : m.1 ∈ ss.map (·.name) := by
        rw [← hnames.2, ← hname]
        exact List.mem_map_of_mem hd
      obtain ⟨t, ht, hname'⟩ := List.mem_map.1 hmem
      rw [← hname']
      exact (hapart.1 t ht).1
    have hrest : ofMembers ss (e.2.toList.map (e.1, ·) ++ present es) = some (es.map (·.2)) := by
      rw [ofMembers_append, ih hnames.2 hapart.2]
      intro t ht m hm
      obtain ⟨v, -, rfl⟩ := List.mem_map.1 hm
      rw [hnames.1]
      exact (hapart.1 t ht).2
    rw [present_cons, ofMembers, found_append, hown, hothers, List.append_nil, hrest]
    cases he : e.2 <;> simp [he]

theorem fields_present {ss : List Slot} {entries : List (String × Option Value)}
    (hnames : entries.map (·.1) = ss.map (·.name)) (hapart : ss.Pairwise Apart) :
    fields ss .ignored (.object (present entries)) = some (entries.map (·.2)) :=
  ofMembers_present hnames hapart

end Record

theorem asList_map {α : Type} {w : α → Value} {r : Value → Option α} {as : List α}
    (h : ∀ a ∈ as, r (w a) = some a) : asList r (.array (as.map w)) = some as := by
  induction as with
  | nil => rfl
  | cons a as ih =>
    have hrest := ih fun b hb => h b (List.mem_cons_of_mem a hb)
    simp only [asList, List.map_cons, List.mapM_cons, h a List.mem_cons_self] at hrest ⊢
    rw [hrest]
    rfl

theorem maybe_of_ne_null {α : Type} {r : Value → Option α} {v : Value} (h : v ≠ .null) :
    maybe r (some v) = (r v).map some := by
  cases v with
  | null => exact absurd rfl h
  | bool b => rfl
  | number n => rfl
  | text s => rfl
  | unreadable => rfl
  | array vs => rfl
  | object ms => rfl

theorem asNat_ofNat {bound n : Nat} (h : n < bound) : asNat bound (.ofNat n) = some n := by
  simp [asNat, Value.ofNat, Number.natural?_ofNat, h]

/-- What is written reads back. It is a plain value and not null, so it can be an optional field. -/
structure Codec {α : Type} (write : α → Value) (read : Value → Option α) : Prop where
  reads : ∀ a, read (write a) = some a
  plain : ∀ a, Plain (write a)
  notNull : ∀ a, write a ≠ .null

namespace Codec
variable {α : Type} {w : α → Value} {r : Value → Option α}

theorem text : Codec .text asText :=
  ⟨fun _ => rfl, .text, fun _ h => by cases h⟩

theorem list (h : Codec w r) : Codec (fun as => .array (as.map w)) (asList r) where
  reads _ := asList_map fun a _ => h.reads a
  plain as := .array fun v hv => by
    obtain ⟨a, -, rfl⟩ := List.mem_map.1 hv
    exact h.plain a
  notNull _ h := by cases h

theorem maybe_map (h : Codec w r) (a : Option α) : maybe r (a.map w) = some a := by
  cases a with
  | none => rfl
  | some a => rw [Option.map_some, maybe_of_ne_null (h.notNull a), h.reads, Option.map_some]

def PlainEntry (e : String × Option Value) : Prop :=
  ∀ v, e.2 = some v → Plain v

theorem plainEntry_some {v : Value} (h : Plain v) (name : String) : PlainEntry (name, some v) :=
  fun _ hv => Option.some.inj hv ▸ h

theorem plain_present {entries : List (String × Option Value)} (h : ∀ e ∈ entries, PlainEntry e) :
    Plain (.object (Record.present entries)) := by
  refine .object fun m hm => ?_
  obtain ⟨e, he, -, hvalue⟩ := Record.mem_present hm
  exact h e he m.2 hvalue

theorem plainEntry (h : Codec w r) (name : String) (a : α) : PlainEntry (name, some (w a)) :=
  plainEntry_some (h.plain a) name

theorem plainEntry_map (h : Codec w r) (name : String) (a : Option α) :
    PlainEntry (name, a.map w) := by
  intro v hv
  obtain ⟨b, -, rfl⟩ := Option.map_eq_some_iff.1 hv
  exact h.plain b

theorem record (e : α → List (String × Option Value))
    (hwrite : ∀ a, w a = .object (Record.present (e a)))
    (hplain : ∀ a, ∀ f ∈ e a, PlainEntry f)
    (hread : ∀ a, r (.object (Record.present (e a))) = some a) : Codec w r where
  reads a := by rw [hwrite, hread]
  plain a := by
    rw [hwrite]
    exact plain_present (hplain a)
  notNull a h := by
    rw [hwrite] at h
    cases h

end Codec

end DeployWizard.Json

namespace DeployWizard.Payload
open Json

theorem port_codec : Codec ofPort asPort where
  reads p := by
    rw [ofPort, asPort, asNat_ofNat p.toNat_lt, Option.map_some, UInt16.ofNat_toNat]
  plain p := .natural _
  notNull _ h := by cases h

theorem texts_codec : Codec Value.texts asTexts :=
  Codec.text.list

theorem auth_codec : Codec ofAuth asAuth := by
  refine .record (fun a => [("user", some (.text a.user)), ("password", a.password.map .text),
    ("port", some (ofPort a.port))]) (fun a => ?_) (fun a => ?_) fun a => ?_
  · obtain ⟨user, password, port⟩ := a
    cases password <;> rfl
  · simp only [List.forall_mem_cons]
    exact ⟨Codec.text.plainEntry _ _, Codec.text.plainEntry_map _ _, port_codec.plainEntry _ _,
      List.forall_mem_nil _⟩
  · rw [asAuth, Record.fields_present rfl (by decide)]
    simp [need, Codec.text.reads, Codec.text.maybe_map, port_codec.reads]

theorem server_codec : Codec ofServer asServer := by
  refine .record (fun address => [("ip", some (.text address))]) (fun _ => rfl) (fun a => ?_)
    fun a => ?_
  · simp only [List.forall_mem_cons]
    exact ⟨Codec.text.plainEntry _ _, List.forall_mem_nil _⟩
  · rw [asServer, Record.fields_present rfl (by decide)]
    rfl

theorem zone_codec : Codec ofZone asZone := by
  refine .record (fun z => [("name", some (.text z.name)),
    ("servers", some (.array (z.servers.map ofServer))),
    ("rootservice", z.coordinator.map .text)]) (fun z => ?_) (fun z => ?_) fun z => ?_
  · obtain ⟨name, servers, coordinator⟩ := z
    cases coordinator <;> rfl
  · simp only [List.forall_mem_cons]
    exact ⟨Codec.text.plainEntry _ _, server_codec.list.plainEntry _ _,
      Codec.text.plainEntry_map _ _, List.forall_mem_nil _⟩
  · rw [asZone, Record.fields_present rfl (by decide)]
    simp [need, orElse, Codec.text.reads, server_codec.list.reads, Codec.text.maybe_map]

theorem database_codec : Codec ofDatabase asDatabase := by
  refine .record (fun d => [("appname", some (.text d.appName)),
    ("version", some (.text d.version)), ("mysql_port", d.sqlPort.map ofPort),
    ("rpc_port", d.rpcPort.map ofPort), ("topology", some (.array (d.zones.map ofZone)))])
    (fun d => ?_) (fun d => ?_) fun d => ?_
  · obtain ⟨appName, version, sqlPort, rpcPort, zones⟩ := d
    cases sqlPort <;> cases rpcPort <;> rfl
  · simp only [List.forall_mem_cons]
    exact ⟨Codec.text.plainEntry _ _, Codec.text.plainEntry _ _, port_codec.plainEntry_map _ _,
      port_codec.plainEntry_map _ _, zone_codec.list.plainEntry _ _, List.forall_mem_nil _⟩
  · rw [asDatabase, Record.fields_present rfl (by decide)]
    simp [need, orElse, Codec.text.reads, port_codec.maybe_map, zone_codec.list.reads]

theorem proxy_codec : Codec ofProxy asProxy := by
  refine .record (fun p => [("version", some (.text p.version)),
    ("servers", some (.texts p.servers)),
    ("listen_port", p.listenPort.map ofPort),
    ("prometheus_listen_port", p.metricsPort.map ofPort)]) (fun p => ?_) (fun p => ?_) fun p => ?_
  · obtain ⟨version, servers, listenPort, metricsPort⟩ := p
    cases listenPort <;> cases metricsPort <;> rfl
  · simp only [List.forall_mem_cons]
    exact ⟨Codec.text.plainEntry _ _, texts_codec.plainEntry _ _, port_codec.plainEntry_map _ _,
      port_codec.plainEntry_map _ _, List.forall_mem_nil _⟩
  · rw [asProxy, Record.fields_present rfl (by decide)]
    simp [orElse, Codec.text.reads, texts_codec.reads, port_codec.maybe_map]

theorem agent_codec : Codec ofAgent asAgent := by
  refine .record (fun a => [("version", some (.text a.version)),
    ("servers", some (.texts a.servers)),
    ("monagent_http_port", a.monitorPort.map ofPort),
    ("mgragent_http_port", a.managerPort.map ofPort)]) (fun a => ?_) (fun a => ?_) fun a => ?_
  · obtain ⟨version, servers, monitorPort, managerPort⟩ := a
    cases monitorPort <;> cases managerPort <;> rfl
  · simp only [List.forall_mem_cons]
    exact ⟨Codec.text.plainEntry _ _, texts_codec.plainEntry _ _, port_codec.plainEntry_map _ _,
      port_codec.plainEntry_map _ _, List.forall_mem_nil _⟩
  · rw [asAgent, Record.fields_present rfl (by decide)]
    simp [orElse, Codec.text.reads, texts_codec.reads, port_codec.maybe_map]

theorem console_codec : Codec ofConsole asConsole := by
  refine .record (fun c => [("version", some (.text c.version)),
    ("servers", some (.texts c.servers)),
    ("port", c.port.map ofPort)]) (fun c => ?_) (fun c => ?_) fun c => ?_
  · obtain ⟨version, servers, port⟩ := c
    cases port <;> rfl
  · simp only [List.forall_mem_cons]
    exact ⟨Codec.text.plainEntry _ _, texts_codec.plainEntry _ _, port_codec.plainEntry_map _ _,
      List.forall_mem_nil _⟩
  · rw [asConsole, Record.fields_present rfl (by decide)]
    simp [orElse, Codec.text.reads, texts_codec.reads, port_codec.maybe_map]

theorem configServer_codec : Codec ofConfigServer asConfigServer := by
  refine .record (fun c => [("version", some (.text c.version)),
    ("servers", some (.texts c.servers)),
    ("listen_port", c.listenPort.map ofPort)]) (fun c => ?_) (fun c => ?_) fun c => ?_
  · obtain ⟨version, servers, listenPort⟩ := c
    cases listenPort <;> rfl
  · simp only [List.forall_mem_cons]
    exact ⟨Codec.text.plainEntry _ _, texts_codec.plainEntry _ _, port_codec.plainEntry_map _ _,
      List.forall_mem_nil _⟩
  · rw [asConfigServer, Record.fields_present rfl (by decide)]
    simp [orElse, Codec.text.reads, texts_codec.reads, port_codec.maybe_map]

theorem components_codec : Codec ofComponents asComponents := by
  refine .record (fun c => [("oceanbase", some (ofDatabase c.database)),
    ("obproxy", c.proxy.map ofProxy), ("obagent", c.agent.map ofAgent),
    ("ocpexpress", c.console.map ofConsole),
    ("obconfigserver", c.configServer.map ofConfigServer)]) (fun c => ?_) (fun c => ?_) fun c => ?_
  · obtain ⟨database, proxy, agent, console, configServer⟩ := c
    cases proxy <;> cases agent <;> cases console <;> cases configServer <;> rfl
  · simp only [List.forall_mem_cons]
    exact ⟨database_codec.plainEntry _ _, proxy_codec.plainEntry_map _ _,
      agent_codec.plainEntry_map _ _, console_codec.plainEntry_map _ _,
      configServer_codec.plainEntry_map _ _, List.forall_mem_nil _⟩
  · rw [asComponents, Record.fields_present rfl (by decide)]
    simp [orElse, database_codec.reads, proxy_codec.maybe_map, agent_codec.maybe_map,
      console_codec.maybe_map, configServer_codec.maybe_map]

theorem deployment_codec : Codec ofDeployment asDeployment := by
  refine .record (fun d => [("auth", d.auth.map ofAuth),
    ("components", some (ofComponents d.components)), ("home_path", d.homePath.map .text)])
    (fun d => ?_) (fun d => ?_) fun d => ?_
  · obtain ⟨auth, components, homePath⟩ := d
    cases auth <;> cases homePath <;> rfl
  · simp only [List.forall_mem_cons]
    exact ⟨auth_codec.plainEntry_map _ _, components_codec.plainEntry _ _,
      Codec.text.plainEntry_map _ _, List.forall_mem_nil _⟩
  · rw [asDeployment, Record.fields_present rfl (by decide)]
    simp [need, auth_codec.maybe_map, components_codec.reads, Codec.text.maybe_map]

theorem read?_deployment (d : Deployment) :
    (Json.read? (ofDeployment d).render).bind asDeployment = some d := by
  rw [read?_render (deployment_codec.plain d), Option.bind_some, deployment_codec.reads]

end DeployWizard.Payload
