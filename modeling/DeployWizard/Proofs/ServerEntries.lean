import Mathlib.Data.List.Basic
import DeployWizard.Proofs.PlacedZones

set_option autoImplicit false

namespace DeployWizard.Topology

/-- An entry, given with its place, that is stored when others hold some addresses: an address that
is not held and does not stand earlier in the list. -/
def admits (held entries : List String) (entry : String × Nat) : Bool :=
  isAddress entry.1 && entry.1 ∉ held && entry.1 ∉ entries.take entry.2

def objection (entry : String) : Issue :=
  if isAddress entry then .duplicateAddress entry else .invalidAddress entry

def admitted (held entries : List String) : List String :=
  (entries.zipIdx.filter (admits held entries)).map Prod.fst

def objections (held entries : List String) : List Issue :=
  (entries.zipIdx.filter fun e => !admits held entries e).map fun e => objection e.1

/-- The entries after some others are sorted by their places in the whole list. What is taken by
then are the held addresses and those that stand before. -/
theorem accept_after (held before entries taken : List String)
    (htaken : ∀ s, isAddress s = true → (s ∈ taken ↔ s ∈ held ∨ s ∈ before)) :
    let whole := before ++ entries.map Text.trim
    let places := (entries.map Text.trim).zipIdx before.length
    accept taken entries =
      ((places.filter (admits held whole)).map Prod.fst,
        (places.filter fun e => !admits held whole e).map fun e => objection e.1) := by
  induction entries generalizing before taken with
  | nil => rfl
  | cons entry entries ih =>
    have hwhole : before ++ (entry :: entries).map Text.trim =
        (before ++ [Text.trim entry]) ++ entries.map Text.trim := by simp
    have hplaces : ((entry :: entries).map Text.trim).zipIdx before.length =
        (Text.trim entry, before.length) ::
          (entries.map Text.trim).zipIdx (before ++ [Text.trim entry]).length := by simp
    have hfirst : admits held ((before ++ [Text.trim entry]) ++ entries.map Text.trim)
        (Text.trim entry, before.length) =
          (isAddress (Text.trim entry) && Text.trim entry ∉ taken) := by
      cases hvalid : isAddress (Text.trim entry) with
      | false => simp [admits, hvalid]
      | true => simp [admits, hvalid, htaken]
    intro whole places
    simp only [whole, places, hwhole, hplaces, List.filter_cons, hfirst, accept]
    cases hvalid : isAddress (Text.trim entry) with
    | false =>
      have hrest := ih (before ++ [Text.trim entry]) taken fun s hs => by
        have hne : s ≠ Text.trim entry := by
          rintro rfl
          simp [hs] at hvalid
        simp [htaken s hs, hne]
      simp [hrest, objection, hvalid]
    | true =>
      by_cases hmem : Text.trim entry ∈ taken
      · have hrest := ih (before ++ [Text.trim entry]) taken fun s hs => by
          by_cases hsame : s = Text.trim entry
          · simp [hsame, hmem]
          · simp [htaken s hs, hsame]
        simp [hrest, objection, hvalid, hmem]
      · have hrest := ih (before ++ [Text.trim entry]) (Text.trim entry :: taken) fun s hs => by
          rw [List.mem_cons, htaken s hs, List.mem_append, List.mem_singleton, or_comm, or_assoc]
        simp [hrest, hmem]

theorem accept_eq (held entries : List String) :
    accept held entries =
      (admitted held (entries.map Text.trim), objections held (entries.map Text.trim)) :=
  accept_after held [] entries held fun s _ => by simp

theorem length_admitted_add (held entries : List String) :
    (admitted held entries).length + (objections held entries).length = entries.length := by
  have hsplit := List.length_eq_length_filter_add (l := entries.zipIdx) (admits held entries)
  rw [List.length_zipIdx] at hsplit
  rw [admitted, objections, List.length_map, List.length_map, hsplit]

theorem coordinatorFor_eq (servers : List String) (old : Option String) :
    coordinatorFor servers old =
      if ∃ c ∈ servers, old = some c then old
      else if servers.length = 1 then servers.head? else none := by
  split
  next h =>
    obtain ⟨c, hc, rfl⟩ := h
    simp [coordinatorFor, Option.filter, hc]
  next h =>
    have hlost : old.filter (· ∈ servers) = none := by
      rw [Option.filter_eq_none_iff]
      intro c hc
      simpa using fun hmem => h ⟨c, hmem, hc⟩
    unfold coordinatorFor
    rw [hlost]
    match servers with
    | [] => rfl
    | [_] => rfl
    | _ :: _ :: _ => simp

theorem coordinatorFor_coordinatorFor (servers : List String) (old : Option String) :
    coordinatorFor servers (coordinatorFor servers old) = coordinatorFor servers old := by
  cases h : coordinatorFor servers old with
  | some c => simp [coordinatorFor, Option.filter, mem_of_coordinatorFor h]
  | none =>
    unfold coordinatorFor at h
    split at h
    next => cases h
    next => exact h

theorem assigned_assigned (stored : List String) (z : Zone) :
    assigned stored (assigned stored z) = assigned stored z := by
  simp only [assigned, coordinatorFor_coordinatorFor]

/-- What entering a list of servers makes of a zone and what it reports, when the other zones hold
some addresses. -/
structure ServersEntered (held entries : List String) (old new : Zone) (edit : ServersEdit) :
    Prop where
  id : new.id = old.id
  name : new.name = old.name
  stored : new.servers = admitted held (entries.map Text.trim)
  rejected : edit.rejected = objections held (entries.map Text.trim)
  complete : new.servers.length + edit.rejected.length = entries.length
  removed : edit.removed = old.servers.filter (· ∉ new.servers)
  coordinator : new.coordinator =
    if ∃ c ∈ new.servers, old.coordinator = some c then old.coordinator
    else if new.servers.length = 1 then new.servers.head? else none

theorem serversEntered_assigned {held entries stored : List String} {rejected : List Issue}
    (h : accept held entries = (stored, rejected)) (z : Zone) :
    ServersEntered held entries z (assigned stored z)
      ⟨z.servers.filter (· ∉ stored), rejected⟩ := by
  obtain ⟨rfl, rfl⟩ := Prod.mk.inj ((accept_eq held entries).symm.trans h)
  refine ⟨rfl, rfl, rfl, rfl, ?_, rfl, coordinatorFor_eq _ _⟩
  exact (length_admitted_add held _).trans (List.length_map _)

namespace Placed
variable {t : Topology} {before after : List Zone} {z : Zone} {entries stored : List String}
  {rejected : List Issue}

/-- The other zones hold what they held, so the same entries are stored again. -/
theorem setServers_again (h : Placed t before z after)
    (haccept : accept ((before ++ after).flatMap (·.servers)) entries = (stored, rejected)) :
    let t' := { t with zones := before ++ assigned stored z :: after }
    t'.setServers z.id entries = (.ok ⟨[], rejected⟩, t') := by
  intro t'
  have hplaced : Placed t' before (assigned stored z) after := ⟨rfl, h.others⟩
  have hkept : stored.filter (· ∉ stored) = [] := by
    rw [List.filter_eq_nil_iff]
    intro s hs
    simpa using hs
  have hagain := hplaced.setServers_eq entries
  simp only [haccept, assigned_assigned] at hagain
  rw [← hkept]
  exact hagain

end Placed

/-- In every run, the servers of a zone can be entered: the zone at its place gets the admitted
entries, the others are reported, nothing else changes, and the same list entered again changes and
removes nothing more. -/
theorem servers_entered {plans : List ZonePlan} {firstId : Nat} {past : List Event} {t : Topology}
    (run : Run plans firstId past t) {before after : List Zone} {z : Zone}
    (hzones : t.zones = before ++ z :: after) (entries : List String) :
    ∃ new edit,
      let t' := { t with zones := before ++ new :: after }
      t.setServers z.id entries = (.ok edit, t') ∧
      ServersEntered (t.heldElsewhere z.id) entries z new edit ∧
      t'.setServers z.id entries = (.ok ⟨[], edit.rejected⟩, t') := by
  have hplaced : Placed t before z after := run.identified.placed hzones
  have hheld : t.heldElsewhere z.id = (before ++ after).flatMap (·.servers) := by
    rw [heldElsewhere, hplaced.others_eq]
  obtain ⟨⟨stored, rejected⟩, haccept⟩ : ∃ sorted, accept (t.heldElsewhere z.id) entries = sorted :=
    ⟨_, rfl⟩
  have hset := hplaced.setServers_eq entries
  rw [← hheld, haccept] at hset
  exact ⟨assigned stored z, _, hset, serversEntered_assigned haccept z,
    hplaced.setServers_again (hheld ▸ haccept)⟩

/-- A list with an address of another zone, an entry that is no address, and repetitions of both
kinds; the only address left takes over from a coordinator that goes. -/
theorem servers_entered_with_repetitions :
    let before : List Zone := []
    let old : Zone := ⟨.minted 0, "zone1", ["10.0.0.1", "10.0.0.7"], some "10.0.0.7"⟩
    let after : List Zone := [⟨.minted 1, "zone2", ["10.0.0.2"], none⟩]
    let t : Topology := ofPlans ((before ++ old :: after).map Zone.plan) 0
    let entries := ["nowhere", " 10.0.0.3", "10.0.0.2", "10.0.0.3 ", "nowhere"]
    let new : Zone := ⟨.minted 0, "zone1", ["10.0.0.3"], some "10.0.0.3"⟩
    let edit : ServersEdit :=
      ⟨["10.0.0.1", "10.0.0.7"], [.invalidAddress "nowhere", .duplicateAddress "10.0.0.2",
        .duplicateAddress "10.0.0.3", .invalidAddress "nowhere"]⟩
    let t' : Topology := { t with zones := before ++ new :: after }
    Run ((before ++ old :: after).map Zone.plan) 0 [] t ∧ t.zones = before ++ old :: after ∧
      t.setServers old.id entries = (.ok edit, t') ∧
      ServersEntered (t.heldElsewhere old.id) entries old new edit ∧
      t'.setServers old.id entries = (.ok ⟨[], edit.rejected⟩, t') := by
  intro before old after t entries new edit t'
  have hzones : t.zones = before ++ old :: after := by decide
  obtain ⟨new', edit', hset', hentered, hagain⟩ := servers_entered .load hzones entries
  have hset : t.setServers old.id entries = (.ok edit, t') := by decide +kernel
  obtain ⟨hedit, ht⟩ := Prod.mk.inj (hset.symm.trans hset')
  obtain rfl : edit = edit' := Except.ok.inj hedit
  obtain rfl : new = new' := by simpa [t', before] using congrArg Topology.zones ht
  exact ⟨.load, hzones, hset, hentered, hagain⟩

end DeployWizard.Topology
