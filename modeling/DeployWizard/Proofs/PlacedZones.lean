import DeployWizard.Proofs.Refusals

set_option autoImplicit false

namespace DeployWizard.Topology

/-- The zone stands between the others, and its identity is its own. -/
structure Placed (t : Topology) (before : List Zone) (z : Zone) (after : List Zone) : Prop where
  zones : t.zones = before ++ z :: after
  others : ∀ y ∈ before ++ after, y.id ≠ z.id

theorem Identified.placed {t : Topology} (ht : t.Identified) {before after : List Zone} {z : Zone}
    (hzones : t.zones = before ++ z :: after) : Placed t before z after :=
  ⟨hzones, ht.others hzones⟩

theorem placed_addNamed {t : Topology} (ht : t.Identified) (name : String) :
    Placed (t.addNamed name).2 t.zones { id := .minted t.nextId, name } [] where
  zones := rfl
  others := by
    intro y hy hid
    rw [List.append_nil] at hy
    have hid : y.id = .minted t.nextId := hid
    exact ht.fresh_id (hid ▸ List.mem_map_of_mem hy)

namespace Placed
variable {t : Topology} {before after : List Zone} {z : Zone}

theorem zone?_eq (h : Placed t before z after) : t.zone? z.id = some z := by
  have hbefore : before.find? (·.id = z.id) = none := by
    rw [List.find?_eq_none]
    intro y hy
    simpa using h.others y (List.mem_append_left _ hy)
  simp [zone?, h.zones, List.find?_append, hbefore]

theorem others_eq (h : Placed t before z after) :
    t.zones.filter (·.id ≠ z.id) = before ++ after := by
  have hkept : (before ++ after).filter (·.id ≠ z.id) = before ++ after :=
    List.filter_eq_self.2 fun y hy => by simpa using h.others y hy
  rw [List.filter_append] at hkept
  simp only [h.zones, List.filter_append, List.filter_cons_of_neg, not_true_eq_false, decide_false,
    ne_eq, Bool.false_eq_true, not_false_eq_true]
  exact hkept

theorem setServers_eq (h : Placed t before z after) (entries : List String) :
    t.setServers z.id entries =
      let (stored, rejected) := accept ((before ++ after).flatMap (·.servers)) entries
      (.ok ⟨z.servers.filter (· ∉ stored), rejected⟩,
        { t with zones := before ++ assigned stored z :: after }) := by
  have hheld : t.heldElsewhere z.id = (before ++ after).flatMap (·.servers) := by
    rw [heldElsewhere, h.others_eq]
  simp only [setServers, h.zone?_eq, hheld]
  rw [← update_placed (assigned _) h.zones h.others]
  rfl

/-- An entry that is no address changes nothing; any other is stored. -/
theorem setCoordinator_eq (h : Placed t before z after) (entry : String) :
    t.setCoordinator z.id entry =
      if isAddress (Text.trim entry) then
        (if Text.trim entry ∈ z.servers then .ok () else .error (.notInZone (Text.trim entry)),
          { t with zones := before ++ { z with coordinator := some (Text.trim entry) } :: after })
      else (.error (.invalidAddress (Text.trim entry)), t) := by
  simp only [setCoordinator, h.zone?_eq]
  cases isAddress (Text.trim entry) with
  | false => rfl
  | true =>
    simp only [Bool.not_true, Bool.false_eq_true, if_false, if_true]
    rw [← update_placed (fun z => { z with coordinator := some (Text.trim entry) }) h.zones
      h.others]

theorem removeConfirmed_eq (h : Placed t before z after) (hmany : before ++ after ≠ []) :
    t.removeConfirmed z.id = (.ok z, { t with zones := before ++ after }) := by
  have hlength : t.zones.length ≠ 1 := by
    have hpos := List.length_pos_iff.2 hmany
    rw [h.zones]
    simp only [List.length_append, List.length_cons] at hpos ⊢
    omega
  simp only [removeConfirmed, h.zone?_eq, hlength, if_false, drop, h.others_eq]

end Placed

end DeployWizard.Topology
