import Mathlib.Data.List.Basic
import DeployWizard.Proofs.FormEdits

set_option autoImplicit false

namespace DeployWizard

namespace NodeList

/-- The entries that are not blank, trimmed. -/
def named (entries : List String) : List String :=
  (entries.map Text.trim).filter (· ≠ "")

theorem eraseDups_append_cons {xs : List String} {x : String} (h : x ∈ xs) (ys : List String) :
    (xs ++ x :: ys).eraseDups = (xs ++ ys).eraseDups := by
  have hskip : (x :: ys).removeAll xs = ys.removeAll xs := by
    simp [List.removeAll, h]
  rw [List.eraseDups_append, List.eraseDups_append, hskip]

theorem eraseDups_concat {xs : List String} {x : String} (h : x ∉ xs) :
    (xs ++ [x]).eraseDups = xs.eraseDups ++ [x] := by
  have hnew : [x].removeAll xs = [x] := by
    rw [List.removeAll, List.filter_eq_self]
    simpa using h
  rw [List.eraseDups_append, hnew]
  rfl

/-- The value stands in the list, and every other one stands there before it does. -/
def Newest (xs : List String) (v : String) : Prop :=
  v ∈ xs ∧ ∀ u ∈ xs, xs.idxOf u ≤ xs.idxOf v

theorem newest_concat_of_mem {xs : List String} {x : String} (hx : x ∈ xs) (v : String) :
    Newest (xs ++ [x]) v ↔ Newest xs v := by
  have hmem (u : String) : u ∈ xs ++ [x] ↔ u ∈ xs := by
    simpa using fun h => h ▸ hx
  have hidx {u : String} (hu : u ∈ xs) : (xs ++ [x]).idxOf u = xs.idxOf u :=
    List.idxOf_append_of_mem hu
  simp only [Newest, hmem]
  refine and_congr_right fun hv => ?_
  rw [hidx hv]
  exact forall₂_congr fun u hu => by rw [hidx hu]

theorem newest_concat_of_notMem {xs : List String} {x : String} (hx : x ∉ xs) (v : String) :
    Newest (xs ++ [x]) v ↔ v = x := by
  have hidx : (xs ++ [x]).idxOf x = xs.length := by
    rw [List.idxOf_append_of_notMem hx, List.idxOf_cons_self, Nat.add_zero]
  constructor
  · rintro ⟨hv, hall⟩
    obtain hv | hv := List.mem_append.1 hv
    · -- A value that stood there before is not behind the new one.
      have hle := hall x (by simp)
      rw [hidx, List.idxOf_append_of_mem hv] at hle
      exact absurd (List.idxOf_lt_length_of_mem hv) (Nat.not_lt.2 hle)
    · exact List.mem_singleton.1 hv
  · rintro rfl
    refine ⟨by simp, fun u hu => ?_⟩
    have hlt := List.idxOf_lt_length_of_mem hu
    rw [List.length_append, List.length_singleton] at hlt
    omega

theorem getLast?_eraseDups_eq_some_iff (xs : List String) (v : String) :
    xs.eraseDups.getLast? = some v ↔ Newest xs v := by
  induction xs using List.reverseRecOn with
  | nil => simp [Newest]
  | append_singleton xs x ih =>
    by_cases hx : x ∈ xs
    · rw [eraseDups_append_cons hx, List.append_nil, ih, newest_concat_of_mem hx]
    · rw [eraseDups_concat hx, List.getLast?_concat, newest_concat_of_notMem hx, Option.some.injEq,
        eq_comm]

theorem named_cons (entry : String) (entries : List String) :
    named (entry :: entries) =
      if Text.trim entry = "" then named entries else Text.trim entry :: named entries := by
  by_cases hblank : Text.trim entry = "" <;> simp [named, hblank]

theorem gather_eq {seen : List String} (hseen : seen.eraseDups = seen) (entries : List String) :
    gather seen entries = (seen ++ named entries).eraseDups := by
  fun_induction gather seen entries with
  | case1 seen => simpa [named] using hseen.symm
  | case2 seen entry entries v hskip ih =>
    simp only [Bool.or_eq_true, decide_eq_true_eq] at hskip
    rw [ih hseen, named_cons]
    split
    next => rfl
    next hsome => rw [eraseDups_append_cons (hskip.resolve_left hsome)]
  | case3 seen entry entries v hnew ih =>
    simp only [Bool.or_eq_true, decide_eq_true_eq, not_or] at hnew
    obtain ⟨hsome, hnew⟩ := hnew
    rw [ih (by rw [eraseDups_concat hnew, hseen]), named_cons, if_neg hsome, List.append_assoc]
    rfl

theorem normalize_eq (entries : List String) : normalize entries = (named entries).eraseDups := by
  rw [normalize, gather_eq rfl, List.nil_append]

theorem eraseDups_eq_nil_iff (xs : List String) : xs.eraseDups = [] ↔ xs = [] := by
  cases xs with
  | nil => rfl
  | cons x xs => simp [List.eraseDups_cons]

theorem one_lt_length_eraseDups_iff (xs : List String) :
    1 < xs.eraseDups.length ↔ ∃ u ∈ xs, ∃ v ∈ xs, u ≠ v := by
  cases xs with
  | nil => simp
  | cons x xs =>
    have hother : 1 < (x :: xs).eraseDups.length ↔ ∃ v ∈ xs, v ≠ x := by
      rw [List.eraseDups_cons, List.length_cons, Nat.lt_add_left_iff_pos,
        List.length_pos_iff_exists_mem]
      simp
    rw [hother]
    constructor
    · rintro ⟨v, hv, hne⟩
      exact ⟨v, List.mem_cons_of_mem x hv, x, List.mem_cons_self, hne⟩
    · rintro ⟨u, hu, v, hv, hne⟩
      by_cases hux : u = x
      · have hvx : v ≠ x := fun h => hne (hux.trans h.symm)
        exact ⟨v, (List.mem_cons.1 hv).resolve_left hvx, hvx⟩
      · exact ⟨u, (List.mem_cons.1 hu).resolve_left hux, hux⟩

theorem values_collapse (values : List String) :
    (collapse values).values = values.getLast?.toList := by
  unfold collapse
  split
  next h =>
    match values, h with
    | [], _ => rfl
    | [_], _ => rfl
  next => rfl

theorem issues_collapse (values : List String) :
    (collapse values).issues = if 1 < values.length then [.multipleSelection] else [] := by
  unfold collapse
  split_ifs <;> first | rfl | omega

end NodeList

namespace NodeForm

theorem consoleServers_setConsoleServers (f : NodeForm) (entries : List String) :
    (f.setConsoleServers entries).2.consoleServers =
      (NodeList.named entries).eraseDups.getLast?.toList := by
  rw [← NodeList.normalize_eq, ← NodeList.values_collapse]
  rfl

theorem multipleSelection_mem_iff (f : NodeForm) (entries : List String) :
    ⟨.consoleServers, .multipleSelection⟩ ∈ (f.setConsoleServers entries).1 ↔
      1 < (NodeList.named entries).eraseDups.length := by
  have hissues := NodeList.issues_collapse (NodeList.normalize entries)
  rw [NodeList.normalize_eq] at hissues
  simp [setConsoleServers, NodeList.invalidAddresses, NodeList.normalize_eq, hissues]

/-- The field for the console node keeps the newest of the entries that are not blank. That is the
last one exactly when the last one is newest, and several different ones are reported. -/
theorem console_keeps_newest (f : NodeForm) (entries : List String) :
    let named := NodeList.named entries
    let reports := (f.setConsoleServers entries).1
    let servers := (f.setConsoleServers entries).2.consoleServers
    servers.length ≤ 1 ∧ (servers = [] ↔ named = []) ∧
      (∀ v, servers = [v] ↔ NodeList.Newest named v) ∧
      (servers = named.getLast?.toList ↔ ∀ v, named.getLast? = some v → NodeList.Newest named v) ∧
      (⟨.consoleServers, .multipleSelection⟩ ∈ reports ↔ ∃ u ∈ named, ∃ v ∈ named, u ≠ v) := by
  intro named reports servers
  have hservers : servers = named.eraseDups.getLast?.toList :=
    consoleServers_setConsoleServers f entries
  refine ⟨NodeList.length_collapse_le _, ?_, fun v => ?_, ?_, ?_⟩
  · rw [hservers, Option.toList_eq_nil_iff, List.getLast?_eq_none_iff,
      NodeList.eraseDups_eq_nil_iff]
  · rw [hservers, Option.toList_eq_singleton_iff, NodeList.getLast?_eraseDups_eq_some_iff]
  · rw [hservers]
    cases hlast : named.getLast? with
    | none => simp [List.getLast?_eq_none_iff.1 hlast]
    | some last =>
      rw [Option.toList_some, Option.toList_eq_singleton_iff,
        NodeList.getLast?_eraseDups_eq_some_iff]
      simp
  · rw [multipleSelection_mem_iff, NodeList.one_lt_length_eraseDups_iff]

/-- An entry that is repeated behind another one is the last, but it is the other one that stays. -/
theorem repeated_entry_displaced :
    let d : Deployment := { components := { database := {}, console := some {} } }
    let f := ofDeployment d {} 0
    let entries := ["10.0.0.1", "10.0.0.2", " 10.0.0.1"]
    Reachable d {} 0 f ∧ (NodeList.named entries).getLast? = some "10.0.0.1" ∧
      (f.setConsoleServers entries).2.consoleServers = ["10.0.0.2"] := by
  intro d f entries
  exact ⟨.load, by decide +kernel, by decide +kernel⟩

end NodeForm

end DeployWizard
