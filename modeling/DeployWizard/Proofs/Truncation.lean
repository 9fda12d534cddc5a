import Mathlib.Data.Nat.Find
import Mathlib.Tactic.Common
import DeployWizard.Redaction

set_option autoImplicit false

/-!
Where a text is cut. Truncation takes characters from the front while they fit; the place it comes
to is the one that is found from the other side, by going back byte by byte from the limit to the
boundary of a character.
-/
namespace DeployWizard.Redaction

/-- A character begins at this byte of a text, or the text ends there. -/
def IsBoundary (s : String) (i : Nat) : Prop :=
  i = s.utf8ByteSize ∨ ∃ h, (s.getUTF8Byte ⟨i⟩ h).IsUTF8FirstByte

instance (s : String) (i : Nat) : Decidable (IsBoundary s i) :=
  inferInstanceAs (Decidable (_ ∨ ∃ h, (s.getUTF8Byte ⟨i⟩ h).IsUTF8FirstByte))

theorem isBoundary_iff {s : String} {i : Nat} :
    IsBoundary s i ↔ ∃ p r, s = p ++ r ∧ p.utf8ByteSize = i := by
  have hvalid : IsBoundary s i ↔ String.Pos.Raw.IsValid s ⟨i⟩ := by
    rw [String.Pos.Raw.isValid_iff_isUTF8FirstByte, IsBoundary, String.Pos.Raw.ext_iff,
      String.byteIdx_rawEndPos]
  rw [hvalid, String.Pos.Raw.isValid_iff_exists_append]
  simp only [String.Pos.Raw.ext_iff, String.byteIdx_rawEndPos, eq_comm]

theorem isBoundary_zero (s : String) : IsBoundary s 0 :=
  isBoundary_iff.2 ⟨"", s, String.empty_append.symm, rfl⟩

theorem utf8ByteSize_cons (c : Char) (cs : List Char) :
    (String.ofList (c :: cs)).utf8ByteSize = c.utf8Size + (String.ofList cs).utf8ByteSize := by
  rw [String.ofList_cons, String.utf8ByteSize_append, String.utf8ByteSize_singleton]

theorem takeBytes_isPrefix (room : Nat) (cs : List Char) : takeBytes room cs <+: cs := by
  induction cs generalizing room with
  | nil => exact List.prefix_refl []
  | cons c cs ih =>
    rw [takeBytes]
    split
    · exact List.cons_prefix_cons.2 ⟨rfl, ih _⟩
    · exact List.nil_prefix

theorem size_takeBytes_le (room : Nat) (cs : List Char) :
    (String.ofList (takeBytes room cs)).utf8ByteSize ≤ room := by
  induction cs generalizing room with
  | nil => exact Nat.zero_le room
  | cons c cs ih =>
    rw [takeBytes]
    split
    next hfits =>
      have hrest := ih (room - c.utf8Size)
      rw [utf8ByteSize_cons]
      omega
    next => exact Nat.zero_le room

/-- Whatever fits of the characters in front is taken. -/
theorem isPrefix_takeBytes {xs cs : List Char} {room : Nat} (h : xs <+: cs)
    (hfits : (String.ofList xs).utf8ByteSize ≤ room) : xs <+: takeBytes room cs := by
  induction cs generalizing xs room with
  | nil => exact h
  | cons c cs ih =>
    obtain rfl | ⟨ys, rfl, hys⟩ := List.prefix_cons_iff.1 h
    · exact List.nil_prefix
    · rw [utf8ByteSize_cons] at hfits
      rw [takeBytes, if_pos (by omega)]
      exact List.cons_prefix_cons.2 ⟨rfl, ih hys (by omega)⟩

theorem lt_size_takeBytes {room : Nat} {cs : List Char}
    (h : room < (String.ofList cs).utf8ByteSize) :
    room < (String.ofList (takeBytes room cs)).utf8ByteSize + 4 := by
  induction cs generalizing room with
  | nil => exact absurd h (Nat.not_lt_zero room)
  | cons c cs ih =>
    have hwide := c.utf8Size_le_four
    rw [utf8ByteSize_cons] at h
    rw [takeBytes]
    split
    next hfits =>
      have hrest := @ih (room - c.utf8Size) (by omega)
      rw [utf8ByteSize_cons]
      omega
    next => omega

section Cut
variable (s : String) (room : Nat)

def front : String :=
  String.ofList (takeBytes room s.toList)

theorem exists_eq_front_append : ∃ r, s = front s room ++ r := by
  obtain ⟨r, hr⟩ := takeBytes_isPrefix room s.toList
  refine ⟨String.ofList r, ?_⟩
  rw [front, ← String.ofList_append, hr, String.ofList_toList]

variable {s room}

theorem isPrefix_front {q r : String} (h : s = q ++ r) (hfits : q.utf8ByteSize ≤ room) :
    q.toList <+: (front s room).toList := by
  rw [front, String.toList_ofList]
  refine isPrefix_takeBytes ⟨r.toList, ?_⟩ (by rwa [String.ofList_toList])
  rw [h, String.toList_append]

theorem utf8ByteSize_le_of_isPrefix {p q : String} (h : q.toList <+: p.toList) :
    q.utf8ByteSize ≤ p.utf8ByteSize := by
  obtain ⟨r, hr⟩ := h
  have hp : p = q ++ String.ofList r := by
    rw [← String.toList_inj, String.toList_append, String.toList_ofList, hr]
  rw [hp, String.utf8ByteSize_append]
  exact Nat.le_add_right _ _

/-- Both searches come to one place. -/
theorem utf8ByteSize_front :
    (front s room).utf8ByteSize = Nat.findGreatest (IsBoundary s) room := by
  obtain ⟨r, hr⟩ := exists_eq_front_append s room
  refine Nat.le_antisymm ?_ ?_
  · exact Nat.le_findGreatest (size_takeBytes_le room s.toList) (isBoundary_iff.2 ⟨_, r, hr, rfl⟩)
  · -- The part up to the last boundary fits, so all of it was taken.
    have hlast := Nat.findGreatest_spec (Nat.zero_le room) (isBoundary_zero s)
    obtain ⟨q, r, hq, hsize⟩ := isBoundary_iff.1 hlast
    have hfits : q.utf8ByteSize ≤ room := hsize ▸ Nat.findGreatest_le room
    rw [← hsize]
    exact utf8ByteSize_le_of_isPrefix (isPrefix_front hq hfits)

theorem toByteArray_front :
    (front s room).toByteArray =
      s.toByteArray.extract 0 (Nat.findGreatest (IsBoundary s) room) := by
  obtain ⟨r, hr⟩ := exists_eq_front_append s room
  have hbytes : s.toByteArray = (front s room).toByteArray ++ r.toByteArray := by
    conv_lhs => rw [hr]
    exact String.toByteArray_append
  rw [hbytes, ByteArray.extract_append_eq_left]
  rw [String.size_toByteArray, utf8ByteSize_front]

end Cut

/-- A text that fits stays. A longer one is cut at the last boundary up to the limit: the longest
part in front that fits is kept, at most three bytes short of the limit, and the full length is
noted. -/
theorem truncate_cuts_at_last_boundary (s : String) :
    (s.utf8ByteSize ≤ limit → truncate s = s) ∧
      (limit < s.utf8ByteSize →
        let i := Nat.findGreatest (IsBoundary s) limit
        IsBoundary s i ∧ i ≤ limit ∧ limit ≤ i + 3 ∧
          ∃ p : String, p.toByteArray = s.toByteArray.extract 0 i ∧
            (∀ q r : String, s = q ++ r → q.utf8ByteSize ≤ limit → q.toList <+: p.toList) ∧
            truncate s =
              p ++ "... [truncated, total " ++ toString s.utf8ByteSize ++ " bytes]") := by
  refine ⟨fun hfits => if_pos hfits, fun hlong => ?_⟩
  intro i
  have hleft : limit < (front s limit).utf8ByteSize + 4 :=
    lt_size_takeBytes (by rwa [String.ofList_toList])
  rw [utf8ByteSize_front] at hleft
  refine ⟨?_, Nat.findGreatest_le limit, by omega, front s limit, toByteArray_front, ?_, ?_⟩
  · exact Nat.findGreatest_spec (Nat.zero_le limit) (isBoundary_zero s)
  · exact fun q r hq hfits => isPrefix_front hq hfits
  · exact if_neg (Nat.not_le.2 hlong)

theorem truncate_leaves_out_wide_character :
    let short := "10.0.0.1"
    let s := String.ofList (List.replicate 253 'a' ++ ['😀', 'b'])
    (short.utf8ByteSize ≤ limit ∧ truncate short = short) ∧
      limit < s.utf8ByteSize ∧ Nat.findGreatest (IsBoundary s) limit = 253 ∧
        ∃ p : String, p.toByteArray = s.toByteArray.extract 0 253 ∧
          truncate s = p ++ "... [truncated, total 258 bytes]" := by
  intro short s
  have hshort : short.utf8ByteSize ≤ limit := by decide
  have hlong : limit < s.utf8ByteSize := by decide +kernel
  have hcut : Nat.findGreatest (IsBoundary s) limit = 253 := by decide +kernel
  have hsize : s.utf8ByteSize = 258 := by decide +kernel
  have hmark : "... [truncated, total " ++ (toString 258 ++ " bytes]") =
      "... [truncated, total 258 bytes]" := by decide
  obtain ⟨-, -, -, p, hbytes, -, htruncated⟩ := (truncate_cuts_at_last_boundary s).2 hlong
  rw [hcut] at hbytes
  rw [hsize, String.append_assoc, String.append_assoc, hmark] at htruncated
  exact ⟨⟨hshort, (truncate_cuts_at_last_boundary short).1 hshort⟩, hlong, hcut, p, hbytes,
    htruncated⟩

end DeployWizard.Redaction
