import Mathlib.Data.List.DropRight
import DeployWizard.Text.Blank

set_option autoImplicit false

namespace DeployWizard.Text

theorem dropBlanksEnd_eq_rdropWhile (cs : List Char) :
    dropBlanksEnd cs = cs.rdropWhile isBlank := rfl

theorem trimChars_trimChars (cs : List Char) : trimChars (trimChars cs) = trimChars cs := by
  have front : (trimChars cs).dropWhile isBlank = trimChars cs := by
    rw [List.dropWhile_eq_self_iff]
    intro hpos
    -- The first character that stays is the first one after the leading blanks.
    have hpre : trimChars cs <+: cs.dropWhile isBlank := List.rdropWhile_prefix _ _
    have hlt : 0 < (cs.dropWhile isBlank).length := lt_of_lt_of_le hpos hpre.length_le
    rw [hpre.getElem hpos]
    exact List.dropWhile_get_zero_not _ _ hlt
  rw [trimChars, front]
  simp only [trimChars, dropBlanksEnd_eq_rdropWhile, List.rdropWhile_idempotent]

theorem trim_trim (s : String) : trim (trim s) = trim s := by
  simp only [trim, String.toList_ofList, trimChars_trimChars]

end DeployWizard.Text
