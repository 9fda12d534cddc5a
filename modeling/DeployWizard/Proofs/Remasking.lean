import Mathlib.Tactic.Common
import DeployWizard.Proofs.Masking

set_option autoImplicit false

/-!
Masking a text that was masked. What precedes a password member stays, and the mask begins as the
member did. So an attempt to match that failed still fails: it either fails before the member or
comes to the quotes of its name, which would end any literal that is open there.
-/
namespace DeployWizard.Redaction
open Text

theorem maskFrom_quote_cases (cs : List Char) :
    maskFrom 0 ('"' :: cs) = '"' :: maskFrom 0 cs ∨
      ∃ rest r, cs = passwordName ++ '"' :: rest ∧
        maskFrom 0 ('"' :: cs) = mask ++ maskFrom 0 r := by
  cases hmatch : afterPassword? ('"' :: cs) with
  | none => exact Or.inl (maskFrom_of_none hmatch)
  | some r =>
    have hmask := maskFrom_of_some hmatch
    rw [afterPassword?_eq] at hmatch
    obtain ⟨rest, hkey, -⟩ := Option.bind_eq_some_iff.1 hmatch
    exact Or.inr ⟨rest, r, (List.cons.inj (afterText?_eq_some_iff.1 hkey)).2, hmask⟩

theorem afterLiteral?_name (rest : List Char) :
    afterLiteral? (passwordName ++ '"' :: rest) = some rest :=
  afterLiteral?_append (by decide) (by decide) _

/-- Where a literal is open that has no end, the masker keeps the quotes. -/
theorem maskFrom_cons_of_open {c : Char} {cs : List Char} (h : afterLiteral? cs = none) :
    maskFrom 0 (c :: cs) = c :: maskFrom 0 cs := by
  by_cases hquote : c = '"'
  · subst hquote
    obtain hkept | ⟨rest, r, rfl, -⟩ := maskFrom_quote_cases cs
    · exact hkept
    · rw [afterLiteral?_name] at h
      cases h
  · exact maskFrom_cons hquote cs

theorem afterLiteral?_maskFrom {cs : List Char} (h : afterLiteral? cs = none) :
    afterLiteral? (maskFrom 0 cs) = none := by
  fun_induction afterLiteral? cs with
  | case1 => rfl
  | case2 cs => cases h
  | case3 cs => rfl
  | case4 c cs hfeed ih =>
    have hback : maskFrom 0 ('\\' :: c :: cs) = '\\' :: maskFrom 0 (c :: cs) :=
      maskFrom_cons (by decide) _
    rw [hback, maskFrom_cons_of_open h, afterLiteral?, if_neg hfeed, ih h]
  | case5 => rfl
  | case6 c cs hquote hescape hlone ih =>
    have hback : c ≠ '\\' := by
      rintro rfl
      cases cs with
      | nil => exact hlone rfl rfl
      | cons d cs => exact hescape d cs rfl rfl
    have hplain : afterLiteral? ([c] ++ maskFrom 0 cs) = afterLiteral? (maskFrom 0 cs) :=
      afterLiteral?_append (by simpa using Ne.symm hquote) (by simpa using Ne.symm hback) _
    rw [maskFrom_cons hquote, ← ih h]
    exact hplain

theorem exists_maskFrom_cons (c : Char) (cs : List Char) :
    ∃ cs', maskFrom 0 (c :: cs) = c :: cs' := by
  by_cases hquote : c = '"'
  · subst hquote
    obtain hkept | ⟨rest, r, -, hmask⟩ := maskFrom_quote_cases cs
    · exact ⟨_, hkept⟩
    · exact ⟨_, hmask⟩
  · exact ⟨_, maskFrom_cons hquote cs⟩

theorem dropWhile_maskFrom (cs : List Char) :
    (maskFrom 0 cs).dropWhile isBlank = maskFrom 0 (cs.dropWhile isBlank) := by
  induction cs with
  | nil => rfl
  | cons c cs ih =>
    cases hblank : isBlank c with
    | true =>
      have hquote : c ≠ '"' := by
        rintro rfl
        exact absurd hblank (by decide)
      rw [maskFrom_cons hquote, List.dropWhile_cons_of_pos hblank,
        List.dropWhile_cons_of_pos hblank, ih]
    | false =>
      obtain ⟨cs', hcs'⟩ := exists_maskFrom_cons c cs
      rw [List.dropWhile_cons_of_neg (by simp [hblank]), hcs',
        List.dropWhile_cons_of_neg (by simp [hblank])]

theorem cons_of_maskFrom {c : Char} {cs r : List Char} (h : maskFrom 0 cs = c :: r) :
    ∃ cs', cs = c :: cs' := by
  cases cs with
  | nil => cases h
  | cons d cs =>
    obtain ⟨r', hr'⟩ := exists_maskFrom_cons d cs
    exact ⟨cs, congrArg (· :: cs) (List.cons.inj (hr'.symm.trans h)).1⟩

theorem afterValue?_maskFrom {cs : List Char} (h : afterValue? cs = none) :
    afterValue? (maskFrom 0 cs) = none := by
  by_contra hsome
  obtain ⟨rest, hrest⟩ := Option.ne_none_iff_exists'.1 hsome
  obtain ⟨r, q, hcolon, hquote, hend⟩ := afterValue?_eq_some_iff.1 hrest
  rw [dropWhile_maskFrom] at hcolon
  obtain ⟨r', hr'⟩ := cons_of_maskFrom hcolon
  rw [hr', maskFrom_cons (by decide)] at hcolon
  rw [← (List.cons.inj hcolon).2, dropWhile_maskFrom] at hquote
  obtain ⟨q', hq'⟩ := cons_of_maskFrom hquote
  cases hliteral : afterLiteral? q' with
  | some rest' =>
    rw [afterValue?_eq_some_iff.2 ⟨r', q', hr', hq', hliteral⟩] at h
    cases h
  | none =>
    rw [hq', maskFrom_cons_of_open hliteral] at hquote
    rw [← (List.cons.inj hquote).2, afterLiteral?_maskFrom hliteral] at hend
    cases hend

theorem afterText?_maskFrom {word cs : List Char} (hword : '"' ∉ word)
    (h : afterText? (word ++ ['"']) cs = none) :
    afterText? (word ++ ['"']) (maskFrom 0 cs) = none := by
  induction word generalizing cs with
  | nil =>
    cases cs with
    | nil => rfl
    | cons c cs =>
      obtain ⟨cs', hcs'⟩ := exists_maskFrom_cons c cs
      have hother : '"' ≠ c := by
        rintro rfl
        cases h
      rw [hcs']
      exact afterText?_other hother _ _
  | cons p word ih =>
    rw [List.mem_cons, not_or] at hword
    cases cs with
    | nil => rfl
    | cons c cs =>
      by_cases hsame : p = c
      · subst hsame
        rw [List.cons_append, afterText?_same] at h
        rw [maskFrom_cons (Ne.symm hword.1), List.cons_append, afterText?_same, ih hword.2 h]
      · obtain ⟨cs', hcs'⟩ := exists_maskFrom_cons c cs
        rw [hcs']
        exact afterText?_other hsame _ _

/-- Where no member begins, none begins once the text behind is masked. -/
theorem afterPassword?_maskFrom {c : Char} {cs : List Char} (h : afterPassword? (c :: cs) = none) :
    afterPassword? (c :: maskFrom 0 cs) = none := by
  by_cases hquote : c = '"'
  · subst hquote
    have hname : '"' ∉ passwordName := by decide
    rw [afterPassword?_eq, passwordKey_eq, afterText?_same] at h ⊢
    cases hkey : afterText? (passwordName ++ ['"']) cs with
    | none => rw [afterText?_maskFrom hname hkey, Option.bind_none]
    | some rest =>
      rw [hkey, Option.bind_some] at h
      have hcs := afterText?_eq_some_iff.1 hkey
      rw [List.append_assoc, List.singleton_append] at hcs
      rw [hcs, maskFrom_append hname]
      obtain hkept | ⟨_, r, -, hmask⟩ := maskFrom_quote_cases rest
      · have hafter : afterText? (passwordName ++ ['"']) (passwordName ++ '"' :: maskFrom 0 rest) =
            some (maskFrom 0 rest) := afterText?_eq_some_iff.2 (by simp)
        rw [hkept, hafter, Option.bind_some, afterValue?_maskFrom h]
      · -- The name is followed by the mask, and that is no colon.
        rw [hmask]
        rfl
  · exact afterPassword?_of_ne hquote _

theorem maskFrom_mask_append (cs : List Char) :
    maskFrom 0 (mask ++ cs) = mask ++ maskFrom 0 cs := by
  have hmatch : afterPassword? ('"' :: (mask.tail ++ cs)) = some cs := rfl
  exact maskFrom_of_some hmatch

theorem maskFrom_maskFrom (cs : List Char) : maskFrom 0 (maskFrom 0 cs) = maskFrom 0 cs := by
  induction hlength : cs.length using Nat.strongRecOn generalizing cs with
  | ind n ih =>
    cases cs with
    | nil => rfl
    | cons c cs =>
      rw [List.length_cons] at hlength
      cases hmatch : afterPassword? (c :: cs) with
      | none =>
        rw [maskFrom_of_none hmatch, maskFrom_of_none (afterPassword?_maskFrom hmatch),
          ih cs.length (by omega) cs rfl]
      | some rest =>
        have hshorter := (suffix_of_afterPassword? hmatch).length_le
        rw [maskFrom_of_some hmatch, maskFrom_mask_append, ih rest.length (by omega) rest rfl]

/-- A masked text has nothing more to mask. -/
theorem maskPasswords_idempotent (s : String) :
    maskPasswords (maskPasswords s) = maskPasswords s := by
  rw [maskPasswords, maskPasswords, String.toList_ofList, maskFrom_maskFrom]

end DeployWizard.Redaction
