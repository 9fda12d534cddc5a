import Mathlib.Data.List.TakeWhile
import Mathlib.Tactic.Common
import DeployWizard.Redaction
import DeployWizard.Proofs.JsonLexemes
import DeployWizard.Proofs.JsonText

set_option autoImplicit false

/-!
How the masker passes over a JSON text. A match begins at a quote, so it can begin only where a
literal does, or at an escaped quote inside one, and in both cases it needs a literal that ends
there in the name; so of everything that a literal can hold, only what a secret key is followed by
is masked.
-/
namespace DeployWizard.Redaction
open Text

theorem afterText?_same (p : Char) (ps cs : List Char) :
    afterText? (p :: ps) (p :: cs) = afterText? ps cs :=
  if_pos rfl

theorem afterText?_other {p c : Char} (h : p ≠ c) (ps cs : List Char) :
    afterText? (p :: ps) (c :: cs) = none :=
  if_neg h

theorem afterText?_eq_some_iff {ps cs rest : List Char} :
    afterText? ps cs = some rest ↔ cs = ps ++ rest := by
  induction ps generalizing cs with
  | nil => simp [afterText?]
  | cons p ps ih =>
    cases cs with
    | nil => simp [afterText?]
    | cons c cs =>
      rw [List.cons_append, List.cons.injEq]
      by_cases hsame : p = c
      · rw [hsame, afterText?_same, ih, eq_self, true_and]
      · rw [afterText?_other hsame]
        exact iff_of_false nofun fun h => hsame h.1.symm

theorem suffix_of_afterLiteral? {cs rest : List Char} (h : afterLiteral? cs = some rest) :
    rest <:+ cs := by
  fun_induction afterLiteral? cs with
  | case1 => cases h
  | case2 cs => exact Option.some.inj h ▸ List.suffix_cons _ _
  | case3 cs => cases h
  | case4 c cs _ ih => exact (ih h).trans ((List.suffix_cons _ _).trans (List.suffix_cons _ _))
  | case5 => cases h
  | case6 c cs _ _ _ ih => exact (ih h).trans (List.suffix_cons _ _)

def afterValue? (cs : List Char) : Option (List Char) :=
  match cs.dropWhile isBlank with
  | ':' :: r =>
    match r.dropWhile isBlank with
    | '"' :: r => afterLiteral? r
    | _ => none
  | _ => none

theorem afterPassword?_eq (cs : List Char) :
    afterPassword? cs = (afterText? passwordKey cs).bind afterValue? := by
  unfold afterPassword?
  cases afterText? passwordKey cs with
  | none => rfl
  | some r => rfl

theorem afterValue?_eq_some_iff {cs rest : List Char} :
    afterValue? cs = some rest ↔ ∃ r q, cs.dropWhile isBlank = ':' :: r ∧
      r.dropWhile isBlank = '"' :: q ∧ afterLiteral? q = some rest := by
  constructor
  · intro h
    unfold afterValue? at h
    split at h
    next r hcolon =>
      split at h
      next q hquote => exact ⟨r, q, hcolon, hquote, h⟩
      next => cases h
    next => cases h
  · rintro ⟨r, q, hcolon, hquote, hend⟩
    simp only [afterValue?, hcolon, hquote, hend]

theorem suffix_of_afterValue? {cs rest : List Char} (h : afterValue? cs = some rest) :
    rest <:+ cs := by
  obtain ⟨r, q, hcolon, hquote, hend⟩ := afterValue?_eq_some_iff.1 h
  have hr : r <:+ cs := (List.suffix_cons _ _).trans (hcolon ▸ List.dropWhile_suffix _)
  have hq : q <:+ r := (List.suffix_cons _ _).trans (hquote ▸ List.dropWhile_suffix _)
  exact (suffix_of_afterLiteral? hend).trans (hq.trans hr)

theorem suffix_of_afterPassword? {c : Char} {cs rest : List Char}
    (h : afterPassword? (c :: cs) = some rest) : rest <:+ cs := by
  rw [afterPassword?_eq] at h
  obtain ⟨r, hr, hrest⟩ := Option.bind_eq_some_iff.1 h
  have hcs : cs = passwordKey.tail ++ r := (List.cons.inj (afterText?_eq_some_iff.1 hr)).2
  rw [hcs]
  exact (suffix_of_afterValue? hrest).trans (List.suffix_append _ _)

theorem maskFrom_eq_drop (skip : Nat) (cs : List Char) :
    maskFrom skip cs = maskFrom 0 (cs.drop skip) := by
  induction cs generalizing skip with
  | nil => cases skip <;> rfl
  | cons c cs ih =>
    cases skip with
    | zero => rfl
    | succ skip => rw [maskFrom, ih, List.drop_succ_cons]

theorem maskFrom_of_none {c : Char} {cs : List Char} (h : afterPassword? (c :: cs) = none) :
    maskFrom 0 (c :: cs) = c :: maskFrom 0 cs := by
  rw [maskFrom, h]

theorem maskFrom_of_some {c : Char} {cs rest : List Char}
    (h : afterPassword? (c :: cs) = some rest) :
    maskFrom 0 (c :: cs) = mask ++ maskFrom 0 rest := by
  -- The count of skipped characters is a difference of lengths, so it needs the rest as a suffix.
  have hsuffix := suffix_of_afterPassword? h
  rw [maskFrom, h]
  change mask ++ maskFrom (cs.length - rest.length) cs = _
  rw [maskFrom_eq_drop, ← List.suffix_iff_eq_drop.1 hsuffix]

theorem afterPassword?_of_ne {c : Char} (h : c ≠ '"') (cs : List Char) :
    afterPassword? (c :: cs) = none := by
  have hkey : afterText? passwordKey (c :: cs) = none := afterText?_other h.symm _ _
  rw [afterPassword?_eq, hkey, Option.bind_none]

theorem afterPassword?_closing {rest : List Char} (h : rest.head? ≠ some 'p') :
    afterPassword? ('"' :: rest) = none := by
  cases rest with
  | nil => rfl
  | cons c rest =>
    have hc : 'p' ≠ c := fun hsame => h (congrArg some hsame.symm)
    have hkey : afterText? passwordKey ('"' :: c :: rest) = none := afterText?_other hc _ _
    rw [afterPassword?_eq, hkey, Option.bind_none]

theorem maskFrom_cons {c : Char} (h : c ≠ '"') (cs : List Char) :
    maskFrom 0 (c :: cs) = c :: maskFrom 0 cs :=
  maskFrom_of_none (afterPassword?_of_ne h cs)

theorem maskFrom_append {cs : List Char} (h : '"' ∉ cs) (rest : List Char) :
    maskFrom 0 (cs ++ rest) = cs ++ maskFrom 0 rest := by
  induction cs with
  | nil => rfl
  | cons c cs ih =>
    rw [List.mem_cons, not_or] at h
    rw [List.cons_append, maskFrom_cons (Ne.symm h.1), ih h.2, List.cons_append]

def passwordName : List Char := "password".toList

theorem passwordKey_eq : passwordKey = '"' :: (passwordName ++ ['"']) := by decide

open Json (Body Piece)

/-- A piece of a literal is no quote and no backslash, an escaped quote, or something behind a
backslash that is no line feed, without quotes. -/
theorem spelledBy_cases {p : Piece} {cs : List Char} (h : p.SpelledBy cs) :
    (∃ c, p = .char c ∧ cs = [c] ∧ c ≠ '"' ∧ c ≠ '\\') ∨ (p = .char '"' ∧ cs = ['\\', '"']) ∨
      ∃ d ds, cs = '\\' :: d :: ds ∧ d ≠ '\n' ∧ '"' ∉ d :: ds ∧ '\\' ∉ ds := by
  cases h with
  | @plain c hquote hback => exact Or.inl ⟨c, rfl, rfl, hquote, hback⟩
  | @escape c d h =>
    by_cases hquote : c = '"'
    · subst hquote
      cases h
      exact Or.inr (Or.inl ⟨rfl, rfl⟩)
    · have hfeed : c ≠ '\n' := by
        rintro rfl
        cases h
      exact Or.inr (Or.inr ⟨c, [], rfl, hfeed, by simpa using Ne.symm hquote, by simp⟩)
  | @code a b c d _ _ _ _ ha hb hc hd =>
    have hdigit {x : Char} {n : Nat} (hx : hexValue? x = some n) : '"' ≠ x ∧ '\\' ≠ x :=
      ⟨(by rintro rfl; cases hx), (by rintro rfl; cases hx)⟩
    refine Or.inr (Or.inr ⟨'u', [a, b, c, d], rfl, by decide, ?_, ?_⟩)
    · simp [hdigit ha, hdigit hb, hdigit hc, hdigit hd]
    · simp [hdigit ha, hdigit hb, hdigit hc, hdigit hd]

theorem afterLiteral?_append {cs : List Char} (hquote : '"' ∉ cs) (hback : '\\' ∉ cs)
    (rest : List Char) : afterLiteral? (cs ++ rest) = afterLiteral? rest := by
  induction cs with
  | nil => rfl
  | cons c cs ih =>
    rw [List.mem_cons, not_or] at hquote hback
    rw [List.cons_append, afterLiteral?, ih hquote.2 hback.2]
    · exact Ne.symm hquote.1
    · exact fun _ _ h _ => hback.1 h.symm
    · exact fun h _ => hback.1 h.symm

theorem afterLiteral?_body {b : List Char} {ps : List Piece} (h : Body b ps) (rest : List Char) :
    afterLiteral? (b ++ '"' :: rest) = some rest := by
  induction h with
  | nil => rfl
  | cons hp h ih =>
    rw [List.append_assoc]
    obtain ⟨c, -, rfl, hquote, hback⟩ | ⟨-, rfl⟩ | ⟨d, ds, rfl, hfeed, hquote, hback⟩ :=
      spelledBy_cases hp
    · rw [afterLiteral?_append (by simpa using hquote.symm) (by simpa using hback.symm), ih]
    · exact ih
    · rw [List.cons_append, List.cons_append, afterLiteral?, if_neg hfeed,
        afterLiteral?_append (List.not_mem_of_not_mem_cons hquote) hback, ih]

/-- A match begins at a quote with a literal behind it only if that literal is the name. -/
theorem afterPassword?_body {b : List Char} {ps : List Piece} (h : Body b ps) (rest : List Char) :
    afterPassword? ('"' :: (b ++ '"' :: rest)) =
      if b = passwordName then afterValue? rest else none := by
  rw [afterPassword?_eq, passwordKey_eq, afterText?_same]
  cases hname : afterText? (passwordName ++ ['"']) (b ++ '"' :: rest) with
  | none =>
    rw [Option.bind_none, if_neg]
    rintro rfl
    have hsome : afterText? (passwordName ++ ['"']) (passwordName ++ '"' :: rest) = some rest :=
      afterText?_eq_some_iff.2 (by simp)
    rw [hsome] at hname
    cases hname
  | some r =>
    -- Both the literal and the name end at their quotes, so they are the same.
    have hsame : b ++ '"' :: rest = passwordName ++ '"' :: r := by
      simpa using afterText?_eq_some_iff.1 hname
    have hrest := afterLiteral?_body h rest
    rw [hsame, afterLiteral?_append (by decide) (by decide)] at hrest
    obtain rfl : r = rest := Option.some.inj hrest
    rw [if_pos (List.append_cancel_right hsame), Option.bind_some]

def endsInName (cs : List Char) : Bool :=
  ('"' :: passwordName).isSuffixOf cs

theorem endsInName_quote (cs : List Char) :
    endsInName ('"' :: cs) = (decide (cs = passwordName) || endsInName cs) := by
  rw [Bool.eq_iff_iff, endsInName, endsInName, Bool.or_eq_true, List.isSuffixOf_iff_suffix,
    List.isSuffixOf_iff_suffix, List.suffix_cons_iff, List.cons.injEq, eq_self, true_and,
    decide_eq_true_eq, eq_comm]

theorem endsInName_cons {c : Char} (h : c ≠ '"') (cs : List Char) :
    endsInName (c :: cs) = endsInName cs := by
  rw [Bool.eq_iff_iff, endsInName, endsInName, List.isSuffixOf_iff_suffix,
    List.isSuffixOf_iff_suffix, List.suffix_cons_iff, List.cons.injEq]
  exact or_iff_right fun hsame => h hsame.1.symm

def maskedValue : List Char := ":\"******\"".toList

/-- What becomes of the text after a literal, by whether the literal ends in the name. -/
def maskAfter (secret : Bool) (rest : List Char) : List Char :=
  match if secret then afterValue? rest else none with
  | some r => maskedValue ++ maskFrom 0 r
  | none => maskFrom 0 rest

theorem maskAfter_of_none {rest : List Char} (h : afterValue? rest = none) (secret : Bool) :
    maskAfter secret rest = maskFrom 0 rest := by
  cases secret <;> simp [maskAfter, h]

theorem maskAfter_of_some {rest r : List Char} (h : afterValue? rest = some r) :
    maskAfter true rest = maskedValue ++ maskFrom 0 r := by
  simp [maskAfter, h]

theorem maskFrom_quote {b : List Char} {ps : List Piece} (hb : Body b ps) {rest : List Char}
    (h : maskFrom 0 (b ++ '"' :: rest) = b ++ '"' :: maskAfter (endsInName b) rest) :
    maskFrom 0 ('"' :: (b ++ '"' :: rest)) =
      '"' :: (b ++ '"' :: maskAfter (endsInName ('"' :: b)) rest) := by
  have hmatch := afterPassword?_body hb rest
  rw [endsInName_quote]
  by_cases hname : b = passwordName
  · rw [if_pos hname] at hmatch
    rw [decide_eq_true hname, Bool.true_or]
    cases hvalue : afterValue? rest with
    | none =>
      rw [hvalue] at hmatch
      rw [maskFrom_of_none hmatch, h, maskAfter_of_none hvalue, maskAfter_of_none hvalue]
    | some r =>
      rw [hvalue] at hmatch
      have hmask : mask = '"' :: (passwordName ++ '"' :: maskedValue) := by decide
      rw [maskFrom_of_some hmatch, maskAfter_of_some hvalue, hmask, hname]
      simp only [List.cons_append, List.append_assoc]
  · rw [if_neg hname] at hmatch
    rw [decide_eq_false hname, Bool.false_or, maskFrom_of_none hmatch, h]

theorem endsInName_append {cs : List Char} (h : '"' ∉ cs) (b : List Char) :
    endsInName (cs ++ b) = endsInName b := by
  induction cs with
  | nil => rfl
  | cons c cs ih =>
    rw [List.mem_cons, not_or] at h
    rw [List.cons_append, endsInName_cons (Ne.symm h.1), ih h.2]

theorem maskFrom_body {b : List Char} {ps : List Piece} (h : Body b ps) {rest : List Char}
    (hrest : rest.head? ≠ some 'p') :
    maskFrom 0 (b ++ '"' :: rest) = b ++ '"' :: maskAfter (endsInName b) rest := by
  induction h with
  | nil =>
    rw [List.nil_append, maskFrom_of_none (afterPassword?_closing hrest)]
    rfl
  | @cons _ b _ _ hp h ih =>
    have hplain {cs : List Char} (hcs : '"' ∉ cs) :
        maskFrom 0 (cs ++ b ++ '"' :: rest) =
          cs ++ b ++ '"' :: maskAfter (endsInName (cs ++ b)) rest := by
      rw [List.append_assoc, maskFrom_append hcs, ih, endsInName_append hcs, List.append_assoc]
    obtain ⟨c, -, rfl, hquote, -⟩ | ⟨-, rfl⟩ | ⟨d, ds, rfl, -, hquote, -⟩ := spelledBy_cases hp
    · exact hplain (by simpa using hquote.symm)
    -- An escaped quote is the only place inside a literal where a match can begin.
    · have hback : endsInName ('\\' :: '"' :: b) = endsInName ('"' :: b) :=
        endsInName_cons (by decide) _
      simp only [List.cons_append, List.nil_append]
      rw [maskFrom_cons (by decide), maskFrom_quote h ih, hback]
    · exact hplain (List.not_mem_cons_of_ne_of_not_mem (by decide) hquote)

/-- A literal stays as it is, whatever it holds; after a secret key its value is masked. -/
theorem maskFrom_literal (l : Json.Literal) {rest : List Char} (hrest : rest.head? ≠ some 'p') :
    maskFrom 0 (l.chars ++ rest) = l.chars ++ maskAfter (endsInName ('"' :: l.body)) rest := by
  simp only [Json.Literal.chars, List.cons_append, List.append_assoc, List.nil_append]
  exact maskFrom_quote l.spelled (maskFrom_body l.spelled hrest)

theorem pieces_eq_map {b : List Char} {ps : List Piece} (h : Body b ps) (hback : '\\' ∉ b) :
    ps = b.map .char := by
  induction h with
  | nil => rfl
  | cons hp h ih =>
    rw [List.mem_append, not_or] at hback
    obtain ⟨c, rfl, rfl, -⟩ | ⟨-, rfl⟩ | ⟨d, ds, rfl, -⟩ := spelledBy_cases hp
    · rw [ih hback.2, List.map_append, List.map_singleton, List.singleton_append]
    · exact absurd List.mem_cons_self hback.1
    · exact absurd List.mem_cons_self hback.1

open Json (escapeChar)

theorem escaped_eq_passwordName_iff {cs : List Char} :
    cs.flatMap escapeChar = passwordName ↔ cs = passwordName := by
  constructor
  · intro h
    have hpieces := pieces_eq_map (Json.body_escaped cs) (h ▸ by decide)
    rw [h] at hpieces
    exact List.map_inj_right (fun _ _ => Piece.char.inj) |>.1 hpieces
  · rintro rfl
    decide

theorem endsInName_escaped (cs : List Char) :
    endsInName (cs.flatMap escapeChar) = endsInName cs := by
  induction cs with
  | nil => rfl
  | cons c cs ih =>
    have hplain (h : c ≠ '"') (hescape : '"' ∉ escapeChar c) :
        endsInName ((c :: cs).flatMap escapeChar) = endsInName (c :: cs) := by
      rw [List.flatMap_cons, endsInName_append hescape, ih, endsInName_cons h]
    obtain ⟨d, hd, hc, hquote, -⟩ | ⟨hd, hc⟩ | ⟨d, ds, hc, -, hquote, -⟩ :=
      spelledBy_cases (Json.spelledBy_escapeChar c)
    · obtain rfl := Piece.char.inj hd
      exact hplain hquote (by simpa [hc] using hquote.symm)
    · obtain rfl := Piece.char.inj hd
      rw [List.flatMap_cons, hc, endsInName_quote]
      have hback : endsInName (['\\', '"'] ++ cs.flatMap escapeChar) =
          endsInName ('"' :: cs.flatMap escapeChar) := endsInName_cons (by decide) _
      rw [hback, endsInName_quote, ih, decide_eq_decide.2 escaped_eq_passwordName_iff]
    · refine hplain ?_ (hc ▸ List.not_mem_cons_of_ne_of_not_mem (by decide) hquote)
      rintro rfl
      rw [← (List.cons.inj hc).2] at hquote
      exact hquote List.mem_cons_self

def isSecret (key : String) : Bool :=
  endsInName ('"' :: key.toList)

theorem isSecret_eq (key : String) :
    isSecret key = endsInName ('"' :: key.toList.flatMap escapeChar) := by
  rw [isSecret, endsInName_quote, endsInName_quote, endsInName_escaped,
    decide_eq_decide.2 escaped_eq_passwordName_iff]

theorem maskFrom_quoted (s : String) {rest : List Char} (hrest : rest.head? ≠ some 'p') :
    maskFrom 0 (Json.quoted s ++ rest) = Json.quoted s ++ maskAfter (isSecret s) rest := by
  rw [isSecret_eq]
  exact maskFrom_literal (.ofText s) hrest

end DeployWizard.Redaction
