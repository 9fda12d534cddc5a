import Mathlib.Tactic.Common
import DeployWizard.Proofs.LoggedPayload
import DeployWizard.Proofs.Remasking

set_option autoImplicit false

/-!
What the masker makes of a JSON text. It knows nothing of the lexemes, but a match that begins at
the opening quote of a literal or at an escaped quote in it takes in whole lexemes: the rest of a
key, its colon and a literal. So it turns the text of a tree into that of the masked tree.
-/
namespace DeployWizard

namespace Json
open Redaction

def Literal.hidden : Literal :=
  .ofText placeholder

/-- Whether the masker takes the end of the literal for the name. -/
def Literal.isSecret (k : Literal) : Bool :=
  endsInName ('"' :: k.body)

/-- The key is the name, or it ends in a quote and the name. -/
def Literal.NamesPassword (k : Literal) : Prop :=
  k.pieces = passwordName.map .char ∨ ('"' :: passwordName).map .char <:+ k.pieces

namespace Tree

def isLiteral : Tree → Bool
  | .literal _ => true
  | _ => false

mutual
def masked : Tree → Tree
  | .array ws => .array (maskedItems ws)
  | .object ms => .object (maskedMembers ms)
  | w => w

def maskedItems : List Tree → List Tree
  | [] => []
  | w :: ws => masked w :: maskedItems ws

def maskedMembers : List (Literal × Tree) → List (Literal × Tree)
  | [] => []
  | (k, w) :: ms =>
    (k, if k.isSecret && isLiteral w then .literal .hidden else masked w) :: maskedMembers ms
end

inductive HasMember : Tree → Literal → Tree → Prop where
  | here {ms : List (Literal × Tree)} {k : Literal} {v : Tree} (h : (k, v) ∈ ms) :
      HasMember (.object ms) k v
  | item {ws : List Tree} {w v : Tree} {k : Literal} (hw : w ∈ ws) (h : HasMember w k v) :
      HasMember (.array ws) k v
  | member {ms : List (Literal × Tree)} {m : Literal × Tree} {k : Literal} {v : Tree}
      (hm : m ∈ ms) (h : HasMember m.2 k v) : HasMember (.object ms) k v

/-- The second tree is the first one, but for literals hidden in members whose keys name the
password. -/
inductive Conceals : Tree → Tree → Prop where
  | scalar (s : Scalar) : Conceals (.scalar s) (.scalar s)
  | literal (l : Literal) : Conceals (.literal l) (.literal l)
  | noItems : Conceals (.array []) (.array [])
  | item {w w' : Tree} {ws ws' : List Tree} (h : Conceals w w')
      (hrest : Conceals (.array ws) (.array ws')) : Conceals (.array (w :: ws)) (.array (w' :: ws'))
  | noMembers : Conceals (.object []) (.object [])
  | member {k : Literal} {w w' : Tree} {ms ms' : List (Literal × Tree)} (h : Conceals w w')
      (hrest : Conceals (.object ms) (.object ms')) :
      Conceals (.object ((k, w) :: ms)) (.object ((k, w') :: ms'))
  | hidden {k l : Literal} {ms ms' : List (Literal × Tree)} (hk : k.NamesPassword)
      (hrest : Conceals (.object ms) (.object ms')) :
      Conceals (.object ((k, .literal l) :: ms)) (.object ((k, .literal .hidden) :: ms'))

end Tree

end Json

namespace Redaction
open Json

theorem isBlank_of_isSpace {c : Char} (h : Scan.isSpace c = true) : Text.isBlank c = true := by
  simp only [Scan.isSpace, Bool.or_eq_true, decide_eq_true_eq] at h
  obtain ((rfl | rfl) | rfl) | rfl := h <;> rfl

theorem ne_quote_of_isSpace {c : Char} (h : Scan.isSpace c = true) : c ≠ '"' := by
  rintro rfl
  cases h

theorem exists_chars_cons (l : Lexeme) :
    ∃ c cs, l.chars = c :: cs ∧ Text.isBlank c = false ∧ c ≠ 'p' ∧
      (c = '"' → ∃ k, l = .literal k) ∧ (c = ':' → l = .mark .colon) := by
  cases l with
  | mark m =>
    cases m <;> exact ⟨_, _, rfl, by decide, by decide, by simp [Mark.char], by simp [Mark.char]⟩
  | scalar s =>
    cases s with
    | word cs t h =>
      obtain ⟨rfl, -⟩ | ⟨rfl, -⟩ | ⟨rfl, -⟩ := Scan.wordToken?_cases h <;>
        exact ⟨_, _, rfl, by decide, by decide, by simp, by simp⟩
    | number c cs n hfirst hrest h =>
      obtain hdigit | hminus := Bool.or_eq_true_iff.1 hfirst
      · refine ⟨c, cs, rfl, (ne_of_isAsciiDigit hdigit).1, ?_, ?_, ?_⟩ <;> rintro rfl <;>
          cases hdigit
      · obtain rfl := of_decide_eq_true hminus
        exact ⟨_, _, rfl, by decide, by decide, by simp, by simp⟩
  | literal l => exact ⟨_, _, rfl, by decide, by decide, fun _ => ⟨l, rfl⟩, by simp⟩

theorem quote_notMem_chars {l : Lexeme} (h : ∀ k, l ≠ .literal k) : '"' ∉ l.chars := by
  cases l with
  | mark m => cases m <;> decide
  | scalar s =>
    cases s with
    | word cs t hword =>
      obtain ⟨rfl, -⟩ | ⟨rfl, -⟩ | ⟨rfl, -⟩ := Scan.wordToken?_cases hword <;>
        simp [Lexeme.chars, Scalar.chars]
    | number c cs n hfirst hrest h =>
      have hquote : Scan.isNumberChar '"' = false := rfl
      refine List.not_mem_cons_of_ne_of_not_mem ?_ fun hmem => ?_
      · rintro rfl
        cases hfirst
      · rw [hrest _ hmem] at hquote
        cases hquote
  | literal k => exact absurd rfl (h k)

theorem head?_ne_of_spaced {ls : List Lexeme} {cs : List Char} (h : Spaced ls cs) :
    cs.head? ≠ some 'p' := by
  cases h with
  | nil => exact nofun
  | space hc h =>
    intro hp
    rw [Option.some.inj hp] at hc
    cases hc
  | lexeme l hends h =>
    obtain ⟨c, cs, hl, -, hp, -⟩ := exists_chars_cons l
    rw [hl]
    exact fun hc => hp (Option.some.inj hc)

theorem dropWhile_spaced {ls : List Lexeme} {cs : List Char} (h : Spaced ls cs) :
    (ls = [] ∧ cs.dropWhile Text.isBlank = []) ∨
      ∃ l ls' rest, ls = l :: ls' ∧ cs.dropWhile Text.isBlank = l.chars ++ rest ∧
        Spaced ls' rest := by
  induction h with
  | nil => exact Or.inl ⟨rfl, rfl⟩
  | space hspace h ih =>
    rw [List.dropWhile_cons_of_pos (isBlank_of_isSpace hspace)]
    exact ih
  | @lexeme ls cs l hends h ih =>
    obtain ⟨c, cs', hl, hblank, -⟩ := exists_chars_cons l
    refine Or.inr ⟨l, ls, cs, rfl, ?_, h⟩
    rw [hl, List.cons_append, List.dropWhile_cons_of_neg (by simp [hblank])]

theorem exists_of_spaced_cons {l : Lexeme} {ls : List Lexeme} {cs : List Char}
    (h : Spaced (l :: ls) cs) :
    ∃ rest, cs.dropWhile Text.isBlank = l.chars ++ rest ∧ Spaced ls rest := by
  obtain ⟨hnil, -⟩ | ⟨l', ls', rest, hls, hdrop, hrest⟩ := dropWhile_spaced h
  · cases hnil
  · obtain ⟨rfl, rfl⟩ := List.cons.inj hls
    exact ⟨rest, hdrop, hrest⟩

theorem afterValue?_of_literal {l : Literal} {ls : List Lexeme} {cs : List Char}
    (h : Spaced (.mark .colon :: .literal l :: ls) cs) :
    ∃ rest, afterValue? cs = some rest ∧ Spaced ls rest := by
  obtain ⟨r, hcolon, hr⟩ := exists_of_spaced_cons h
  obtain ⟨q, hquote, hq⟩ := exists_of_spaced_cons hr
  rw [Lexeme.chars, Literal.chars, List.cons_append, List.append_assoc] at hquote
  exact ⟨q, afterValue?_eq_some_iff.2 ⟨r, _, hcolon, hquote, afterLiteral?_body l.spelled q⟩, hq⟩

theorem exists_of_dropWhile {ls : List Lexeme} {cs r : List Char} {c : Char} (h : Spaced ls cs)
    (hc : cs.dropWhile Text.isBlank = c :: r) :
    ∃ l ls' cs' rest, ls = l :: ls' ∧ l.chars = c :: cs' ∧ r = cs' ++ rest ∧ Spaced ls' rest := by
  obtain ⟨-, hnil⟩ | ⟨l, ls', rest, rfl, hdrop, hrest⟩ := dropWhile_spaced h
  · cases hc.symm.trans hnil
  · obtain ⟨d, cs', hl, -⟩ := exists_chars_cons l
    rw [hc, hl, List.cons_append] at hdrop
    obtain ⟨rfl, rfl⟩ := List.cons.inj hdrop
    exact ⟨l, ls', cs', rest, rfl, hl, rfl, hrest⟩

theorem eq_colon_of_chars {l : Lexeme} {cs : List Char} (h : l.chars = ':' :: cs) :
    l = .mark .colon ∧ cs = [] := by
  obtain ⟨c, cs', hl, -, -, -, hcolon⟩ := exists_chars_cons l
  obtain ⟨rfl, rfl⟩ := List.cons.inj (h.symm.trans hl)
  obtain rfl := hcolon rfl
  exact ⟨rfl, (List.cons.inj h).2.symm⟩

theorem exists_literal_of_chars {l : Lexeme} {cs : List Char} (h : l.chars = '"' :: cs) :
    ∃ k, l = .literal k := by
  obtain ⟨c, cs', hl, -, -, hquote, -⟩ := exists_chars_cons l
  exact hquote (List.cons.inj (hl.symm.trans h)).1

theorem afterValue?_of_no_literal {ls : List Lexeme} {cs : List Char} (h : Spaced ls cs)
    (hls : ∀ l ls', ls ≠ .mark .colon :: .literal l :: ls') : afterValue? cs = none := by
  by_contra hsome
  obtain ⟨rest, hrest⟩ := Option.ne_none_iff_exists'.1 hsome
  obtain ⟨r, q, hcolon, hquote, -⟩ := afterValue?_eq_some_iff.1 hrest
  obtain ⟨l, ls, cs', r', rfl, hl, rfl, hr⟩ := exists_of_dropWhile h hcolon
  obtain ⟨rfl, rfl⟩ := eq_colon_of_chars hl
  obtain ⟨l, ls, cs', q', rfl, hl, -⟩ := exists_of_dropWhile hr hquote
  obtain ⟨k, rfl⟩ := exists_literal_of_chars hl
  exact hls k ls rfl

def Becomes (ls ls' : List Lexeme) : Prop :=
  ∀ cs, Spaced ls cs → Spaced ls' (maskFrom 0 cs)

theorem becomes_nil : Becomes [] [] := by
  intro cs h
  generalize hls : ([] : List Lexeme) = ls at h
  induction h with
  | nil => exact .nil
  | space hc h ih =>
    rw [maskFrom_cons (ne_quote_of_isSpace hc)]
    exact .space hc (ih hls)
  | lexeme l hends h => cases hls

theorem becomes_cons {l : Lexeme} {ls ls' : List Lexeme}
    (h : ∀ cs, (∀ c ∈ cs.head?, l.goesOn c = false) → Spaced ls cs →
      Spaced ls' (maskFrom 0 (l.chars ++ cs))) : Becomes (l :: ls) ls' := by
  intro cs hcs
  generalize hall : l :: ls = all at hcs
  induction hcs with
  | nil => cases hall
  | space hc _ ih =>
    rw [maskFrom_cons (ne_quote_of_isSpace hc)]
    exact .space hc (ih hall)
  | lexeme l' hends hls =>
    obtain ⟨rfl, rfl⟩ := List.cons.inj hall
    exact h _ hends hls

theorem head?_maskFrom (cs : List Char) : (maskFrom 0 cs).head? = cs.head? := by
  cases cs with
  | nil => rfl
  | cons c cs =>
    obtain ⟨cs', hcs'⟩ := exists_maskFrom_cons c cs
    rw [hcs', List.head?_cons, List.head?_cons]

theorem Becomes.plain {ls ls' : List Lexeme} (h : Becomes ls ls') {l : Lexeme}
    (hl : ∀ k, l ≠ .literal k) : Becomes (l :: ls) (l :: ls') := by
  refine becomes_cons fun cs hends hcs => ?_
  rw [maskFrom_append (quote_notMem_chars hl)]
  exact .lexeme l (by rwa [head?_maskFrom]) (h cs hcs)

theorem Becomes.mark {ls ls' : List Lexeme} (h : Becomes ls ls') (m : Mark) :
    Becomes (.mark m :: ls) (.mark m :: ls') :=
  h.plain fun _ hk => Lexeme.noConfusion hk

/-- A literal stays, unless it is a secret key of a literal. -/
theorem Becomes.literal {ls ls' : List Lexeme} (h : Becomes ls ls') (k : Literal)
    (hk : k.isSecret = true → ∀ l ls₁, ls ≠ .mark .colon :: .literal l :: ls₁) :
    Becomes (.literal k :: ls) (.literal k :: ls') := by
  refine becomes_cons fun cs _ hcs => ?_
  have hkept : maskAfter (endsInName ('"' :: k.body)) cs = maskFrom 0 cs := by
    cases hsecret : endsInName ('"' :: k.body) with
    | true => exact maskAfter_of_none (afterValue?_of_no_literal hcs (hk hsecret)) true
    | false => rfl
  rw [Lexeme.chars, maskFrom_literal k (head?_ne_of_spaced hcs), hkept]
  exact spaced_literal k (h cs hcs)

theorem Becomes.secret {ls ls' : List Lexeme} (h : Becomes ls ls') {k : Literal}
    (hk : k.isSecret = true) (l : Literal) :
    Becomes (.literal k :: .mark .colon :: .literal l :: ls)
      (.literal k :: .mark .colon :: .literal .hidden :: ls') := by
  refine becomes_cons fun cs _ hcs => ?_
  obtain ⟨rest, hvalue, hrest⟩ := afterValue?_of_literal hcs
  rw [Lexeme.chars, maskFrom_literal k (head?_ne_of_spaced hcs), ← Literal.isSecret, hk,
    maskAfter_of_some hvalue, maskedValue_eq]
  exact spaced_literal k (spaced_mark .colon (spaced_literal .hidden (h rest hrest)))

def EndsValue (ls : List Lexeme) : Prop :=
  ∀ ls', ls ≠ .mark .colon :: ls'

/-- Masking a text in which a tree is spelled leaves one in which the masked tree is. -/
def MasksTree (w : Tree) : Prop :=
  ∀ {ls ls' : List Lexeme}, Becomes ls ls' → EndsValue ls →
    Becomes (w.lexemes ++ ls) (w.masked.lexemes ++ ls')

theorem endsValue_parts (parts : List (List Lexeme)) (m : Mark) (hm : m ≠ .colon)
    (ls : List Lexeme) : EndsValue (parts.flatMap (.mark .comma :: ·) ++ .mark m :: ls) := by
  intro ls' h
  cases parts with
  | nil => exact hm (Lexeme.mark.inj (List.cons.inj h).1)
  | cons part parts => cases (List.cons.inj h).1

theorem becomes_items {ws : List Tree} (h : ∀ w ∈ ws, MasksTree w) {ls ls' : List Lexeme}
    (hls : Becomes ls ls') :
    Becomes ((Tree.itemParts ws).flatMap (.mark .comma :: ·) ++ .mark .closeArray :: ls)
      ((Tree.itemParts (Tree.maskedItems ws)).flatMap (.mark .comma :: ·) ++
        .mark .closeArray :: ls') := by
  induction ws with
  | nil => exact hls.mark .closeArray
  | cons w ws ih =>
    obtain ⟨hw, hws⟩ := List.forall_mem_cons.1 h
    simp only [Tree.maskedItems, Tree.itemParts, List.flatMap_cons, List.cons_append,
      List.append_assoc]
    exact (hw (ih hws) (endsValue_parts _ .closeArray (by decide) ls)).mark .comma

theorem becomes_member (k : Literal) {w : Tree} (hw : MasksTree w) {ls ls' : List Lexeme}
    (hls : Becomes ls ls') (hends : EndsValue ls) :
    Becomes (.literal k :: .mark .colon :: (w.lexemes ++ ls))
      (.literal k :: .mark .colon :: ((if k.isSecret && w.isLiteral then Tree.literal .hidden
        else w.masked).lexemes ++ ls')) := by
  cases hhidden : k.isSecret && w.isLiteral with
  | true =>
    obtain ⟨hsecret, hliteral⟩ := Bool.and_eq_true_iff.1 hhidden
    cases w with
    | literal l => exact hls.secret hsecret l
    | _ => cases hliteral
  | false =>
    -- A match that begins in the key needs a literal behind the colon.
    refine ((hw hls hends).mark .colon).literal k fun hsecret l ls₁ hvalue => ?_
    have hliteral : w.isLiteral = false := by simpa [hsecret] using hhidden
    obtain ⟨-, hvalue⟩ := List.cons.inj hvalue
    cases w with
    | scalar s => cases hvalue
    | literal l => cases hliteral
    | array ws => cases hvalue
    | object ms => cases hvalue

theorem becomes_members {ms : List (Literal × Tree)} (h : ∀ m ∈ ms, MasksTree m.2)
    {ls ls' : List Lexeme} (hls : Becomes ls ls') :
    Becomes ((Tree.memberParts ms).flatMap (.mark .comma :: ·) ++ .mark .closeObject :: ls)
      ((Tree.memberParts (Tree.maskedMembers ms)).flatMap (.mark .comma :: ·) ++
        .mark .closeObject :: ls') := by
  induction ms with
  | nil => exact hls.mark .closeObject
  | cons m ms ih =>
    obtain ⟨k, w⟩ := m
    obtain ⟨hw, hms⟩ := List.forall_mem_cons.1 h
    have hmember := becomes_member k hw (ih hms) (endsValue_parts _ .closeObject (by decide) ls)
    simp only [Tree.maskedMembers, Tree.memberParts, List.flatMap_cons, List.cons_append,
      List.append_assoc]
    exact hmember.mark .comma

theorem masksTree (w : Tree) : MasksTree w := by
  induction w using Tree.parts_induction with
  | scalar s => exact fun hls _ => hls.plain fun _ hk => Lexeme.noConfusion hk
  | literal l => exact fun hls hends => hls.literal l fun _ _ _ => hends _
  | array ws ih =>
    intro ls ls' hls _
    cases ws with
    | nil => exact (hls.mark .closeArray).mark .openArray
    | cons w ws =>
      obtain ⟨hw, hws⟩ := List.forall_mem_cons.1 ih
      have hitems := hw (becomes_items hws hls) (endsValue_parts _ .closeArray (by decide) ls)
      simp only [Tree.masked, Tree.maskedItems, Tree.lexemes, Tree.itemParts, Tree.separated,
        List.cons_append, List.append_assoc]
      exact hitems.mark .openArray
  | object ms ih =>
    intro ls ls' hls _
    cases ms with
    | nil => exact (hls.mark .closeObject).mark .openObject
    | cons m ms =>
      obtain ⟨k, w⟩ := m
      obtain ⟨hw, hms⟩ := List.forall_mem_cons.1 ih
      have hmembers := becomes_member k hw (becomes_members hms hls)
        (endsValue_parts _ .closeObject (by decide) ls)
      simp only [Tree.masked, Tree.maskedMembers, Tree.lexemes, Tree.memberParts, Tree.separated,
        List.cons_append, List.append_assoc]
      exact hmembers.mark .openObject

theorem spells_masked {w : Tree} {t : String} (h : w.Spells t) :
    w.masked.Spells (maskPasswords t) := by
  have hall : Becomes (w.lexemes ++ []) (w.masked.lexemes ++ []) :=
    masksTree w becomes_nil nofun
  rw [List.append_nil, List.append_nil] at hall
  rw [Tree.Spells, maskPasswords, String.toList_ofList]
  exact hall _ h

theorem suffix_of_endsInName {b : List Char} {ps : List Piece} (h : Body b ps)
    (hname : endsInName b = true) : ('"' :: passwordName).map .char <:+ ps := by
  induction h with
  | nil => cases hname
  | @cons _ b _ ps hp h ih =>
    obtain ⟨c, -, rfl, hquote, -⟩ | ⟨rfl, rfl⟩ | ⟨d, ds, rfl, -, hquote, -⟩ := spelledBy_cases hp
    · rw [endsInName_append (by simpa using hquote.symm)] at hname
      exact (ih hname).trans (List.suffix_cons _ _)
    · have hback : endsInName (['\\', '"'] ++ b) = endsInName ('"' :: b) :=
        endsInName_cons (by decide) _
      rw [hback, endsInName_quote, Bool.or_eq_true, decide_eq_true_eq] at hname
      obtain rfl | hname := hname
      · rw [pieces_eq_map h (by decide)]
        exact List.suffix_rfl
      · exact (ih hname).trans (List.suffix_cons _ _)
    · rw [endsInName_append (List.not_mem_cons_of_ne_of_not_mem (by decide) hquote)] at hname
      exact (ih hname).trans (List.suffix_cons _ _)

theorem namesPassword_of_isSecret {k : Literal} (h : k.isSecret = true) : k.NamesPassword := by
  rw [Literal.isSecret, endsInName_quote, Bool.or_eq_true, decide_eq_true_eq] at h
  obtain hname | hname := h
  · have hpieces := pieces_eq_map k.spelled (by rw [hname]; decide)
    exact Or.inl (hname ▸ hpieces)
  · exact Or.inr (suffix_of_endsInName k.spelled hname)

theorem isSecret_of_body {k : Literal} (h : k.body = passwordName) : k.isSecret = true := by
  rw [Literal.isSecret, h]
  decide

theorem conceals_masked (w : Tree) : w.Conceals w.masked := by
  induction w using Tree.parts_induction with
  | scalar s => exact .scalar s
  | literal l => exact .literal l
  | array ws ih =>
    induction ws with
    | nil => exact .noItems
    | cons w ws hrest =>
      obtain ⟨hw, hws⟩ := List.forall_mem_cons.1 ih
      exact .item hw (hrest hws)
  | object ms ih =>
    induction ms with
    | nil => exact .noMembers
    | cons m ms hrest =>
      obtain ⟨k, w⟩ := m
      obtain ⟨hw, hms⟩ := List.forall_mem_cons.1 ih
      rw [Tree.masked, Tree.maskedMembers]
      cases hhidden : k.isSecret && w.isLiteral with
      | false => exact .member hw (hrest hms)
      | true =>
        obtain ⟨hsecret, hliteral⟩ := Bool.and_eq_true_iff.1 hhidden
        cases w with
        | literal l => exact .hidden (namesPassword_of_isSecret hsecret) (hrest hms)
        | _ => cases hliteral

theorem exists_of_mem_maskedItems {ws : List Tree} {w : Tree} (h : w ∈ Tree.maskedItems ws) :
    ∃ u ∈ ws, w = u.masked := by
  induction ws with
  | nil => cases h
  | cons u ws ih =>
    obtain rfl | h := List.mem_cons.1 h
    · exact ⟨u, List.mem_cons_self, rfl⟩
    · obtain ⟨v, hv, rfl⟩ := ih h
      exact ⟨v, List.mem_cons_of_mem u hv, rfl⟩

theorem exists_of_mem_maskedMembers {ms : List (Literal × Tree)} {k : Literal} {w : Tree}
    (h : (k, w) ∈ Tree.maskedMembers ms) :
    ∃ u, (k, u) ∈ ms ∧
      w = if k.isSecret && u.isLiteral then Tree.literal .hidden else u.masked := by
  induction ms with
  | nil => cases h
  | cons m ms ih =>
    obtain ⟨l, u⟩ := m
    obtain heq | h := List.mem_cons.1 h
    · obtain ⟨rfl, rfl⟩ := Prod.mk.inj heq
      exact ⟨u, List.mem_cons_self, rfl⟩
    · obtain ⟨v, hv, hw⟩ := ih h
      exact ⟨v, List.mem_cons_of_mem _ hv, hw⟩

theorem hidden_of_hasMember {k l : Literal} (hk : k.body = passwordName) (w : Tree)
    (h : w.masked.HasMember k (.literal l)) : l = .hidden := by
  induction w using Tree.parts_induction with
  | scalar s => cases h
  | literal l => cases h
  | array ws ih =>
    rw [Tree.masked] at h
    cases h with
    | item hw h =>
      obtain ⟨u, hu, rfl⟩ := exists_of_mem_maskedItems hw
      exact ih u hu h
  | object ms ih =>
    rw [Tree.masked] at h
    cases h with
    | here h =>
      obtain ⟨u, -, hvalue⟩ := exists_of_mem_maskedMembers h
      rw [isSecret_of_body hk, Bool.true_and] at hvalue
      cases u with
      | literal l' => exact Tree.literal.inj hvalue
      | _ => cases hvalue
    | @member _ m _ _ hm h =>
      obtain ⟨k', v⟩ := m
      obtain ⟨u, hu, rfl⟩ := exists_of_mem_maskedMembers hm
      split at h
      · cases h
      · exact ih (k', u) hu h

/-- A JSON text stays one when it is masked, with the same structure and the same values, but for
literals under keys that are the name or end in a quote and the name; and no literal under a key
written as the name is left as it was. -/
theorem json_text_masked {t : String} (h : (read? t).isSome = true) :
    (∃ w : Tree, w.Spells t) ∧ ∀ w : Tree, w.Spells t →
      w.masked.Spells (maskPasswords t) ∧ read? (maskPasswords t) = some w.masked.value ∧
        w.Conceals w.masked ∧
        ∀ k l : Literal, w.masked.HasMember k (.literal l) → k.body = passwordName →
          l = .hidden := by
  obtain ⟨v, hv⟩ := Option.isSome_iff_exists.1 h
  obtain ⟨w, hw, -⟩ := read?_eq_some_iff.1 hv
  refine ⟨⟨w, hw⟩, fun u hu => ⟨spells_masked hu, ?_, conceals_masked u, ?_⟩⟩
  · exact read?_eq_some_iff.2 ⟨u.masked, spells_masked hu, rfl⟩
  · exact fun k l hmember hk => hidden_of_hasMember hk u hmember

/-- Members at two depths, one key with an escaped quote, one with an escaped letter. -/
def nestedText : String :=
  "\x7b\"password\" : [\x7b\"x\\\"password\"\n:\"a\\\\\", \"p\\u0061ssword\":\"b\"\x7d, " ++
    "\"\\\"password\\\":\\\"\"], \"password\"\t: \"\\\",\\\"\", \"n\":-1.5e3\x7d"

def nestedMasked : String :=
  "\x7b\"password\" : [\x7b\"x\\\"password\":\"******\", \"p\\u0061ssword\":\"b\"\x7d, " ++
    "\"\\\"password\\\":\\\"\"], \"password\":\"******\", \"n\":-1.5e3\x7d"

theorem nestedText_masked :
    maskPasswords nestedText = nestedMasked ∧
      ∃ w : Tree, w.Spells nestedText ∧ w.masked.Spells nestedMasked ∧
        read? nestedMasked = some w.masked.value ∧ w.Conceals w.masked := by
  have hmask : maskPasswords nestedText = nestedMasked := by decide +kernel
  obtain ⟨⟨w, hw⟩, hall⟩ := json_text_masked (t := nestedText) (by decide +kernel)
  obtain ⟨hspells, hread, hconceals, -⟩ := hall w hw
  rw [hmask] at hspells hread
  exact ⟨hmask, w, hw, hspells, hread, hconceals⟩

end Redaction

end DeployWizard
