import Mathlib.Data.List.TakeWhile
import Mathlib.Tactic.Common
import Mathlib.Tactic.IntervalCases
import DeployWizard.Json.Writer
import DeployWizard.Proofs.JsonTrees

set_option autoImplicit false

namespace DeployWizard

namespace Text

theorem head?_decimal {n : Nat} (h : 0 < n) : (decimal n).head? ≠ some '0' := by
  induction n using Nat.strongRecOn with
  | ind n ih =>
    obtain hlt | hle := Nat.lt_or_ge n 10
    · rw [decimal, Nat.toDigits_of_lt_base hlt]
      interval_cases n <;> decide
    · have htens := ih (n / 10) (by omega) (by omega)
      rw [decimal, Nat.toDigits_of_base_le (by decide) hle, List.head?_append,
        List.head?_eq_some_head Nat.toDigits_ne_nil]
      rwa [decimal, List.head?_eq_some_head Nat.toDigits_ne_nil] at htens

theorem hexValue?_lowerHex {n : Nat} (h : n < 16) : hexValue? (lowerHex n) = some n := by
  interval_cases n <;> rfl

end Text

namespace Json
open Text

inductive Plain : Value → Prop where
  | null : Plain .null
  | bool (b : Bool) : Plain (.bool b)
  | natural (n : Nat) : Plain (.ofNat n)
  | text (s : String) : Plain (.text s)
  | unreadable : Plain .unreadable
  | array {vs : List Value} (h : ∀ v ∈ vs, Plain v) : Plain (.array vs)
  | object {ms : List (String × Value)} (h : ∀ m ∈ ms, Plain m.2) : Plain (.object ms)

theorem Value.write_ofNat (n : Nat) : (Value.ofNat n).write = decimal n := by
  simp [Value.ofNat, Value.write, Number.write, Number.ofNat, Number.exponentChars]

namespace Number

theorem valueOf_decimal (n : Nat) : valueOf (decimal n) = n := by
  conv_rhs => rw [← Nat.ofDigitChars_ten_toDigits (n := n)]
  simp only [valueOf, Nat.ofDigitChars, Nat.mul_comm 10]
  rfl

theorem ofChars?_decimal (n : Nat) : ofChars? (decimal n) = some (.ofNat n) := by
  have hdigits : ∀ c ∈ decimal n, isAsciiDigit c = true := fun _ => isAsciiDigit_of_mem_decimal
  have hwhole : (decimal n).takeWhile isAsciiDigit = decimal n :=
    List.takeWhile_eq_self_iff.2 hdigits
  have hrest : (decimal n).dropWhile isAsciiDigit = [] := List.dropWhile_eq_nil_iff.2 hdigits
  have hplain : ¬((decimal n).isEmpty || ((decimal n).head? = some '0' &&
      1 < (decimal n).length)) = true := by
    rw [Bool.or_eq_true, Bool.and_eq_true, List.isEmpty_iff, decide_eq_true_eq, decide_eq_true_eq]
    rintro (hempty | ⟨hhead, hlength⟩)
    · exact Nat.toDigits_ne_nil hempty
    · obtain rfl | hpos := Nat.eq_zero_or_pos n
      · exact absurd hlength (by decide)
      · exact head?_decimal hpos hhead
  unfold ofChars?
  split
  next minus cs hsign =>
    split at hsign
    next r hr => exact absurd (hdigits '-' (hr ▸ List.mem_cons_self)) (by decide)
    next =>
      obtain ⟨rfl, rfl⟩ := Prod.mk.inj hsign
      simp only [hwhole, hrest, if_neg hplain, exponentOf?, valueOf_decimal, Option.map_some]
      rfl

end Number

theorem spelledBy_escapeChar (c : Char) : (Piece.char c).SpelledBy (escapeChar c) := by
  unfold escapeChar
  split_ifs with hquote hback hb hf hn hr ht hcontrol
  · rw [hquote]; exact .escape rfl
  · rw [hback]; exact .escape rfl
  · rw [hb]; exact .escape rfl
  · rw [hf]; exact .escape rfl
  · rw [hn]; exact .escape rfl
  · rw [hr]; exact .escape rfl
  · rw [ht]; exact .escape rfl
  · have hhigh := hexValue?_lowerHex (n := c.toNat / 16) (by omega)
    have hlow := hexValue?_lowerHex (n := c.toNat % 16) (by omega)
    have hzero : hexValue? '0' = some 0 := rfl
    have hcode : Piece.ofCode (((0 * 16 + 0) * 16 + c.toNat / 16) * 16 + c.toNat % 16) =
        .char c := by
      simp only [Nat.zero_mul, Nat.zero_add]
      rw [Nat.div_add_mod', Piece.ofCode, if_neg, Char.ofNat_toNat]
      simp only [Piece.isHigh, Piece.isLow, Bool.or_eq_true, Bool.and_eq_true, decide_eq_true_eq]
      omega
    exact hcode ▸ Piece.SpelledBy.code hzero hzero hhigh hlow
  · exact .plain hquote hback (Nat.not_lt.1 hcontrol)

theorem body_escaped (cs : List Char) : Body (cs.flatMap escapeChar) (cs.map .char) := by
  induction cs with
  | nil => exact .nil
  | cons c cs ih => exact .cons (spelledBy_escapeChar c) ih

theorem join_chars (cs : List Char) : Piece.join (cs.map .char) = some cs := by
  induction cs with
  | nil => rfl
  | cons c cs ih => rw [List.map_cons, Piece.join, ih, Option.map_some]

def Literal.ofText (s : String) : Literal :=
  ⟨s.toList.flatMap escapeChar, s.toList.map .char, body_escaped s.toList⟩

theorem Literal.key_ofText (s : String) : (ofText s).key = some s := by
  rw [key, ofText, join_chars, Option.map_some, String.ofList_toList]

def Literal.halfPair : Literal where
  body := ['\\', 'u', 'd', '8', '0', '0']
  pieces := [.half 0xD800]
  spelled := by
    have hd : hexValue? 'd' = some 13 := rfl
    have height : hexValue? '8' = some 8 := rfl
    have hzero : hexValue? '0' = some 0 := rfl
    exact .cons (.code hd height hzero hzero) .nil

def EndsScalar (cs : List Char) : Prop :=
  ∀ c ∈ cs.head?, isAsciiLetter c = false ∧ Scan.isNumberChar c = false

/-- The value is written as a tree is spelled. -/
def Written (v : Value) : Prop :=
  ∃ w : Tree, w.value = v ∧
    ∀ {ls : List Lexeme} {cs : List Char}, Spaced ls cs → EndsScalar cs →
      Spaced (w.lexemes ++ ls) (v.write ++ cs)

theorem written_scalar {v : Value} (s : Scalar) (hvalue : (Tree.scalar s).value = v)
    (hwrite : s.chars = v.write) : Written v := by
  refine ⟨.scalar s, hvalue, fun h hends => ?_⟩
  rw [← hwrite]
  refine Spaced.lexeme (.scalar s) (fun c hc => ?_) h
  cases s with
  | word _ _ _ => exact (hends c hc).1
  | number _ _ _ _ _ _ => exact (hends c hc).2

theorem endsScalar_writeItems (vs : List Value) (cs : List Char) :
    EndsScalar (Value.writeItems vs ++ cs) := by
  cases vs <;> simp [EndsScalar, Value.writeItems] <;> decide

theorem endsScalar_writeMembers (ms : List (String × Value)) (cs : List Char) :
    EndsScalar (Value.writeMembers ms ++ cs) := by
  cases ms <;> simp [EndsScalar, Value.writeMembers] <;> decide

theorem exists_items {vs : List Value} (h : ∀ v ∈ vs, Written v) :
    ∃ ws, Tree.itemValues ws = vs ∧ ∀ {ls : List Lexeme} {cs : List Char}, Spaced ls cs →
      Spaced ((Tree.itemParts ws).flatMap (.mark .comma :: ·) ++ .mark .closeArray :: ls)
        (Value.writeItems vs ++ cs) := by
  induction vs with
  | nil => exact ⟨[], rfl, spaced_mark .closeArray⟩
  | cons v vs ih =>
    obtain ⟨⟨w, hw, hfirst⟩, hvs⟩ := List.forall_mem_cons.1 h
    obtain ⟨ws, hws, hrest⟩ := ih hvs
    refine ⟨w :: ws, by rw [Tree.itemValues, hw, hws], fun hls => ?_⟩
    simp only [Tree.itemParts, List.flatMap_cons, Value.writeItems, List.cons_append,
      List.append_assoc]
    exact spaced_mark .comma (hfirst (hrest hls) (endsScalar_writeItems vs _))

theorem exists_members {ms : List (String × Value)} (h : ∀ m ∈ ms, Written m.2) :
    ∃ us, Tree.memberValues us = ms.map (fun m => (some m.1, m.2)) ∧
      ∀ {ls : List Lexeme} {cs : List Char}, Spaced ls cs →
        Spaced ((Tree.memberParts us).flatMap (.mark .comma :: ·) ++ .mark .closeObject :: ls)
          (Value.writeMembers ms ++ cs) := by
  induction ms with
  | nil => exact ⟨[], rfl, spaced_mark .closeObject⟩
  | cons m ms ih =>
    obtain ⟨k, v⟩ := m
    obtain ⟨⟨w, hw, hfirst⟩, hms⟩ := List.forall_mem_cons.1 h
    obtain ⟨us, hus, hrest⟩ := ih hms
    refine ⟨(.ofText k, w) :: us,
      by rw [Tree.memberValues, hw, hus, Literal.key_ofText, List.map_cons], fun hls => ?_⟩
    simp only [Tree.memberParts, List.flatMap_cons, Value.writeMembers, List.cons_append,
      List.append_assoc]
    exact spaced_mark .comma (spaced_literal (.ofText k)
      (spaced_mark .colon (hfirst (hrest hls) (endsScalar_writeMembers ms _))))

theorem objectOf_texts (ms : List (String × Value)) :
    objectOf (ms.map fun m => (some m.1, m.2)) = .object ms := by
  have hkeys : (ms.map fun m : String × Value => (some m.1, m.2)).mapM
      (fun m : Option String × Value => m.1.map (·, m.2)) = some ms := by
    induction ms with
    | nil => rfl
    | cons m ms ih => simp [ih]
  unfold objectOf
  rw [hkeys]

theorem written {v : Value} (h : Plain v) : Written v := by
  induction h with
  | null => exact written_scalar (.word _ _ rfl) rfl rfl
  | bool b => cases b <;> exact written_scalar (.word _ _ rfl) rfl rfl
  | natural n =>
    obtain ⟨c, cs, hcs⟩ := List.exists_cons_of_ne_nil (l := decimal n) Nat.toDigits_ne_nil
    have hdigits : ∀ d ∈ c :: cs, isAsciiDigit d = true := fun d hd =>
      isAsciiDigit_of_mem_decimal (hcs ▸ hd)
    obtain ⟨hfirst, hrest⟩ := List.forall_mem_cons.1 hdigits
    have hread : Number.ofChars? (c :: cs) = some (.ofNat n) := hcs ▸ Number.ofChars?_decimal n
    have hwrite : c :: cs = (Value.ofNat n).write := by rw [Value.write_ofNat, hcs]
    exact written_scalar (.number c cs _ (by simp [hfirst])
      (fun d hd => by simp [Scan.isNumberChar, hrest d hd]) hread) rfl hwrite
  | text s =>
    refine ⟨.literal (.ofText s), ?_, fun h _ => spaced_literal (.ofText s) h⟩
    rw [Tree.value, Literal.token_pieces, Literal.key_ofText]
    rfl
  | unreadable =>
    exact ⟨.literal .halfPair, rfl, fun h _ => spaced_literal .halfPair h⟩
  | @array vs h ih =>
    cases vs with
    | nil => exact ⟨.array [], rfl, fun h _ => spaced_mark .openArray (spaced_mark .closeArray h)⟩
    | cons v vs =>
      obtain ⟨⟨w, hw, hfirst⟩, hvs⟩ := List.forall_mem_cons.1 ih
      obtain ⟨ws, hws, hrest⟩ := exists_items hvs
      refine ⟨.array (w :: ws), by rw [Tree.value, Tree.itemValues, hw, hws], fun hls _ => ?_⟩
      simp only [Tree.lexemes, Tree.itemParts, Tree.separated, Value.write, List.cons_append,
        List.append_assoc]
      exact spaced_mark .openArray (hfirst (hrest hls) (endsScalar_writeItems vs _))
  | @object ms h ih =>
    cases ms with
    | nil =>
      exact ⟨.object [], rfl, fun h _ => spaced_mark .openObject (spaced_mark .closeObject h)⟩
    | cons m ms =>
      obtain ⟨k, v⟩ := m
      obtain ⟨⟨w, hw, hfirst⟩, hms⟩ := List.forall_mem_cons.1 ih
      obtain ⟨us, hus, hrest⟩ := exists_members hms
      refine ⟨.object ((.ofText k, w) :: us), ?_, fun hls _ => ?_⟩
      · rw [Tree.value, Tree.memberValues, hw, hus, Literal.key_ofText]
        exact objectOf_texts ((k, v) :: ms)
      · simp only [Tree.lexemes, Tree.memberParts, Tree.separated, Value.write, List.cons_append,
          List.append_assoc]
        exact spaced_mark .openObject (spaced_literal (.ofText k)
          (spaced_mark .colon (hfirst (hrest hls) (endsScalar_writeMembers ms _))))

theorem read?_render {v : Value} (h : Plain v) : read? v.render = some v := by
  obtain ⟨w, hw, hspaced⟩ := written h
  have hall := hspaced .nil nofun
  rw [List.append_nil, List.append_nil] at hall
  refine read?_eq_some_iff.2 ⟨w, ?_, hw⟩
  rwa [Tree.Spells, Value.render, String.toList_ofList]

end Json

end DeployWizard
