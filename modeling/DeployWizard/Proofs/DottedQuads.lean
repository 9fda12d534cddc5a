import Mathlib.Data.List.Basic
import Mathlib.Tactic.Common
import DeployWizard.Address

set_option autoImplicit false

namespace DeployWizard

namespace Text

def countsFrom (c : Char) (z : Nat) : Bool :=
  z ≤ c.toNat && c.toNat < z + 10

def digitValue? (c : Char) : Option Nat :=
  (digitZeros.find? (countsFrom c)).map (c.toNat - ·)

theorem isDecimalDigit_iff (c : Char) :
    isDecimalDigit c = true ↔ ∃ v < 10, digitValue? c = some v := by
  have hany : isDecimalDigit c = digitZeros.any (countsFrom c) := rfl
  rw [hany, List.any_eq_true]
  constructor
  · intro h
    obtain ⟨z, hz⟩ := Option.isSome_iff_exists.1 (List.find?_isSome.2 h)
    have hcounts := List.find?_some hz
    simp only [countsFrom, Bool.and_eq_true, decide_eq_true_eq] at hcounts
    exact ⟨c.toNat - z, by omega, by rw [digitValue?, hz, Option.map_some]⟩
  · rintro ⟨v, -, hv⟩
    obtain ⟨z, hz, -⟩ := Option.map_eq_some_iff.1 hv
    exact ⟨z, List.mem_of_find?_eq_some hz, List.find?_some hz⟩

theorem digitValue?_of_isAsciiDigit {c : Char} (h : isAsciiDigit c = true) :
    digitValue? c = some (c.toNat - 48) := by
  have hcounts : countsFrom c 48 = true := by
    simp only [isAsciiDigit, countsFrom, Bool.and_eq_true, decide_eq_true_eq] at h ⊢
    omega
  rw [digitValue?, digitZeros, List.find?_cons_of_pos hcounts, Option.map_some]

theorem digitChar_of_isAsciiDigit {c : Char} (h : isAsciiDigit c = true) :
    Nat.digitChar (c.toNat - 48) = c := by
  simp only [isAsciiDigit, Bool.and_eq_true, decide_eq_true_eq] at h
  apply Char.toNat_inj.1
  rw [Nat.toNat_digitChar_of_lt_ten (by omega)]
  omega

theorem digitValue?_digitChar {v : Nat} (h : v < 10) :
    digitValue? (Nat.digitChar v) = some v := by
  have hnat := Nat.toNat_digitChar_of_lt_ten h
  have hascii : isAsciiDigit (Nat.digitChar v) = true := by
    simp only [isAsciiDigit, hnat, Bool.and_eq_true, decide_eq_true_eq]
    omega
  rw [digitValue?_of_isAsciiDigit hascii, hnat, Nat.add_sub_cancel_left]

theorem digitChar_digitValue? {cs : List Char} (h : ∀ c ∈ cs, isAsciiDigit c = true) :
    (cs.map digitValue?).map (fun v => Nat.digitChar (v.getD 0)) = cs := by
  rw [List.map_map]
  conv_rhs => rw [← List.map_id cs]
  apply List.map_congr_left
  intro c hc
  simp only [Function.comp_apply, digitValue?_of_isAsciiDigit (h c hc), Option.getD_some, id_eq]
  exact digitChar_of_isAsciiDigit (h c hc)

theorem decimal_one {n : Nat} (h : n < 10) : decimal n = [Nat.digitChar n] :=
  Nat.toDigits_of_lt_base h

theorem decimal_two {n : Nat} (h : 10 ≤ n) (hn : n < 100) :
    decimal n = [Nat.digitChar (n / 10), Nat.digitChar (n % 10)] := by
  rw [decimal, Nat.toDigits_of_base_le (by decide) h, Nat.toDigits_of_lt_base (by omega)]
  rfl

theorem decimal_three {n : Nat} (h : 100 ≤ n) (hn : n < 1000) :
    decimal n =
      [Nat.digitChar (n / 100), Nat.digitChar (n / 10 % 10), Nat.digitChar (n % 10)] := by
  have htens := decimal_two (n := n / 10) (by omega) (by omega)
  rw [Nat.div_div_eq_div_mul] at htens
  rw [decimal, Nat.toDigits_of_base_le (by decide) (by omega)]
  exact congrArg (· ++ _) htens

end Text

namespace Address
open Text

/-- How many digits of an octet, from the front, are read in ASCII only. -/
def fixedDigits (n : Nat) : Nat :=
  if n < 10 then 0 else if n < 200 then 1 else if n < 250 then 2 else 3

/-- The text has the digits of a number, by their values; those that are read in ASCII only are
the same. -/
structure Spells (n : Nat) (cs : List Char) : Prop where
  values : cs.map digitValue? = (decimal n).map digitValue?
  fixed : cs.take (fixedDigits n) = (decimal n).take (fixedDigits n)

theorem inRange_iff (low high : Nat) (hlow : low < 10) (hhigh : high < 10) {c : Char} :
    inRange (Nat.digitChar low) (Nat.digitChar high) c = true ↔
      ∃ v, low ≤ v ∧ v ≤ high ∧ c = Nat.digitChar v := by
  simp only [inRange, Nat.toNat_digitChar_of_lt_ten hlow, Nat.toNat_digitChar_of_lt_ten hhigh,
    Bool.and_eq_true, decide_eq_true_eq]
  constructor
  · rintro ⟨hle, hge⟩
    have hascii : isAsciiDigit c = true := by
      simp only [isAsciiDigit, Bool.and_eq_true, decide_eq_true_eq]
      omega
    exact ⟨c.toNat - 48, by omega, by omega, (digitChar_of_isAsciiDigit hascii).symm⟩
  · rintro ⟨v, hle, hge, rfl⟩
    rw [Nat.toNat_digitChar_of_lt_ten (by omega)]
    omega

theorem spells_iff {n : Nat} {front : List Char} {vs : List Nat}
    (hdecimal : decimal n = front ++ vs.map Nat.digitChar) (hfixed : fixedDigits n = front.length)
    (hvs : ∀ v ∈ vs, v < 10) (cs : List Char) :
    Spells n cs ↔ ∃ back, cs = front ++ back ∧ back.map digitValue? = vs.map some := by
  have hback : (vs.map Nat.digitChar).map digitValue? = vs.map some := by
    rw [List.map_map]
    exact List.map_congr_left fun v hv => digitValue?_digitChar (hvs v hv)
  have htaken : (front ++ vs.map Nat.digitChar).take front.length = front := List.take_left
  constructor
  · rintro ⟨hvalues, htake⟩
    rw [hfixed, hdecimal, htaken] at htake
    have hsplit := List.take_append_drop front.length cs
    rw [htake] at hsplit
    obtain ⟨back, rfl⟩ : ∃ back, cs = front ++ back := ⟨_, hsplit.symm⟩
    rw [hdecimal, List.map_append, List.map_append, hback] at hvalues
    exact ⟨back, rfl, List.append_cancel_left hvalues⟩
  · rintro ⟨back, rfl, hvalues⟩
    refine ⟨?_, ?_⟩
    · rw [hdecimal, List.map_append, List.map_append, hvalues, hback]
    · rw [hdecimal, hfixed, htaken, List.take_left]

theorem spells_below_ten {n : Nat} (hn : n < 10) (cs : List Char) :
    Spells n cs ↔ ∃ a, cs = [a] ∧ digitValue? a = some n := by
  have hdecimal : decimal n = [] ++ [n].map Nat.digitChar := decimal_one hn
  have hfixed : fixedDigits n = 0 := by simp [fixedDigits, hn]
  rw [spells_iff hdecimal hfixed (by simpa)]
  simp

theorem spells_below_hundred {n : Nat} (h : 10 ≤ n) (hn : n < 100) (cs : List Char) :
    Spells n cs ↔ ∃ b, cs = [Nat.digitChar (n / 10), b] ∧ digitValue? b = some (n % 10) := by
  have hdecimal : decimal n = [Nat.digitChar (n / 10)] ++ [n % 10].map Nat.digitChar :=
    decimal_two h hn
  have hfixed : fixedDigits n = 1 := by
    unfold fixedDigits
    split_ifs <;> omega
  rw [spells_iff hdecimal hfixed (by simp; omega)]
  simp

theorem spells_below_twoHundred {n : Nat} (h : 100 ≤ n) (hn : n < 200) (cs : List Char) :
    Spells n cs ↔ ∃ b c, cs = ['1', b, c] ∧ digitValue? b = some (n / 10 % 10) ∧
      digitValue? c = some (n % 10) := by
  have hdecimal : decimal n = ['1'] ++ [n / 10 % 10, n % 10].map Nat.digitChar := by
    rw [decimal_three h (by omega), show n / 100 = 1 by omega]
    rfl
  have hfixed : fixedDigits n = 1 := by
    unfold fixedDigits
    split_ifs <;> omega
  rw [spells_iff hdecimal hfixed (by simp; omega)]
  constructor
  · rintro ⟨back, rfl, hback⟩
    obtain ⟨b, rest, rfl, hb, hrest⟩ := List.map_eq_cons_iff.1 hback
    obtain ⟨c, rfl, hc⟩ := List.map_eq_singleton_iff.1 hrest
    exact ⟨b, c, rfl, hb, hc⟩
  · rintro ⟨b, c, rfl, hb, hc⟩
    exact ⟨[b, c], rfl, by simp [hb, hc]⟩

theorem spells_below_twoFifty {n : Nat} (h : 200 ≤ n) (hn : n < 250) (cs : List Char) :
    Spells n cs ↔ ∃ c, cs = ['2', Nat.digitChar (n / 10 % 10), c] ∧
      digitValue? c = some (n % 10) := by
  have hdecimal : decimal n =
      ['2', Nat.digitChar (n / 10 % 10)] ++ [n % 10].map Nat.digitChar := by
    rw [decimal_three (by omega) (by omega), show n / 100 = 2 by omega]
    rfl
  have hfixed : fixedDigits n = 2 := by
    unfold fixedDigits
    split_ifs <;> omega
  rw [spells_iff hdecimal hfixed (by simp; omega)]
  simp

theorem spells_from_twoFifty {n : Nat} (h : 250 ≤ n) (hn : n ≤ 255) (cs : List Char) :
    Spells n cs ↔ cs = ['2', '5', Nat.digitChar (n % 10)] := by
  have hdecimal : decimal n = ['2', '5', Nat.digitChar (n % 10)] ++ [].map Nat.digitChar := by
    rw [decimal_three (by omega) (by omega), show n / 100 = 2 by omega,
      show n / 10 % 10 = 5 by omega]
    rfl
  have hfixed : fixedDigits n = 3 := by
    unfold fixedDigits
    split_ifs <;> omega
  rw [spells_iff hdecimal hfixed (by simp)]
  simp

theorem isOctet_of_spells {n : Nat} (hn : n ≤ 255) {cs : List Char} (h : Spells n cs) :
    isOctet cs = true := by
  have digit {c : Char} {v : Nat} (hc : digitValue? c = some v) (hv : v < 10) :
      isDecimalDigit c = true := (isDecimalDigit_iff c).2 ⟨v, hv, hc⟩
  -- On each of these ranges the number of digits and that of the fixed ones stay the same.
  obtain hn | h10 := Nat.lt_or_ge n 10
  · obtain ⟨a, rfl, ha⟩ := (spells_below_ten hn cs).1 h
    exact digit ha hn
  obtain hn | h100 := Nat.lt_or_ge n 100
  · obtain ⟨b, rfl, hb⟩ := (spells_below_hundred h10 hn cs).1 h
    have hfirst := (inRange_iff 1 9 (by decide) (by decide)).2 ⟨n / 10, by omega, by omega, rfl⟩
    exact Bool.and_eq_true_iff.2 ⟨hfirst, digit hb (by omega)⟩
  obtain hn | h200 := Nat.lt_or_ge n 200
  · obtain ⟨b, c, rfl, hb, hc⟩ := (spells_below_twoHundred h100 hn cs).1 h
    simp [isOctet, digit hb (by omega), digit hc (by omega)]
  obtain hn | h250 := Nat.lt_or_ge n 250
  · obtain ⟨c, rfl, hc⟩ := (spells_below_twoFifty h200 hn cs).1 h
    have hsecond : inRange '0' '4' (Nat.digitChar (n / 10 % 10)) = true :=
      (inRange_iff 0 4 (by decide) (by decide)).2 ⟨n / 10 % 10, by omega, by omega, rfl⟩
    simp [isOctet, hsecond, digit hc (by omega)]
  · obtain rfl := (spells_from_twoFifty h250 hn cs).1 h
    have hlast : inRange '0' '5' (Nat.digitChar (n % 10)) = true :=
      (inRange_iff 0 5 (by decide) (by decide)).2 ⟨n % 10, by omega, by omega, rfl⟩
    simp [isOctet, hlast]

theorem spells_of_isOctet {cs : List Char} (h : isOctet cs = true) :
    ∃ n ≤ 255, Spells n cs := by
  unfold isOctet at h
  split at h
  next a =>
    obtain ⟨v, hv, ha⟩ := (isDecimalDigit_iff a).1 h
    exact ⟨v, by omega, (spells_below_ten hv _).2 ⟨a, rfl, ha⟩⟩
  next a b =>
    obtain ⟨ha, hb⟩ := Bool.and_eq_true_iff.1 h
    obtain ⟨u, hlow, hhigh, rfl⟩ := (inRange_iff 1 9 (by decide) (by decide)).1 ha
    obtain ⟨v, hv, hb⟩ := (isDecimalDigit_iff b).1 hb
    refine ⟨10 * u + v, by omega, (spells_below_hundred (by omega) (by omega) _).2 ⟨b, ?_, ?_⟩⟩
    · rw [show (10 * u + v) / 10 = u by omega]
    · rw [show (10 * u + v) % 10 = v by omega, hb]
  next a b c =>
    simp only [Bool.or_eq_true, Bool.and_eq_true, beq_iff_eq] at h
    obtain (⟨⟨rfl, hb⟩, hc⟩ | ⟨⟨rfl, hb⟩, hc⟩) | ⟨⟨rfl, rfl⟩, hc⟩ := h
    · obtain ⟨v, hv, hb⟩ := (isDecimalDigit_iff b).1 hb
      obtain ⟨w, hw, hc⟩ := (isDecimalDigit_iff c).1 hc
      refine ⟨100 + 10 * v + w, by omega,
        (spells_below_twoHundred (by omega) (by omega) _).2 ⟨b, c, rfl, ?_, ?_⟩⟩
      · rw [show (100 + 10 * v + w) / 10 % 10 = v by omega, hb]
      · rw [show (100 + 10 * v + w) % 10 = w by omega, hc]
    · obtain ⟨v, -, hv, rfl⟩ := (inRange_iff 0 4 (by decide) (by decide)).1 hb
      obtain ⟨w, hw, hc⟩ := (isDecimalDigit_iff c).1 hc
      refine ⟨200 + 10 * v + w, by omega,
        (spells_below_twoFifty (by omega) (by omega) _).2 ⟨c, ?_, ?_⟩⟩
      · rw [show (200 + 10 * v + w) / 10 % 10 = v by omega]
      · rw [show (200 + 10 * v + w) % 10 = w by omega, hc]
    · obtain ⟨w, -, hw, rfl⟩ := (inRange_iff 0 5 (by decide) (by decide)).1 hc
      refine ⟨250 + w, by omega, (spells_from_twoFifty (by omega) (by omega) _).2 ?_⟩
      rw [show (250 + w) % 10 = w by omega]
  next => cases h

theorem spells_decimal (n : Nat) : Spells n (decimal n) :=
  ⟨rfl, rfl⟩

theorem Spells.eq_decimal {n : Nat} {cs : List Char} (h : Spells n cs)
    (hascii : ∀ c ∈ cs, isAsciiDigit c = true) : cs = decimal n := by
  rw [← digitChar_digitValue? hascii, h.values,
    digitChar_digitValue? fun _ => isAsciiDigit_of_mem_decimal]

theorem Spells.unique {m n : Nat} {cs : List Char} (hm : Spells m cs) (hn : Spells n cs) :
    m = n := by
  have restored (k : Nat) := digitChar_digitValue? fun c => isAsciiDigit_of_mem_decimal (n := k)
  apply decimal_inj
  rw [← restored m, ← hm.values, hn.values, restored n]

theorem Spells.isDecimalDigit {n : Nat} {cs : List Char} (h : Spells n cs) {c : Char}
    (hc : c ∈ cs) : isDecimalDigit c = true := by
  have hvalue : digitValue? c ∈ (decimal n).map digitValue? :=
    h.values ▸ List.mem_map_of_mem hc
  obtain ⟨d, hd, hsame⟩ := List.mem_map.1 hvalue
  obtain ⟨v, hv, hdv⟩ := (isDecimalDigit_iff d).1
    (isDecimalDigit_of_isAsciiDigit d (isAsciiDigit_of_mem_decimal hd))
  exact (isDecimalDigit_iff c).2 ⟨v, hv, hsame ▸ hdv⟩

structure Quad where
  first : Fin 256
  second : Fin 256
  third : Fin 256
  fourth : Fin 256
  deriving DecidableEq

namespace Quad

def text (q : Quad) : String :=
  toString q.first.val ++ "." ++ toString q.second.val ++ "." ++ toString q.third.val ++ "." ++
    toString q.fourth.val

theorem text_toList (q : Quad) :
    q.text.toList = decimal q.first ++
      [decimal q.second, decimal q.third, decimal q.fourth].flatMap ('.' :: ·) := by
  simp [text, decimal]

theorem dot_notMem_decimal (n : Nat) : '.' ∉ decimal n :=
  fun h => absurd (isAsciiDigit_of_mem_decimal h) (by decide)

theorem fields_text (q : Quad) :
    fields '.' q.text.toList =
      [decimal q.first, decimal q.second, decimal q.third, decimal q.fourth] := by
  rw [text_toList, fields_joined]
  simp [dot_notMem_decimal]

end Quad

/-- The text has the octets of an address between its dots, in digits that may be of any script
where they are not fixed. -/
def Denotes (s : String) (q : Quad) : Prop :=
  ∃ a b c d, fields '.' s.toList = [a, b, c, d] ∧
    Spells q.first a ∧ Spells q.second b ∧ Spells q.third c ∧ Spells q.fourth d

def PlainDigits (s : String) : Prop :=
  ∀ c ∈ s.toList, isDecimalDigit c = true → isAsciiDigit c = true

theorem Denotes.unique {s : String} {q r : Quad} (hq : Denotes s q) (hr : Denotes s r) : q = r := by
  obtain ⟨a, b, c, d, hfields, hq1, hq2, hq3, hq4⟩ := hq
  obtain ⟨a', b', c', d', hfields', hr1, hr2, hr3, hr4⟩ := hr
  cases hfields.symm.trans hfields'
  obtain ⟨q1, q2, q3, q4⟩ := q
  obtain ⟨r1, r2, r3, r4⟩ := r
  rw [Quad.mk.injEq]
  exact ⟨Fin.ext (hq1.unique hr1), Fin.ext (hq2.unique hr2), Fin.ext (hq3.unique hr3),
    Fin.ext (hq4.unique hr4)⟩

theorem isOctet_iff (cs : List Char) : isOctet cs = true ↔ ∃ n : Fin 256, Spells n cs := by
  constructor
  · intro h
    obtain ⟨n, hn, hspells⟩ := spells_of_isOctet h
    exact ⟨⟨n, Nat.lt_succ_of_le hn⟩, hspells⟩
  · rintro ⟨n, h⟩
    exact isOctet_of_spells (Nat.le_of_lt_succ n.isLt) h

theorem isQuad_iff (s : String) : isQuad s.toList = true ↔ ∃ q, Denotes s q := by
  unfold isQuad
  split
  next a b c d hfields =>
    simp only [Bool.and_eq_true, isOctet_iff]
    constructor
    · rintro ⟨⟨⟨⟨n1, h1⟩, ⟨n2, h2⟩⟩, ⟨n3, h3⟩⟩, ⟨n4, h4⟩⟩
      exact ⟨⟨n1, n2, n3, n4⟩, a, b, c, d, hfields, h1, h2, h3, h4⟩
    · rintro ⟨q, a', b', c', d', hfields', h1, h2, h3, h4⟩
      cases hfields.symm.trans hfields'
      exact ⟨⟨⟨⟨_, h1⟩, ⟨_, h2⟩⟩, ⟨_, h3⟩⟩, ⟨_, h4⟩⟩
  next hnone =>
    simp only [Bool.false_eq_true, false_iff, not_exists]
    rintro q ⟨a, b, c, d, hfields, -⟩
    exact hnone a b c d hfields

theorem isAddress_iff (s : String) : isAddress s = true ↔ ∃ q, Denotes (trim s) q := by
  rw [← isQuad_iff, trim, String.toList_ofList, isAddress]

theorem eq_text_iff (s : String) (q : Quad) : s = q.text ↔ Denotes s q ∧ PlainDigits s := by
  constructor
  · rintro rfl
    refine ⟨⟨_, _, _, _, q.fields_text, spells_decimal _, spells_decimal _, spells_decimal _,
      spells_decimal _⟩, ?_⟩
    intro c hc hdigit
    have hdot : c ≠ '.' := by
      rintro rfl
      exact absurd hdigit (by decide)
    have hdecimal : ∃ n, c ∈ decimal n := by
      simp only [Quad.text_toList, List.flatMap_cons, List.flatMap_nil, List.mem_append,
        List.mem_cons, hdot, false_or, List.not_mem_nil, or_false] at hc
      rcases hc with h | h | h | h <;> exact ⟨_, h⟩
    obtain ⟨n, hn⟩ := hdecimal
    exact isAsciiDigit_of_mem_decimal hn
  · rintro ⟨⟨a, b, c, d, hfields, h1, h2, h3, h4⟩, hplain⟩
    have hascii {n : Nat} {t : List Char} (h : Spells n t) (ht : t ∈ [a, b, c, d]) :
        ∀ x ∈ t, isAsciiDigit x = true :=
      fun x hx => hplain x (mem_of_mem_fields (hfields ▸ ht) hx) (h.isDecimalDigit hx)
    rw [← String.toList_inj, Quad.text_toList, ← joined_of_fields hfields,
      h1.eq_decimal (hascii h1 (by simp)), h2.eq_decimal (hascii h2 (by simp)),
      h3.eq_decimal (hascii h3 (by simp)), h4.eq_decimal (hascii h4 (by simp))]

/-- A text is accepted exactly when, without the blanks around it, it denotes an address, which is
then a single one. It is the dotted quad of an address exactly when besides all its digits are ASCII
digits, and only then do texts of one address have to be equal. -/
theorem accepts_quads_in_any_digits (s : String) :
    (isAddress s = true ↔ ∃! q, Denotes (trim s) q) ∧
      (∀ q, trim s = Quad.text q ↔ Denotes (trim s) q ∧ PlainDigits (trim s)) ∧
      ((isAddress s = true ↔ ∃ q, trim s = Quad.text q) ↔
        (isAddress s = true → PlainDigits (trim s))) ∧
      ∀ t q, Denotes (trim s) q → Denotes (trim t) q → PlainDigits (trim s) →
        PlainDigits (trim t) → trim s = trim t := by
  refine ⟨?_, eq_text_iff (trim s), ?_, ?_⟩
  · rw [isAddress_iff]
    constructor
    · rintro ⟨q, hq⟩
      exact ⟨q, hq, fun r hr => hr.unique hq⟩
    · rintro ⟨q, hq, -⟩
      exact ⟨q, hq⟩
  · simp only [eq_text_iff, exists_and_right, ← isAddress_iff, iff_self_and]
  · intro t q hs ht hplains hplaint
    rw [(eq_text_iff _ q).2 ⟨hs, hplains⟩, (eq_text_iff _ q).2 ⟨ht, hplaint⟩]

theorem accepts_quads_in_any_digits_padded :
    let q : Quad := ⟨10, 0, 0, 1⟩
    let s := "\u3000 10.0.0.1"
    let t := "10.0.0.1\n"
    isAddress s = true ∧ Denotes (trim s) q ∧ Denotes (trim t) q ∧ PlainDigits (trim s) ∧
      PlainDigits (trim t) ∧ trim s = trim t := by
  intro q s t
  obtain ⟨hs, hsplain⟩ := (eq_text_iff (trim s) q).1 (by decide +kernel)
  obtain ⟨ht, htplain⟩ := (eq_text_iff (trim t) q).1 (by decide +kernel)
  obtain ⟨haccepted, -, -, hsame⟩ := accepts_quads_in_any_digits s
  exact ⟨haccepted.2 ⟨q, hs, fun r hr => hr.unique hs⟩, hs, ht, hsplain, htplain,
    hsame t q hs ht hsplain htplain⟩

/-- With a digit of another script at its end a text is accepted that is no dotted quad, beside the
dotted quad of the same address. -/
theorem wide_digit_accepted :
    isAddress "10.0.0.\uff11" = true ∧ (¬∃ q, trim "10.0.0.\uff11" = Quad.text q) ∧
      isAddress "10.0.0.1" = true ∧ trim "10.0.0.\uff11" ≠ trim "10.0.0.1" ∧
      ∃ q, Denotes (trim "10.0.0.\uff11") q ∧ Denotes (trim "10.0.0.1") q := by
  refine ⟨by decide +kernel, ?_, by decide +kernel, by decide +kernel, ⟨10, 0, 0, 1⟩, ?_, ?_⟩
  · rintro ⟨q, hq⟩
    obtain ⟨-, hplain⟩ := (eq_text_iff _ q).1 hq
    exact absurd (hplain '\uff11' (by decide +kernel) (by decide)) (by decide)
  · exact ⟨['1', '0'], ['0'], ['0'], ['\uff11'], by decide +kernel, spells_decimal 10,
      spells_decimal 0, spells_decimal 0, by decide +kernel, rfl⟩
  · exact ⟨['1', '0'], ['0'], ['0'], ['1'], by decide +kernel, spells_decimal 10,
      spells_decimal 0, spells_decimal 0, spells_decimal 1⟩

end Address

end DeployWizard
