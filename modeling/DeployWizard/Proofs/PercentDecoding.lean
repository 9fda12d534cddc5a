import Mathlib.Tactic.Common
import Mathlib.Tactic.IntervalCases
import DeployWizard.Text.Percent

set_option autoImplicit false

namespace DeployWizard.Text

theorem hexValue?_upperHex {n : Nat} (h : n < 16) : hexValue? (upperHex n) = some n := by
  interval_cases n <;> rfl

theorem isAsciiAlphanumeric_upperHex {n : Nat} (h : n < 16) :
    isAsciiAlphanumeric (upperHex n) = true := by
  interval_cases n <;> rfl

namespace Percent

theorem decode_encodeByte (b : UInt8) (cs : List Char) :
    decode (encodeByte b ++ cs) = b :: decode cs := by
  have hb := b.toNat_lt
  have hhigh := hexValue?_upperHex (n := b.toNat / 16) (by omega)
  have hlow := hexValue?_upperHex (n := b.toNat % 16) (by omega)
  have hvalue : UInt8.ofNat (b.toNat / 16 * 16 + b.toNat % 16) = b := by
    rw [Nat.div_add_mod', UInt8.ofNat_toNat]
  simp only [encodeByte, List.cons_append, List.nil_append, decode, hhigh, hlow, hvalue]

theorem decode_encodeBytes (bs : List UInt8) (cs : List Char) :
    decode (bs.flatMap encodeByte ++ cs) = bs ++ decode cs := by
  induction bs with
  | nil => rfl
  | cons b bs ih =>
    rw [List.flatMap_cons, List.append_assoc, decode_encodeByte, ih, List.cons_append]

theorem decode_cons_of_ne {c : Char} (h : c ≠ '%') (cs : List Char) :
    decode (c :: cs) = String.utf8EncodeChar c ++ decode cs := by
  rw [decode]
  rintro _ _ _ rfl
  exact absurd rfl h

theorem decode_encode {kept : Char → Bool} (hkept : kept '%' = false) (cs : List Char) :
    decode (encode kept cs) = cs.flatMap String.utf8EncodeChar := by
  induction cs with
  | nil => rfl
  | cons c cs ih =>
    change decode ((if kept c then [c] else encodeChar c) ++ encode kept cs) = _
    rw [List.flatMap_cons, ← ih]
    cases hc : kept c with
    | true =>
      have hne : c ≠ '%' := by
        rintro rfl
        rw [hkept] at hc
        cases hc
      exact decode_cons_of_ne hne _
    | false => exact decode_encodeBytes _ _

theorem textOf?_utf8 (cs : List Char) :
    textOf? (cs.flatMap String.utf8EncodeChar) = some cs := by
  have hbytes : (⟨(cs.flatMap String.utf8EncodeChar).toArray⟩ : ByteArray) =
      (String.ofList cs).toByteArray := by
    rw [String.toByteArray_ofList, List.utf8Encode, ← List.data_toByteArray]
  have hread : String.fromUTF8? (String.ofList cs).toByteArray = some (String.ofList cs) :=
    dif_pos (String.ofList cs).isValidUTF8
  rw [textOf?, hbytes, hread, Option.map_some, String.toList_ofList]

theorem textOf?_decode_encode {kept : Char → Bool} (hkept : kept '%' = false) (cs : List Char) :
    textOf? (decode (encode kept cs)) = some cs := by
  rw [decode_encode hkept, textOf?_utf8]

theorem encode_eq_self {kept : Char → Bool} {cs : List Char} (h : ∀ c ∈ cs, kept c = true) :
    encode kept cs = cs := by
  induction cs with
  | nil => rfl
  | cons c cs ih =>
    change (if kept c then [c] else encodeChar c) ++ encode kept cs = c :: cs
    rw [if_pos (h c List.mem_cons_self), ih fun c hc => h c (List.mem_cons_of_mem _ hc)]
    rfl

theorem length_le_encode (kept : Char → Bool) (cs : List Char) :
    cs.length ≤ (encode kept cs).length := by
  have hchar (c : Char) : 0 < (if kept c then [c] else encodeChar c).length := by
    split
    next => exact Nat.one_pos
    next =>
      have hbytes : 0 < (String.utf8EncodeChar c).length := by
        rw [String.length_utf8EncodeChar]
        exact c.utf8Size_pos
      obtain ⟨b, bs, hbs⟩ := List.exists_cons_of_length_pos hbytes
      rw [encodeChar, hbs]
      exact Nat.succ_pos _
  induction cs with
  | nil => exact Nat.le_refl 0
  | cons c cs ih =>
    have hc := hchar c
    rw [encode] at ih ⊢
    rw [List.flatMap_cons, List.length_append, List.length_cons]
    omega

theorem mem_encode {kept : Char → Bool} {cs : List Char} {c : Char} (h : c ∈ encode kept cs) :
    kept c = true ∨ c = '%' ∨ isAsciiAlphanumeric c = true := by
  obtain ⟨a, -, hc⟩ := List.mem_flatMap.1 h
  split at hc
  next ha =>
    rw [List.mem_singleton.1 hc]
    exact .inl ha
  next =>
    obtain ⟨b, -, hc⟩ := List.mem_flatMap.1 hc
    have hb := b.toNat_lt
    simp only [encodeByte, List.mem_cons, List.not_mem_nil, or_false] at hc
    obtain rfl | rfl | rfl := hc
    · exact .inr (.inl rfl)
    · exact .inr (.inr (isAsciiAlphanumeric_upperHex (by omega)))
    · exact .inr (.inr (isAsciiAlphanumeric_upperHex (by omega)))

end Percent

end DeployWizard.Text
