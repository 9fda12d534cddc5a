set_option autoImplicit false

namespace DeployWizard.Text

/-- The characters of the Unicode property White_Space. -/
def isBlank (c : Char) : Bool :=
  let n := c.toNat
  (9 ≤ n && n ≤ 13) || n == 0x20 || n == 0x85 || n == 0xA0 || n == 0x1680 ||
    (0x2000 ≤ n && n ≤ 0x200A) || n == 0x2028 || n == 0x2029 || n == 0x202F ||
    n == 0x205F || n == 0x3000

def dropBlanksEnd (cs : List Char) : List Char :=
  (cs.reverse.dropWhile isBlank).reverse

def trimChars (cs : List Char) : List Char :=
  dropBlanksEnd (cs.dropWhile isBlank)

def trim (s : String) : String :=
  String.ofList (trimChars s.toList)

/-- The pieces between the occurrences of a separator; always at least one. -/
def fields (sep : Char) : List Char → List (List Char)
  | [] => [[]]
  | c :: cs =>
    if c = sep then [] :: fields sep cs
    else
      match fields sep cs with
      | [] => [[c]]
      | f :: fs => (c :: f) :: fs

theorem fields_ne_nil (sep : Char) (cs : List Char) : fields sep cs ≠ [] := by
  cases cs with
  | nil => simp [fields]
  | cons c cs =>
    unfold fields
    split
    · simp
    · split <;> simp

theorem fields_of_notMem {sep : Char} {cs : List Char} (h : sep ∉ cs) : fields sep cs = [cs] := by
  induction cs with
  | nil => rfl
  | cons c cs ih =>
    rw [List.mem_cons, not_or] at h
    rw [fields, if_neg (Ne.symm h.1), ih h.2]

theorem fields_append_cons {sep : Char} {cs : List Char} (h : sep ∉ cs) (rest : List Char) :
    fields sep (cs ++ sep :: rest) = cs :: fields sep rest := by
  induction cs with
  | nil => simp [fields]
  | cons c cs ih =>
    rw [List.mem_cons, not_or] at h
    rw [List.cons_append, fields, if_neg (Ne.symm h.1), ih h.2]

theorem fields_joined {sep : Char} {s : List Char} {ss : List (List Char)}
    (h : ∀ t ∈ s :: ss, sep ∉ t) : fields sep (s ++ ss.flatMap (sep :: ·)) = s :: ss := by
  induction ss generalizing s with
  | nil => rw [List.flatMap_nil, List.append_nil, fields_of_notMem (h s List.mem_cons_self)]
  | cons t ts ih =>
    rw [List.flatMap_cons, List.cons_append, fields_append_cons (h s List.mem_cons_self),
      ih fun u hu => h u (List.mem_cons_of_mem _ hu)]

theorem joined_of_fields {sep : Char} {cs s : List Char} {ss : List (List Char)}
    (h : fields sep cs = s :: ss) : s ++ ss.flatMap (sep :: ·) = cs := by
  induction cs generalizing s ss with
  | nil =>
    cases h
    rfl
  | cons c cs ih =>
    obtain ⟨t, ts, ht⟩ := List.exists_cons_of_ne_nil (fields_ne_nil sep cs)
    unfold fields at h
    split at h
    next hsep =>
      cases h
      rw [ht, List.flatMap_cons, List.nil_append, List.cons_append, ih ht, hsep]
    next =>
      rw [ht] at h
      cases h
      rw [List.cons_append, ih ht]

theorem mem_of_mem_fields {sep : Char} {cs t : List Char} (ht : t ∈ fields sep cs) {c : Char}
    (hc : c ∈ t) : c ∈ cs := by
  obtain ⟨s, ss, hs⟩ := List.exists_cons_of_ne_nil (fields_ne_nil sep cs)
  rw [← joined_of_fields hs]
  rw [hs] at ht
  obtain rfl | ht := List.mem_cons.1 ht
  · exact List.mem_append_left _ hc
  · exact List.mem_append_right _ (List.mem_flatMap.2 ⟨t, ht, List.mem_cons_of_mem _ hc⟩)

end DeployWizard.Text
