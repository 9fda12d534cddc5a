import DeployWizard.Proofs.JsonLexemes

set_option autoImplicit false

namespace DeployWizard.Json

inductive Tree where
  | scalar (s : Scalar)
  | literal (l : Literal)
  | array (items : List Tree)
  | object (members : List (Literal × Tree))

def Token.leaf : Token → Value
  | .null => .null
  | .bool b => .bool b
  | .number n => .number n
  | .text s => .text s
  | _ => .unreadable

namespace Tree

def separated : List (List Lexeme) → List Lexeme
  | [] => []
  | part :: parts => part ++ parts.flatMap (.mark .comma :: ·)

mutual
def lexemes : Tree → List Lexeme
  | .scalar s => [.scalar s]
  | .literal l => [.literal l]
  | .array ws => .mark .openArray :: (separated (itemParts ws) ++ [.mark .closeArray])
  | .object ms => .mark .openObject :: (separated (memberParts ms) ++ [.mark .closeObject])

def itemParts : List Tree → List (List Lexeme)
  | [] => []
  | w :: ws => lexemes w :: itemParts ws

def memberParts : List (Literal × Tree) → List (List Lexeme)
  | [] => []
  | (k, w) :: ms => (.literal k :: .mark .colon :: lexemes w) :: memberParts ms
end

mutual
def value : Tree → Value
  | .scalar s => s.token.leaf
  | .literal l => (Piece.token l.pieces).leaf
  | .array ws => .array (itemValues ws)
  | .object ms => objectOf (memberValues ms)

def itemValues : List Tree → List Value
  | [] => []
  | w :: ws => value w :: itemValues ws

def memberValues : List (Literal × Tree) → List (Option String × Value)
  | [] => []
  | (k, w) :: ms => (k.key, value w) :: memberValues ms
end

def Spells (w : Tree) (t : String) : Prop :=
  Spaced w.lexemes t.toList

/-- What holds of a tree as soon as it holds of the trees in it holds of all trees. -/
@[elab_as_elim]
theorem parts_induction {P : Tree → Prop} (scalar : ∀ s, P (.scalar s))
    (literal : ∀ l, P (.literal l)) (array : ∀ ws, (∀ w ∈ ws, P w) → P (.array ws))
    (object : ∀ ms, (∀ m ∈ ms, P m.2) → P (.object ms)) (w : Tree) : P w :=
  match w with
  | .scalar s => scalar s
  | .literal l => literal l
  | .array ws => array ws fun w _ => parts_induction scalar literal array object w
  | .object ms => object ms fun m hm =>
    have hmember : sizeOf m.2 < sizeOf ms := by
      have hsize := List.sizeOf_lt_of_mem hm
      obtain ⟨k, w⟩ := m
      rw [Prod.mk.sizeOf_spec] at hsize
      change sizeOf w < sizeOf ms
      omega
    parts_induction scalar literal array object m.2

end Tree

namespace Position

theorem beginValue_scalar (s : Scalar) (outer : List Frame) :
    beginValue outer s.token = some (.after outer (Tree.scalar s).value) := by
  cases s with
  | word cs t h => obtain ⟨-, rfl⟩ | ⟨-, rfl⟩ | ⟨-, rfl⟩ := Scan.wordToken?_cases h <;> rfl
  | number c cs n hfirst hrest h => rfl

theorem beginValue_literal (l : Literal) (outer : List Frame) :
    beginValue outer (Piece.token l.pieces) = some (.after outer (Tree.literal l).value) := by
  rw [Tree.value, l.token_pieces]
  cases l.key <;> rfl

theorem step_firstItem {t : Token} (h : t ≠ .closeArray) (outer : List Frame) :
    (firstItem outer).step t = beginValue (.items [] :: outer) t := by
  cases t with
  | closeArray => exact absurd rfl h
  | _ => rfl

theorem step_firstKey {outer : List Frame} {t : Token} {q : Position}
    (h : (firstKey outer).step t = some q) :
    (t = .closeObject ∧ q = .after outer (.object [])) ∨
      ∃ key, t = Literal.keyToken key ∧ q = .colon outer [] key := by
  cases t with
  | closeObject => exact Or.inl ⟨rfl, (Option.some.inj h).symm⟩
  | text s => exact Or.inr ⟨some s, rfl, (Option.some.inj h).symm⟩
  | unpaired => exact Or.inr ⟨none, rfl, (Option.some.inj h).symm⟩
  | _ => cases h

theorem step_key {outer : List Frame} {read : List (Option String × Value)} {t : Token}
    {q : Position} (h : (key outer read).step t = some q) :
    ∃ key, t = Literal.keyToken key ∧ q = .colon outer read key := by
  cases t with
  | text s => exact ⟨some s, rfl, (Option.some.inj h).symm⟩
  | unpaired => exact ⟨none, rfl, (Option.some.inj h).symm⟩
  | _ => cases h

theorem step_colon {outer : List Frame} {read : List (Option String × Value)}
    {key : Option String} {t : Token} {q : Position}
    (h : (colon outer read key).step t = some q) :
    t = .colon ∧ q = .value (.member read key :: outer) := by
  cases t with
  | colon => exact ⟨rfl, (Option.some.inj h).symm⟩
  | _ => cases h

theorem step_afterItem {outer : List Frame} {read : List Value} {v : Value} {t : Token}
    {q : Position} (h : (after (.items read :: outer) v).step t = some q) :
    (t = .comma ∧ q = .value (.items (v :: read) :: outer)) ∨
      (t = .closeArray ∧ q = .after outer (.array (v :: read).reverse)) := by
  cases t with
  | comma => exact Or.inl ⟨rfl, (Option.some.inj h).symm⟩
  | closeArray => exact Or.inr ⟨rfl, (Option.some.inj h).symm⟩
  | _ => cases h

theorem step_afterMember {outer : List Frame} {read : List (Option String × Value)}
    {key : Option String} {v : Value} {t : Token} {q : Position}
    (h : (after (.member read key :: outer) v).step t = some q) :
    (t = .comma ∧ q = .key outer ((key, v) :: read)) ∨
      (t = .closeObject ∧ q = .after outer (objectOf ((key, v) :: read).reverse)) := by
  cases t with
  | comma => exact Or.inl ⟨rfl, (Option.some.inj h).symm⟩
  | closeObject => exact Or.inr ⟨rfl, (Option.some.inj h).symm⟩
  | _ => cases h

def readAll (p : Position) (ls : List Lexeme) : Option Position :=
  p.stepAll (ls.map Lexeme.token)

theorem readAll_cons (p : Position) (l : Lexeme) (ls : List Lexeme) :
    p.readAll (l :: ls) = (p.step l.token).bind fun q => q.readAll ls :=
  rfl

theorem readAll_append (p : Position) (ls ls' : List Lexeme) :
    p.readAll (ls ++ ls') = (p.readAll ls).bind fun q => q.readAll ls' := by
  simp only [readAll, List.map_append, stepAll_append]

theorem readAll_firstKey (outer : List Frame) (k : Literal) (ls : List Lexeme) :
    (firstKey outer).readAll (.literal k :: .mark .colon :: ls) =
      (value (.member [] k.key :: outer)).readAll ls := by
  rw [readAll_cons, Lexeme.token, k.token_pieces]
  cases k.key <;> rfl

theorem readAll_key (outer : List Frame) (read : List (Option String × Value)) (k : Literal)
    (ls : List Lexeme) :
    (key outer read).readAll (.literal k :: .mark .colon :: ls) =
      (value (.member read k.key :: outer)).readAll ls := by
  rw [readAll_cons, Lexeme.token, k.token_pieces]
  cases k.key <;> rfl

end Position

namespace Tree

def lead (parts : List (List Lexeme)) : List Lexeme :=
  parts.flatMap (· ++ [.mark .comma])

theorem lead_concat (parts : List (List Lexeme)) (part : List Lexeme) :
    lead (parts ++ [part]) = lead parts ++ part ++ [.mark .comma] := by
  rw [lead, List.flatMap_append, List.flatMap_singleton, List.append_assoc, lead]

theorem separated_concat (parts : List (List Lexeme)) (part : List Lexeme) :
    separated (parts ++ [part]) = lead parts ++ part := by
  have hshift (parts : List (List Lexeme)) :
      (parts ++ [part]).flatMap (.mark .comma :: ·) = .mark .comma :: (lead parts ++ part) := by
    induction parts with
    | nil => simp [lead]
    | cons p parts ih => rw [List.cons_append, List.flatMap_cons, ih]; simp [lead]
  cases parts with
  | nil => simp [lead, separated]
  | cons p parts => rw [List.cons_append, separated, hshift]; simp [lead]

theorem itemParts_concat (ws : List Tree) (w : Tree) :
    itemParts (ws ++ [w]) = itemParts ws ++ [w.lexemes] := by
  induction ws with
  | nil => rfl
  | cons u ws ih => rw [List.cons_append, itemParts, ih, itemParts, List.cons_append]

theorem memberParts_concat (ms : List (Literal × Tree)) (k : Literal) (w : Tree) :
    memberParts (ms ++ [(k, w)]) =
      memberParts ms ++ [.literal k :: .mark .colon :: w.lexemes] := by
  induction ms with
  | nil => rfl
  | cons m ms ih => rw [List.cons_append, memberParts, ih, memberParts, List.cons_append]

theorem itemValues_concat (ws : List Tree) (w : Tree) :
    itemValues (ws ++ [w]) = itemValues ws ++ [w.value] := by
  induction ws with
  | nil => rfl
  | cons u ws ih => rw [List.cons_append, itemValues, ih, itemValues, List.cons_append]

theorem memberValues_concat (ms : List (Literal × Tree)) (k : Literal) (w : Tree) :
    memberValues (ms ++ [(k, w)]) = memberValues ms ++ [(k.key, w.value)] := by
  induction ms with
  | nil => rfl
  | cons m ms ih => rw [List.cons_append, memberValues, ih, memberValues, List.cons_append]

/-- Containers that are open, as the reader keeps them, and the lexemes that they were read from. -/
inductive Opened : List Frame → List Lexeme → Prop where
  | nil : Opened [] []
  | items {outer : List Frame} {ls : List Lexeme} (ws : List Tree) (h : Opened outer ls) :
      Opened (.items (itemValues ws).reverse :: outer)
        (ls ++ .mark .openArray :: lead (itemParts ws))
  | member {outer : List Frame} {ls : List Lexeme} (ms : List (Literal × Tree)) (k : Literal)
      (h : Opened outer ls) :
      Opened (.member (memberValues ms).reverse k.key :: outer)
        (ls ++ .mark .openObject :: (lead (memberParts ms) ++ [.literal k, .mark .colon]))

/-- The position of the reader once it has read the lexemes. -/
inductive Reached : Position → List Lexeme → Prop where
  | value {outer : List Frame} {ls : List Lexeme} (h : Opened outer ls) :
      Reached (.value outer) ls
  | firstItem {outer : List Frame} {ls : List Lexeme} (h : Opened outer ls) :
      Reached (.firstItem outer) (ls ++ [.mark .openArray])
  | firstKey {outer : List Frame} {ls : List Lexeme} (h : Opened outer ls) :
      Reached (.firstKey outer) (ls ++ [.mark .openObject])
  | key {outer : List Frame} {ls : List Lexeme} (ms : List (Literal × Tree))
      (h : Opened outer ls) :
      Reached (.key outer (memberValues ms).reverse)
        (ls ++ .mark .openObject :: lead (memberParts ms))
  | colon {outer : List Frame} {ls : List Lexeme} (ms : List (Literal × Tree)) (k : Literal)
      (h : Opened outer ls) :
      Reached (.colon outer (memberValues ms).reverse k.key)
        (ls ++ .mark .openObject :: (lead (memberParts ms) ++ [.literal k]))
  | after {outer : List Frame} {ls : List Lexeme} (w : Tree) (h : Opened outer ls) :
      Reached (.after outer w.value) (ls ++ w.lexemes)

theorem Opened.beginValue {outer : List Frame} {ls : List Lexeme} {l : Lexeme} {q : Position}
    (h : Opened outer ls) (hq : Position.beginValue outer l.token = some q) :
    Reached q (ls ++ [l]) := by
  cases l with
  | mark m => cases m <;> cases hq <;> constructor <;> exact h
  | scalar s =>
    rw [Lexeme.token, Position.beginValue_scalar, Option.some.injEq] at hq
    exact hq ▸ Reached.after (.scalar s) h
  | literal l =>
    rw [Lexeme.token, Position.beginValue_literal, Option.some.injEq] at hq
    exact hq ▸ Reached.after (.literal l) h

theorem Reached.step {p q : Position} {ls : List Lexeme} {l : Lexeme} (h : Reached p ls)
    (hq : p.step l.token = some q) : Reached q (ls ++ [l]) := by
  cases h with
  | value h => exact h.beginValue hq
  | @firstItem outer ls h =>
    by_cases hclose : l.token = .closeArray
    · rw [hclose] at hq
      obtain rfl := Option.some.inj hq
      rw [l.eq_mark .closeArray hclose, List.append_assoc]
      exact Reached.after (.array []) h
    · -- What does not close the array begins its first item.
      rw [Position.step_firstItem hclose] at hq
      exact (Opened.items [] h).beginValue hq
  | @firstKey outer ls h =>
    obtain ⟨ht, rfl⟩ | ⟨key, ht, rfl⟩ := Position.step_firstKey hq
    · rw [l.eq_mark .closeObject ht, List.append_assoc]
      exact Reached.after (.object []) h
    · obtain ⟨k, rfl, rfl⟩ := Lexeme.exists_literal ht
      rw [List.append_assoc]
      exact Reached.colon [] k h
  | @key outer ls ms h =>
    obtain ⟨key, ht, rfl⟩ := Position.step_key hq
    obtain ⟨k, rfl, rfl⟩ := Lexeme.exists_literal ht
    rw [List.append_assoc]
    exact Reached.colon ms k h
  | @colon outer ls ms k h =>
    obtain ⟨ht, rfl⟩ := Position.step_colon hq
    rw [l.eq_mark .colon ht, List.append_assoc, List.cons_append, List.append_assoc]
    exact Reached.value (Opened.member ms k h)
  | @after outer ls w h =>
    cases h with
    | nil => cases hq
    | @items outer ls ws h =>
      obtain ⟨ht, rfl⟩ | ⟨ht, rfl⟩ := Position.step_afterItem hq
      · have hnext := Reached.value (Opened.items (ws ++ [w]) h)
        rw [itemValues_concat, List.reverse_append, itemParts_concat, lead_concat] at hnext
        rw [l.eq_mark .comma ht]
        simpa using hnext
      · have hnext := Reached.after (.array (ws ++ [w])) h
        rw [Tree.value, itemValues_concat, lexemes, itemParts_concat, separated_concat] at hnext
        rw [l.eq_mark .closeArray ht]
        simpa using hnext
    | @member outer ls ms k h =>
      obtain ⟨ht, rfl⟩ | ⟨ht, rfl⟩ := Position.step_afterMember hq
      · have hnext := Reached.key (ms ++ [(k, w)]) h
        rw [memberValues_concat, List.reverse_append, memberParts_concat, lead_concat] at hnext
        rw [l.eq_mark .comma ht]
        simpa using hnext
      · have hnext := Reached.after (.object (ms ++ [(k, w)])) h
        rw [Tree.value, memberValues_concat, lexemes, memberParts_concat, separated_concat] at hnext
        rw [l.eq_mark .closeObject ht]
        simpa using hnext

theorem Reached.readAll {p q : Position} {ls ls' : List Lexeme} (h : Reached p ls)
    (hq : p.readAll ls' = some q) : Reached q (ls ++ ls') := by
  induction ls' generalizing p ls with
  | nil =>
    obtain rfl := Option.some.inj hq
    rwa [List.append_nil]
  | cons l ls' ih =>
    obtain ⟨r, hr, hrest⟩ := Option.bind_eq_some_iff.1 hq
    have hnext := ih (h.step hr) hrest
    rwa [List.append_assoc, List.singleton_append] at hnext

def Read (w : Tree) : Prop :=
  ∀ outer, (Position.value outer).readAll w.lexemes = some (.after outer w.value)

theorem exists_lexemes_cons (w : Tree) :
    ∃ l ls, w.lexemes = l :: ls ∧ l ≠ .mark .closeArray := by
  cases w with
  | scalar s => exact ⟨_, _, rfl, nofun⟩
  | literal l => exact ⟨_, _, rfl, nofun⟩
  | array ws => exact ⟨_, _, rfl, nofun⟩
  | object ms => exact ⟨_, _, rfl, nofun⟩

theorem Read.firstItem {w : Tree} (h : w.Read) (outer : List Frame) :
    (Position.firstItem outer).readAll w.lexemes = some (.after (.items [] :: outer) w.value) := by
  obtain ⟨l, ls, hw, hl⟩ := w.exists_lexemes_cons
  have hclose : l.token ≠ .closeArray := fun ht => hl (l.eq_mark .closeArray ht)
  rw [← h, hw, Position.readAll_cons, Position.step_firstItem hclose]
  rfl

theorem readAll_items {ws : List Tree} (h : ∀ w ∈ ws, w.Read) (outer : List Frame)
    (read : List Value) (v : Value) :
    (Position.after (.items read :: outer) v).readAll
        ((itemParts ws).flatMap (.mark .comma :: ·) ++ [.mark .closeArray]) =
      some (.after outer (.array ((v :: read).reverse ++ itemValues ws))) := by
  induction ws generalizing read v with
  | nil => rw [itemValues, List.append_nil]; rfl
  | cons w ws ih =>
    obtain ⟨hw, hws⟩ := List.forall_mem_cons.1 h
    have hcomma (ls : List Lexeme) :
        (Position.after (.items read :: outer) v).readAll (.mark .comma :: ls) =
          (Position.value (.items (v :: read) :: outer)).readAll ls := rfl
    rw [itemParts, List.flatMap_cons, List.cons_append, List.cons_append, hcomma,
      List.append_assoc, Position.readAll_append, hw, Option.bind_some, ih hws]
    simp [itemValues]

theorem readAll_members {ms : List (Literal × Tree)} (h : ∀ m ∈ ms, m.2.Read)
    (outer : List Frame) (read : List (Option String × Value)) (key : Option String) (v : Value) :
    (Position.after (.member read key :: outer) v).readAll
        ((memberParts ms).flatMap (.mark .comma :: ·) ++ [.mark .closeObject]) =
      some (.after outer (objectOf (((key, v) :: read).reverse ++ memberValues ms))) := by
  induction ms generalizing read key v with
  | nil => rw [memberValues, List.append_nil]; rfl
  | cons m ms ih =>
    obtain ⟨hm, hms⟩ := List.forall_mem_cons.1 h
    have hcomma (ls : List Lexeme) :
        (Position.after (.member read key :: outer) v).readAll (.mark .comma :: ls) =
          (Position.key outer ((key, v) :: read)).readAll ls := rfl
    simp only [memberParts, List.flatMap_cons, List.cons_append, List.append_assoc]
    rw [hcomma, Position.readAll_key, Position.readAll_append, hm, Option.bind_some, ih hms]
    simp [memberValues]

theorem reads (w : Tree) : w.Read := by
  induction w using parts_induction with
  | scalar s =>
    intro outer
    rw [lexemes, Position.readAll_cons, Lexeme.token]
    exact congrArg (Option.bind · _) (Position.beginValue_scalar s outer)
  | literal l =>
    intro outer
    rw [lexemes, Position.readAll_cons, Lexeme.token]
    exact congrArg (Option.bind · _) (Position.beginValue_literal l outer)
  | array ws ih =>
    intro outer
    cases ws with
    | nil => rfl
    | cons w ws =>
      obtain ⟨hw, hws⟩ := List.forall_mem_cons.1 ih
      have hopen (ls : List Lexeme) :
          (Position.value outer).readAll (.mark .openArray :: ls) =
            (Position.firstItem outer).readAll ls := rfl
      rw [lexemes, hopen, itemParts, separated, List.append_assoc, Position.readAll_append,
        hw.firstItem, Option.bind_some, readAll_items hws]
      rfl
  | object ms ih =>
    intro outer
    cases ms with
    | nil => rfl
    | cons m ms =>
      obtain ⟨hm, hms⟩ := List.forall_mem_cons.1 ih
      have hopen (ls : List Lexeme) :
          (Position.value outer).readAll (.mark .openObject :: ls) =
            (Position.firstKey outer).readAll ls := rfl
      simp only [lexemes, memberParts, separated, List.cons_append, List.append_assoc]
      rw [hopen, Position.readAll_firstKey, Position.readAll_append, hm, Option.bind_some,
        readAll_members hms]
      rfl

theorem ofTokens?_eq_some_iff {ls : List Lexeme} {v : Value} :
    ofTokens? (ls.map Lexeme.token) = some v ↔ ∃ w : Tree, w.lexemes = ls ∧ w.value = v := by
  constructor
  · intro h
    obtain ⟨q, hq, hend⟩ := Option.bind_eq_some_iff.1 h
    have hreached := (Reached.value Opened.nil).readAll hq
    rw [List.nil_append] at hreached
    cases hreached with
    | after w hopen =>
      cases hopen with
      | nil => exact ⟨w, rfl, Option.some.inj hend⟩
      | items ws h => cases hend
      | member ms k h => cases hend
    | _ => cases hend
  · rintro ⟨w, rfl, rfl⟩
    exact congrArg (Option.bind · Position.finish) (w.reads [])

end Tree

/-- The reader takes the texts of trees and no others. -/
theorem read?_eq_some_iff {t : String} {v : Value} :
    read? t = some v ↔ ∃ w : Tree, w.Spells t ∧ w.value = v := by
  constructor
  · intro h
    obtain ⟨ts, hts, hv⟩ := Option.bind_eq_some_iff.1 h
    obtain ⟨ls, hls, rfl⟩ := tokens?_eq_some_iff.1 hts
    obtain ⟨w, rfl, hw⟩ := Tree.ofTokens?_eq_some_iff.1 hv
    exact ⟨w, hls, hw⟩
  · rintro ⟨w, hw, hv⟩
    have hts := tokens?_eq_some_iff.2 ⟨w.lexemes, hw, rfl⟩
    exact Option.bind_eq_some_iff.2 ⟨_, hts, Tree.ofTokens?_eq_some_iff.2 ⟨w, rfl, hv⟩⟩

end DeployWizard.Json
