import Mathlib.Data.List.TakeWhile
import Mathlib.Tactic.Common
import DeployWizard.Json.Reader

set_option autoImplicit false

/-!
The lexemes of a JSON text, spelled as they stand there: the lexer takes the rows of lexemes with
blanks between them and no other texts.
-/
namespace DeployWizard.Json
open Text

inductive Piece.SpelledBy : Piece → List Char → Prop where
  | plain {c : Char} (hquote : c ≠ '"') (hback : c ≠ '\\') (hcontrol : 0x20 ≤ c.toNat) :
      SpelledBy (.char c) [c]
  | escape {c d : Char} (h : Scan.escaped? c = some d) : SpelledBy (.char d) ['\\', c]
  | code {a b c d : Char} {k l m n : Nat} (ha : hexValue? a = some k) (hb : hexValue? b = some l)
      (hc : hexValue? c = some m) (hd : hexValue? d = some n) :
      SpelledBy (.ofCode (((k * 16 + l) * 16 + m) * 16 + n)) ['\\', 'u', a, b, c, d]

inductive Body : List Char → List Piece → Prop where
  | nil : Body [] []
  | cons {cs b : List Char} {p : Piece} {ps : List Piece} (hp : p.SpelledBy cs) (h : Body b ps) :
      Body (cs ++ b) (p :: ps)

structure Literal where
  body : List Char
  pieces : List Piece
  spelled : Body body pieces

inductive Scalar where
  | word (cs : List Char) (t : Token) (h : Scan.wordToken? cs = some t)
  | number (c : Char) (cs : List Char) (n : Number) (hfirst : (isAsciiDigit c || c = '-') = true)
      (hrest : ∀ d ∈ cs, Scan.isNumberChar d = true) (h : Number.ofChars? (c :: cs) = some n)

inductive Mark where
  | openArray
  | closeArray
  | openObject
  | closeObject
  | comma
  | colon
  deriving DecidableEq

inductive Lexeme where
  | mark (m : Mark)
  | scalar (s : Scalar)
  | literal (l : Literal)

namespace Mark

def char : Mark → Char
  | openArray => '['
  | closeArray => ']'
  | openObject => '{'
  | closeObject => '}'
  | comma => ','
  | colon => ':'

def token : Mark → Token
  | openArray => .openArray
  | closeArray => .closeArray
  | openObject => .openObject
  | closeObject => .closeObject
  | comma => .comma
  | colon => .colon

end Mark

namespace Literal

def chars (l : Literal) : List Char :=
  '"' :: (l.body ++ ['"'])

def key (l : Literal) : Option String :=
  (Piece.join l.pieces).map String.ofList

def keyToken : Option String → Token
  | some s => .text s
  | none => .unpaired

theorem keyToken_inj {k l : Option String} (h : keyToken k = keyToken l) : k = l := by
  cases k <;> cases l <;> simp_all [keyToken]

theorem token_pieces (l : Literal) : Piece.token l.pieces = keyToken l.key := by
  unfold Piece.token key
  cases Piece.join l.pieces <;> rfl

end Literal

namespace Scalar

def chars : Scalar → List Char
  | word cs _ _ => cs
  | number c cs _ _ _ _ => c :: cs

def token : Scalar → Token
  | word _ t _ => t
  | number _ _ n _ _ _ => .number n

end Scalar

namespace Lexeme

def chars : Lexeme → List Char
  | mark m => [m.char]
  | scalar s => s.chars
  | literal l => l.chars

def token : Lexeme → Token
  | mark m => m.token
  | scalar s => s.token
  | literal l => Piece.token l.pieces

def goesOn : Lexeme → Char → Bool
  | scalar (.word _ _ _), c => isAsciiLetter c
  | scalar (.number _ _ _ _ _ _), c => Scan.isNumberChar c
  | _, _ => false

end Lexeme

/-- The characters of a row of lexemes, with blanks around them; a scalar ends where it must. -/
inductive Spaced : List Lexeme → List Char → Prop where
  | nil : Spaced [] []
  | space {ls : List Lexeme} {c : Char} {cs : List Char} (hc : Scan.isSpace c = true)
      (h : Spaced ls cs) : Spaced ls (c :: cs)
  | lexeme {ls : List Lexeme} {cs : List Char} (l : Lexeme)
      (hends : ∀ c ∈ cs.head?, l.goesOn c = false) (h : Spaced ls cs) :
      Spaced (l :: ls) (l.chars ++ cs)

theorem spaced_mark (m : Mark) {ls : List Lexeme} {cs : List Char} (h : Spaced ls cs) :
    Spaced (.mark m :: ls) (m.char :: cs) :=
  Spaced.lexeme (.mark m) (fun _ _ => rfl) h

theorem spaced_literal (l : Literal) {ls : List Lexeme} {cs : List Char} (h : Spaced ls cs) :
    Spaced (.literal l :: ls) (l.chars ++ cs) :=
  Spaced.lexeme (.literal l) (fun _ _ => rfl) h

namespace Scan

def tokensFrom? (s : Scan) (cs : List Char) : Option (List Token) :=
  (s.feedAll cs).bind finish

theorem tokensFrom?_cons (s : Scan) (c : Char) (cs : List Char) :
    s.tokensFrom? (c :: cs) = (s.feed c).bind fun t => t.tokensFrom? cs := by
  simp only [tokensFrom?, feedAll, Option.bind_assoc]

theorem feedBetween_cases {ts : List Token} {c : Char} {s : Scan} (h : feedBetween ts c = some s) :
    (∃ m : Mark, c = m.char ∧ s = ⟨.between, m.token :: ts⟩) ∨
      (c = '"' ∧ s = ⟨.text [], ts⟩) ∨ (isSpace c = true ∧ s = ⟨.between, ts⟩) ∨
      ((isAsciiDigit c || c = '-') = true ∧ s = ⟨.number [c], ts⟩) ∨
      (isAsciiLetter c = true ∧ s = ⟨.word [c], ts⟩) := by
  unfold feedBetween at h
  by_cases hmark : ∃ m : Mark, c = m.char
  · obtain ⟨m, rfl⟩ := hmark
    cases m <;> exact Or.inl ⟨_, rfl, (Option.some.inj h).symm⟩
  · have hother : c ≠ '[' ∧ c ≠ ']' ∧ c ≠ '\x7b' ∧ c ≠ '\x7d' ∧ c ≠ ',' ∧ c ≠ ':' :=
      ⟨fun hc => hmark ⟨.openArray, hc⟩, fun hc => hmark ⟨.closeArray, hc⟩,
        fun hc => hmark ⟨.openObject, hc⟩, fun hc => hmark ⟨.closeObject, hc⟩,
        fun hc => hmark ⟨.comma, hc⟩, fun hc => hmark ⟨.colon, hc⟩⟩
    simp only [hother, if_false] at h
    split_ifs at h with hquote hspace hnumber hletter <;> rw [← Option.some.inj h]
    · exact Or.inr (Or.inl ⟨hquote, rfl⟩)
    · exact Or.inr (Or.inr (Or.inl ⟨hspace, rfl⟩))
    · exact Or.inr (Or.inr (Or.inr (Or.inl ⟨hnumber, rfl⟩)))
    · exact Or.inr (Or.inr (Or.inr (Or.inr ⟨hletter, rfl⟩)))

theorem feedBetween_mark (m : Mark) (ts : List Token) :
    feedBetween ts m.char = some ⟨.between, m.token :: ts⟩ := by
  cases m <;> rfl

theorem feedBetween_space {c : Char} (h : isSpace c = true) (ts : List Token) :
    feedBetween ts c = some ⟨.between, ts⟩ := by
  simp only [isSpace, Bool.or_eq_true, decide_eq_true_eq] at h
  obtain ((rfl | rfl) | rfl) | rfl := h <;> rfl

theorem feedBetween_number {c : Char} (h : (isAsciiDigit c || c = '-') = true) (ts : List Token) :
    feedBetween ts c = some ⟨.number [c], ts⟩ := by
  have hother : ∀ d ∈ ['[', ']', '\x7b', '\x7d', ',', ':', '"', ' ', '\n', '\t', '\r'], c ≠ d := by
    rintro d hd rfl
    simp only [List.mem_cons, List.not_mem_nil, or_false] at hd
    obtain rfl | rfl | rfl | rfl | rfl | rfl | rfl | rfl | rfl | rfl | rfl := hd <;> cases h
  simp only [List.forall_mem_cons] at hother
  simp [feedBetween, isSpace, hother, h]

/-- A word or a number goes on as far as its characters do. -/
theorem tokensFrom?_run {mode : List Char → Mode} {p : Char → Bool}
    {close : List Char → List Token → Option (List Token)}
    (hfeed : ∀ read ts c, feed ⟨mode read, ts⟩ c =
      if p c then some ⟨mode (c :: read), ts⟩
      else (close read ts).bind fun ts => feedBetween ts c)
    (hfinish : ∀ read ts, finish ⟨mode read, ts⟩ = (close read ts).map List.reverse)
    (read : List Char) (ts : List Token) (cs : List Char) :
    tokensFrom? ⟨mode read, ts⟩ cs =
      (close ((cs.takeWhile p).reverse ++ read) ts).bind fun ts =>
        tokensFrom? ⟨.between, ts⟩ (cs.dropWhile p) := by
  induction cs generalizing read with
  | nil =>
    have hend : tokensFrom? ⟨mode read, ts⟩ [] = (close read ts).map List.reverse := hfinish read ts
    rw [hend, Option.map_eq_bind]
    rfl
  | cons c cs ih =>
    rw [tokensFrom?_cons, hfeed]
    cases hc : p c with
    | true =>
      rw [if_pos rfl, Option.bind_some, ih, List.takeWhile_cons_of_pos hc,
        List.dropWhile_cons_of_pos hc, List.reverse_cons, List.append_assoc, List.singleton_append]
    | false =>
      rw [List.takeWhile_cons_of_neg (by simp [hc]), List.dropWhile_cons_of_neg (by simp [hc]),
        if_neg (by simp), Option.bind_assoc]
      simp only [tokensFrom?_cons, feed, List.reverse_nil, List.nil_append]

theorem tokensFrom?_word (read : List Char) (ts : List Token) (cs : List Char) :
    tokensFrom? ⟨.word read, ts⟩ cs =
      (endWord ((cs.takeWhile isAsciiLetter).reverse ++ read) ts).bind fun ts =>
        tokensFrom? ⟨.between, ts⟩ (cs.dropWhile isAsciiLetter) :=
  tokensFrom?_run (fun _ _ _ => rfl) (fun _ _ => rfl) read ts cs

theorem tokensFrom?_number (read : List Char) (ts : List Token) (cs : List Char) :
    tokensFrom? ⟨.number read, ts⟩ cs =
      (endNumber ((cs.takeWhile isNumberChar).reverse ++ read) ts).bind fun ts =>
        tokensFrom? ⟨.between, ts⟩ (cs.dropWhile isNumberChar) :=
  tokensFrom?_run (fun _ _ _ => rfl) (fun _ _ => rfl) read ts cs

theorem tokensFrom?_append {s t : Scan} {cs : List Char} (h : s.feedAll cs = some t)
    (ds : List Char) : s.tokensFrom? (cs ++ ds) = t.tokensFrom? ds := by
  rw [tokensFrom?, feedAll_append, h, Option.bind_some, tokensFrom?]

theorem feedAll_spelledBy {cs : List Char} {p : Piece} (h : p.SpelledBy cs) (read : List Piece)
    (ts : List Token) : feedAll ⟨.text read, ts⟩ cs = some ⟨.text (p :: read), ts⟩ := by
  cases h with
  | plain hquote hback hcontrol => simp [feedAll, feed, hquote, hback, Nat.not_lt.2 hcontrol]
  | @escape c d h =>
    have hcode : c ≠ 'u' := by
      rintro rfl
      cases h
    simp [feedAll, feed, hcode, h]
  | code ha hb hc hd => simp [feedAll, feed, ha, hb, hc, hd]

theorem tokensFrom?_body {b : List Char} {ps : List Piece} (h : Body b ps) (read : List Piece)
    (ts : List Token) (cs : List Char) :
    tokensFrom? ⟨.text read, ts⟩ (b ++ '"' :: cs) =
      tokensFrom? ⟨.between, Piece.token (read.reverse ++ ps) :: ts⟩ cs := by
  induction h generalizing read with
  | nil => rw [List.append_nil]; rfl
  | cons hp h ih =>
    rw [List.append_assoc, tokensFrom?_append (feedAll_spelledBy hp read ts), ih, List.reverse_cons,
      List.append_assoc, List.singleton_append]

theorem exists_digit {read : List Piece} {left value : Nat} {ts out : List Token} {cs : List Char}
    (h : tokensFrom? ⟨.code read left value, ts⟩ cs = some out) :
    ∃ c cs' d, cs = c :: cs' ∧ hexValue? c = some d ∧
      tokensFrom? (if left ≤ 1 then ⟨.text (.ofCode (value * 16 + d) :: read), ts⟩
        else ⟨.code read (left - 1) (value * 16 + d), ts⟩) cs' = some out := by
  cases cs with
  | nil => cases h
  | cons c cs =>
    rw [tokensFrom?_cons] at h
    obtain ⟨s, hs, hrest⟩ := Option.bind_eq_some_iff.1 h
    obtain ⟨d, hd, rfl⟩ := Option.map_eq_some_iff.1 hs
    exact ⟨c, cs, d, rfl, hd, hrest⟩

theorem exists_escape {read : List Piece} {ts out : List Token} {cs : List Char}
    (h : tokensFrom? ⟨.escape read, ts⟩ cs = some out) :
    ∃ ds p rest, p.SpelledBy ('\\' :: ds) ∧ cs = ds ++ rest ∧
      tokensFrom? ⟨.text (p :: read), ts⟩ rest = some out := by
  cases cs with
  | nil => cases h
  | cons c cs =>
    rw [tokensFrom?_cons] at h
    obtain ⟨s, hs, hrest⟩ := Option.bind_eq_some_iff.1 h
    simp only [feed] at hs
    split_ifs at hs with hcode
    · rw [← Option.some.inj hs] at hrest
      obtain ⟨a₁, cs, d₁, rfl, h₁, hrest⟩ := exists_digit hrest
      obtain ⟨a₂, cs, d₂, rfl, h₂, hrest⟩ := exists_digit hrest
      obtain ⟨a₃, cs, d₃, rfl, h₃, hrest⟩ := exists_digit hrest
      obtain ⟨a₄, cs, d₄, rfl, h₄, hrest⟩ := exists_digit hrest
      simp only [Nat.zero_mul, Nat.zero_add] at hrest
      exact ⟨_, _, cs, .code h₁ h₂ h₃ h₄, by rw [hcode]; rfl, hrest⟩
    · obtain ⟨d, hd, rfl⟩ := Option.map_eq_some_iff.1 hs
      exact ⟨_, _, cs, .escape hd, rfl, hrest⟩

theorem exists_spelledBy {read : List Piece} {ts out : List Token} {cs : List Char}
    (h : tokensFrom? ⟨.text read, ts⟩ cs = some out) :
    (∃ rest, cs = '"' :: rest ∧
        tokensFrom? ⟨.between, Piece.token read.reverse :: ts⟩ rest = some out) ∨
      ∃ ds p rest, p.SpelledBy ds ∧ cs = ds ++ rest ∧
        tokensFrom? ⟨.text (p :: read), ts⟩ rest = some out := by
  cases cs with
  | nil => cases h
  | cons c cs =>
    rw [tokensFrom?_cons] at h
    obtain ⟨s, hs, hrest⟩ := Option.bind_eq_some_iff.1 h
    simp only [feed] at hs
    split_ifs at hs with hquote hback hcontrol <;> rw [← Option.some.inj hs] at hrest
    · exact Or.inl ⟨cs, by rw [hquote], hrest⟩
    · obtain ⟨ds, p, rest, hp, rfl, hout⟩ := exists_escape hrest
      exact Or.inr ⟨_, p, rest, hp, by rw [hback]; rfl, hout⟩
    · exact Or.inr ⟨[c], _, cs, .plain hquote hback (Nat.not_lt.1 hcontrol), rfl, hrest⟩

theorem exists_body {read : List Piece} {ts out : List Token} {cs : List Char}
    (h : tokensFrom? ⟨.text read, ts⟩ cs = some out) :
    ∃ b ps rest, Body b ps ∧ cs = b ++ '"' :: rest ∧
      tokensFrom? ⟨.between, Piece.token (read.reverse ++ ps) :: ts⟩ rest = some out := by
  induction hlength : cs.length using Nat.strongRecOn generalizing read cs with
  | ind n ih =>
    obtain ⟨rest, rfl, hrest⟩ | ⟨ds, p, cs, hp, rfl, hrest⟩ := exists_spelledBy h
    · exact ⟨[], [], rest, .nil, rfl, by rwa [List.append_nil]⟩
    · have hshorter : cs.length < n := by
        have hlead : 0 < ds.length := by cases hp <;> simp
        rw [List.length_append] at hlength
        omega
      obtain ⟨b, ps, rest, hb, rfl, hout⟩ := ih _ hshorter hrest rfl
      rw [List.reverse_cons, List.append_assoc, List.singleton_append] at hout
      exact ⟨_, _, rest, .cons hp hb, (List.append_assoc _ _ _).symm, hout⟩

theorem wordToken?_cases {cs : List Char} {t : Token} (h : wordToken? cs = some t) :
    (cs = ['n', 'u', 'l', 'l'] ∧ t = .null) ∨ (cs = ['t', 'r', 'u', 'e'] ∧ t = .bool true) ∨
      (cs = ['f', 'a', 'l', 's', 'e'] ∧ t = .bool false) := by
  unfold wordToken? at h
  split_ifs at h with hnull htrue hfalse
  · exact Or.inl ⟨hnull, (Option.some.inj h).symm⟩
  · exact Or.inr (Or.inl ⟨htrue, (Option.some.inj h).symm⟩)
  · exact Or.inr (Or.inr ⟨hfalse, (Option.some.inj h).symm⟩)

theorem run_append {p : Char → Bool} {w cs : List Char} (hw : ∀ c ∈ w, p c = true)
    (hcs : ∀ c ∈ cs.head?, p c = false) :
    (w ++ cs).takeWhile p = w ∧ (w ++ cs).dropWhile p = cs := by
  have htake : cs.takeWhile p = [] := by
    cases cs with
    | nil => rfl
    | cons c cs => exact List.takeWhile_cons_of_neg (by simp [hcs c rfl])
  have hdrop : cs.dropWhile p = cs := by
    cases cs with
    | nil => rfl
    | cons c cs => exact List.dropWhile_cons_of_neg (by simp [hcs c rfl])
  exact ⟨by rw [List.takeWhile_append_of_pos hw, htake, List.append_nil],
    by rw [List.dropWhile_append_of_pos hw, hdrop]⟩

theorem tokensFrom?_scalar (s : Scalar) {cs : List Char}
    (hends : ∀ c ∈ cs.head?, (Lexeme.scalar s).goesOn c = false) (ts : List Token) :
    tokensFrom? ⟨.between, ts⟩ (s.chars ++ cs) = tokensFrom? ⟨.between, s.token :: ts⟩ cs := by
  cases s with
  | word w t h =>
    have hopen : ∃ c w', w = c :: w' ∧ feedBetween ts c = some ⟨.word [c], ts⟩ ∧
        ∀ d ∈ w', isAsciiLetter d = true := by
      obtain ⟨rfl, -⟩ | ⟨rfl, -⟩ | ⟨rfl, -⟩ := wordToken?_cases h <;>
        exact ⟨_, _, rfl, rfl, List.all_eq_true.1 rfl⟩
    obtain ⟨c, w, rfl, hc, hw⟩ := hopen
    obtain ⟨htake, hdrop⟩ := run_append hw hends
    have hstep : feed ⟨.between, ts⟩ c = some ⟨.word [c], ts⟩ := hc
    rw [Scalar.chars, List.cons_append, tokensFrom?_cons, hstep, Option.bind_some,
      tokensFrom?_word, htake, hdrop, endWord]
    simp [h, Scalar.token]
  | number c w n hfirst hw h =>
    obtain ⟨htake, hdrop⟩ := run_append hw hends
    have hstep : feed ⟨.between, ts⟩ c = some ⟨.number [c], ts⟩ := feedBetween_number hfirst ts
    rw [Scalar.chars, List.cons_append, tokensFrom?_cons, hstep, Option.bind_some,
      tokensFrom?_number, htake, hdrop, endNumber]
    simp [h, Scalar.token]

theorem tokensFrom?_spaced {ls : List Lexeme} {cs : List Char} (h : Spaced ls cs)
    (ts : List Token) :
    tokensFrom? ⟨.between, ts⟩ cs = some (ts.reverse ++ ls.map Lexeme.token) := by
  induction h generalizing ts with
  | nil => rw [List.map_nil, List.append_nil]; rfl
  | @space ls c cs hc h ih =>
    have hstep : feed ⟨.between, ts⟩ c = some ⟨.between, ts⟩ := feedBetween_space hc ts
    rw [tokensFrom?_cons, hstep, Option.bind_some, ih]
  | @lexeme ls cs l hends h ih =>
    have hlexeme : tokensFrom? ⟨.between, ts⟩ (l.chars ++ cs) =
        tokensFrom? ⟨.between, l.token :: ts⟩ cs := by
      cases l with
      | mark m =>
        have hstep : feed ⟨.between, ts⟩ m.char = some ⟨.between, m.token :: ts⟩ :=
          feedBetween_mark m ts
        exact tokensFrom?_append (by rw [Lexeme.chars, feedAll, hstep]; rfl) cs
      | scalar s => exact tokensFrom?_scalar s hends ts
      | literal l =>
        rw [Lexeme.chars, Literal.chars, List.cons_append, List.append_assoc]
        exact tokensFrom?_body l.spelled [] ts cs
    rw [hlexeme, ih, List.reverse_cons, List.append_assoc, List.singleton_append, List.map_cons]

theorem head?_dropWhile (p : Char → Bool) (cs : List Char) :
    ∀ c ∈ (cs.dropWhile p).head?, p c = false := by
  intro c hc
  have hnot := List.head?_dropWhile_not p cs
  rw [Option.mem_def.1 hc] at hnot
  simpa using hnot

theorem exists_spaced {ts out : List Token} {cs : List Char}
    (h : tokensFrom? ⟨.between, ts⟩ cs = some out) :
    ∃ ls, Spaced ls cs ∧ out = ts.reverse ++ ls.map Lexeme.token := by
  induction hlength : cs.length using Nat.strongRecOn generalizing ts cs with
  | ind n ih =>
    -- Whatever begins here takes a character, so the rest is shorter.
    have hlexeme {rest : List Char} (l : Lexeme) (hcs : cs = l.chars ++ rest)
        (hshort : rest.length < n) (hends : ∀ c ∈ rest.head?, l.goesOn c = false)
        (hrest : tokensFrom? ⟨.between, l.token :: ts⟩ rest = some out) :
        ∃ ls, Spaced ls cs ∧ out = ts.reverse ++ ls.map Lexeme.token := by
      obtain ⟨ls, hls, hout⟩ := ih _ hshort hrest rfl
      refine ⟨l :: ls, hcs ▸ Spaced.lexeme l hends hls, ?_⟩
      rw [hout, List.reverse_cons, List.append_assoc, List.singleton_append, List.map_cons]
    cases cs with
    | nil => exact ⟨[], .nil, by rw [← Option.some.inj h, List.map_nil, List.append_nil]⟩
    | cons c cs =>
      rw [List.length_cons] at hlength
      rw [tokensFrom?_cons] at h
      obtain ⟨s, hs, hrest⟩ := Option.bind_eq_some_iff.1 h
      obtain ⟨m, rfl, rfl⟩ | ⟨rfl, rfl⟩ | ⟨hspace, rfl⟩ | ⟨hfirst, rfl⟩ | ⟨hletter, rfl⟩ :=
        feedBetween_cases hs
      · exact hlexeme (.mark m) rfl (by omega) (fun _ _ => rfl) hrest
      · obtain ⟨b, ps, rest, hb, rfl, hout⟩ := exists_body hrest
        simp only [List.length_append, List.length_cons] at hlength
        refine hlexeme (.literal ⟨b, ps, hb⟩) ?_ (by omega) (fun _ _ => rfl) hout
        rw [Lexeme.chars, Literal.chars, List.cons_append, List.append_assoc, List.singleton_append]
      · obtain ⟨ls, hls, hout⟩ := ih _ (by omega) hrest rfl
        exact ⟨ls, .space hspace hls, hout⟩
      · rw [tokensFrom?_number] at hrest
        obtain ⟨us, hus, hout⟩ := Option.bind_eq_some_iff.1 hrest
        obtain ⟨k, hk, rfl⟩ := Option.map_eq_some_iff.1 hus
        rw [List.reverse_append, List.reverse_reverse] at hk
        have hshort := (cs.dropWhile_suffix isNumberChar).length_le
        refine hlexeme (.scalar (.number c (cs.takeWhile isNumberChar) k hfirst
          (fun d hd => List.mem_takeWhile_imp hd) hk)) ?_ (by omega)
          (head?_dropWhile isNumberChar cs) hout
        exact congrArg (c :: ·) List.takeWhile_append_dropWhile.symm
      · rw [tokensFrom?_word] at hrest
        obtain ⟨us, hus, hout⟩ := Option.bind_eq_some_iff.1 hrest
        obtain ⟨t, ht, rfl⟩ := Option.map_eq_some_iff.1 hus
        rw [List.reverse_append, List.reverse_reverse] at ht
        have hshort := (cs.dropWhile_suffix isAsciiLetter).length_le
        refine hlexeme (.scalar (.word (c :: cs.takeWhile isAsciiLetter) t ht)) ?_ (by omega)
          (head?_dropWhile isAsciiLetter cs) hout
        exact congrArg (c :: ·) List.takeWhile_append_dropWhile.symm

end Scan

theorem tokens?_eq_some_iff {cs : List Char} {ts : List Token} :
    tokens? cs = some ts ↔ ∃ ls, Spaced ls cs ∧ ls.map Lexeme.token = ts := by
  constructor
  · intro h
    have hfrom : Scan.start.tokensFrom? cs = some ts := h
    obtain ⟨ls, hls, hts⟩ := Scan.exists_spaced hfrom
    exact ⟨ls, hls, hts.symm⟩
  · rintro ⟨ls, hls, rfl⟩
    exact Scan.tokensFrom?_spaced hls []

namespace Lexeme

theorem eq_mark {l : Lexeme} (m : Mark) (h : l.token = m.token) : l = .mark m := by
  cases l with
  | mark m' => cases m' <;> cases m <;> cases h <;> rfl
  | scalar s =>
    cases s with
    | word cs t hword =>
      obtain ⟨-, rfl⟩ | ⟨-, rfl⟩ | ⟨-, rfl⟩ := Scan.wordToken?_cases hword <;> cases m <;> cases h
    | number c cs n hfirst hrest hn => cases m <;> cases h
  | literal l =>
    rw [token, l.token_pieces] at h
    cases hkey : l.key <;> rw [hkey] at h <;> cases m <;> cases h

theorem exists_literal {l : Lexeme} {key : Option String} (h : l.token = Literal.keyToken key) :
    ∃ k : Literal, l = .literal k ∧ k.key = key := by
  cases l with
  | mark m => cases m <;> cases key <;> cases h
  | scalar s =>
    cases s with
    | word cs t hword =>
      obtain ⟨-, rfl⟩ | ⟨-, rfl⟩ | ⟨-, rfl⟩ := Scan.wordToken?_cases hword <;> cases key <;> cases h
    | number c cs n hfirst hrest hn => cases key <;> cases h
  | literal k =>
    rw [token, k.token_pieces] at h
    exact ⟨k, rfl, Literal.keyToken_inj h⟩

end Lexeme

end DeployWizard.Json
