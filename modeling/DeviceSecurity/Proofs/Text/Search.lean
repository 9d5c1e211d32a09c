import DeviceSecurity.Text.Folding
import DeviceSecurity.Text.Pattern
import Mathlib.Data.List.Forall2

/-!
# Searching for patterns

Comparing a text with one that has wild characters comes down to a small part of what patterns can
say: characters that stand for themselves, a dot for any character but the end of a line, a plus for
as many of them as there are, and the two ends of the text. `read?` reads this part of the written
form, and `Found` says when a text has a match. A text that is escaped is read as itself, whatever
its characters mean otherwise (`tokens?_escape`), and is a pattern (`continues_escape`).
-/

namespace DeviceSecurity.Text

/-- Two texts of one length whose characters differ in case at most. -/
def EqFolded (a b : List Char) : Prop := List.Forall₂ (fun x y => fold x = fold y) a b

theorem sameFolded_iff {a b : List Char} : sameFolded a b = true ↔ EqFolded a b := by
  rw [sameFolded, beq_iff_eq, ← List.forall₂_eq_eq_eq, List.forall₂_map_left_iff,
    List.forall₂_map_right_iff]
  rfl

namespace Search

/-! ## Pieces of patterns -/

/-- What one character of a text is compared with. -/
inductive Atom where
  /-- The character, or one that differs from it in case. -/
  | literal (c : Char)
  /-- Anything but the end of a line. -/
  | dot
deriving DecidableEq, Repr

/-- What a pattern is a row of. -/
inductive Piece where
  | textStart
  | textEnd
  | one (a : Atom)
  /-- As many characters as there are, at least one. -/
  | many (a : Atom)
deriving DecidableEq, Repr

/-- The pieces of a text that stands for itself. -/
def literals (s : List Char) : List Piece := s.map fun c => .one (.literal c)

/-! ## Matches -/

/-- Whether a character is one that is asked for. -/
def Atom.Fits : Atom → Char → Prop
  | literal c, d => fold d = fold c
  | dot, d => d ≠ '\n'

/-- The pieces match a part of a text, which stands between `before` and `after`. -/
def Matches : List Piece → (before part after : List Char) → Prop
  | [], _, part, _ => part = []
  | .textStart :: pieces, before, part, after => before = [] ∧ Matches pieces before part after
  | .textEnd :: pieces, before, part, after =>
    part = [] ∧ after = [] ∧ Matches pieces before part after
  | .one a :: pieces, before, part, after =>
    ∃ c rest, part = c :: rest ∧ a.Fits c ∧ Matches pieces (before ++ [c]) rest after
  | .many a :: pieces, before, part, after =>
    ∃ run rest, part = run ++ rest ∧ run ≠ [] ∧ (∀ c ∈ run, a.Fits c) ∧
      Matches pieces (before ++ run) rest after

/-- Some part of a text is a match. -/
def Found (pieces : List Piece) (text : List Char) : Prop :=
  ∃ before part after, text = before ++ part ++ after ∧ Matches pieces before part after

/-- A text that stands for itself matches the texts that differ from it in case at most. -/
theorem matches_literals {s : List Char} {pieces : List Piece} {before part after : List Char} :
    Matches (literals s ++ pieces) before part after ↔
      ∃ same rest, part = same ++ rest ∧ EqFolded same s ∧
        Matches pieces (before ++ same) rest after := by
  induction s generalizing before part with
  | nil =>
    constructor
    · intro h
      exact ⟨[], part, rfl, .nil, by rwa [List.append_nil]⟩
    · rintro ⟨same, rest, rfl, hsame, h⟩
      obtain rfl := List.forall₂_nil_right_iff.mp hsame
      rwa [List.append_nil] at h
  | cons c s ih =>
    constructor
    · rintro ⟨d, rest, rfl, hd, h⟩
      obtain ⟨same, rest, rfl, hsame, h⟩ := ih.mp h
      refine ⟨d :: same, rest, rfl, .cons hd hsame, ?_⟩
      rwa [List.append_cons]
    · rintro ⟨same, rest, rfl, hsame, h⟩
      obtain ⟨d, tail, hd, htail, rfl⟩ := List.forall₂_cons_right_iff.mp hsame
      rw [List.append_cons] at h
      exact ⟨d, tail ++ rest, rfl, hd, ih.mpr ⟨tail, rest, rfl, htail, h⟩⟩

/-! ## Written patterns -/

/-- The characters with a meaning in patterns. -/
def special : List Char :=
  ['\\', '.', '+', '*', '?', '(', ')', '|', '[', ']', '\x7b', '\x7d', '^', '$', '#', '&', '-', '~']

/-- A text with a backslash before each special character. -/
def escape : List Char → List Char
  | [] => []
  | c :: s => if c ∈ special then '\\' :: c :: escape s else c :: escape s

/-- A character of a pattern, once backslashes are gone. -/
inductive Token where
  /-- A character that stands for itself. -/
  | plain (c : Char)
  /-- A special character without a backslash. -/
  | sign (c : Char)
deriving DecidableEq, Repr

/-- The characters of a pattern. A backslash is read before special characters only. -/
def tokens? : List Char → Option (List Token)
  | [] => some []
  | ['\\'] => none
  | '\\' :: c :: s => if c ∈ special then (tokens? s).map (.plain c :: ·) else none
  | c :: s => (tokens? s).map ((if c ∈ special then .sign c else .plain c) :: ·)

/-- The pieces that characters make. What else patterns can say is not read. -/
def pieces? : List Token → Option (List Piece)
  | [] => some []
  | .sign '^' :: ts => (pieces? ts).map (.textStart :: ·)
  | .sign '$' :: ts => (pieces? ts).map (.textEnd :: ·)
  | .sign '.' :: .sign '+' :: ts => (pieces? ts).map (.many .dot :: ·)
  | .sign '.' :: ts => (pieces? ts).map (.one .dot :: ·)
  | .plain c :: .sign '+' :: ts => (pieces? ts).map (.many (.literal c) :: ·)
  | .plain c :: ts => (pieces? ts).map (.one (.literal c) :: ·)
  | .sign _ :: _ => none

/-- The pieces of a written pattern. -/
def read? (s : List Char) : Option (List Piece) := tokens? s >>= pieces?

/-- What is escaped is read as itself. -/
theorem tokens?_escape (s t : List Char) :
    tokens? (escape s ++ t) = (tokens? t).map (s.map .plain ++ ·) := by
  induction s with
  | nil => simp [escape]
  | cons c s ih =>
    by_cases hc : c ∈ special
    · simp [escape, tokens?, hc, ih, Function.comp_def]
    · have hback : c ≠ '\\' := by
        rintro rfl
        exact hc (by decide)
      simp [escape, tokens?, hc, hback, ih, Function.comp_def]

theorem tokens?_escape_textEnd (s : List Char) :
    tokens? (escape s ++ ['$']) = some (s.map .plain ++ [.sign '$']) :=
  tokens?_escape s ['$']

/-- Characters that stand for themselves up to the end of the text. -/
theorem pieces?_plain (s : List Char) :
    pieces? (s.map .plain ++ [.sign '$']) = some (literals s ++ [.textEnd]) := by
  induction s with
  | nil => rfl
  | cons c s ih =>
    -- Whether a piece is repeated shows only from the character behind it.
    cases s with
    | nil => rfl
    | cons d s =>
      show (pieces? ((d :: s).map .plain ++ [.sign '$'])).map _ = _
      rw [ih]
      rfl

/-! ## Well-formed patterns -/

/-- A special character may stand behind a backslash. -/
theorem escape?_special : ∀ c ∈ special, ∀ s, Pattern.escape? (c :: s) = some (.char c.toNat, s) := by
  simp [special, Pattern.escape?]

/-- A character without a meaning of its own stands for itself. -/
theorem continues_cons {c : Char} (hc : c ∉ special) (fuel : Nat) (repeatable : Bool)
    (s : List Char) :
    Pattern.continues (fuel + 1) 0 repeatable (c :: s) = Pattern.continues fuel 0 true s := by
  simp only [special, List.mem_cons, List.not_mem_nil, or_false, not_or] at hc
  simp [Pattern.continues, hc]

theorem continues_backslash {c : Char} (hc : c ∈ special) (fuel : Nat) (repeatable : Bool)
    (s : List Char) :
    Pattern.continues (fuel + 1) 0 repeatable ('\\' :: c :: s) = Pattern.continues fuel 0 true s := by
  simp [Pattern.continues, escape?_special c hc s]

/-- What is escaped does not begin with a question mark, which would change a sign before it. -/
theorem head?_escape_ne (s : List Char) : (escape s ++ ['$']).head? ≠ some '?' := by
  cases s with
  | nil => decide
  | cons c s =>
    intro h
    by_cases hc : c ∈ special
    · rw [escape, if_pos hc] at h
      cases h
    · rw [escape, if_neg hc] at h
      cases h
      exact hc (by decide)

/-- An escaped text goes on as a pattern, up to the end of the text. -/
theorem continues_escape (s : List Char) {fuel : Nat} (hfuel : (escape s).length + 1 < fuel)
    (repeatable : Bool) :
    Pattern.continues fuel 0 repeatable (escape s ++ ['$']) = true := by
  induction s generalizing fuel repeatable with
  | nil =>
    have htwo : 1 < fuel := hfuel
    obtain ⟨fuel, rfl⟩ : ∃ n, fuel = n + 2 := ⟨fuel - 2, by omega⟩
    rfl
  | cons c s ih =>
    obtain ⟨fuel, rfl⟩ : ∃ n, fuel = n + 1 := ⟨fuel - 1, by omega⟩
    by_cases hc : c ∈ special
    · rw [escape, if_pos hc] at hfuel ⊢
      rw [List.cons_append, List.cons_append, continues_backslash hc]
      exact ih (by simp only [List.length_cons] at hfuel; omega) true
    · rw [escape, if_neg hc] at hfuel ⊢
      rw [List.cons_append, continues_cons hc]
      exact ih (by simp only [List.length_cons] at hfuel; omega) true

end Search

end DeviceSecurity.Text
