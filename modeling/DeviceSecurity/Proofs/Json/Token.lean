import Mathlib.Data.List.DropRight
import Mathlib.Tactic.SplitIfs
import DeviceSecurity.Json.Parser

/-!
# Strings and numbers of JSON

What may stand between the quotes of a string (`SpellsChars`) and how a number is written
(`Numeral`), as RFC 8259 has it and without a reader. The readers take exactly that: they are sound,
and they are complete in front of a text that does not go on with a number (`EndsNumber`), without
which a number would be cut short.
-/

namespace DeviceSecurity.Json

/-! ## Blanks -/

/-- Nothing but blanks. -/
def AllBlank (s : List Char) : Prop := ∀ c ∈ s, isBlank c = true

theorem allBlank_nil : AllBlank [] := fun _ h => nomatch h

theorem skipBlanks_append {b : List Char} (h : AllBlank b) (s : List Char) :
    skipBlanks (b ++ s) = skipBlanks s :=
  List.dropWhile_append_of_pos h

theorem skipBlanks_cons {c : Char} (h : isBlank c = false) (s : List Char) :
    skipBlanks (c :: s) = c :: s := by
  rw [skipBlanks, List.dropWhile_cons_of_neg (by simp [h])]

theorem exists_skipBlanks (s : List Char) : ∃ b, AllBlank b ∧ s = b ++ skipBlanks s :=
  ⟨s.takeWhile isBlank, fun _ hc => List.mem_takeWhile_imp hc,
    (List.takeWhile_append_dropWhile (p := isBlank) (l := s)).symm⟩

theorem skipBlanks_skipBlanks (s : List Char) : skipBlanks (skipBlanks s) = skipBlanks s :=
  List.dropWhile_idempotent isBlank s

/-! ## Strings -/

/-- How a character may be written inside a string: as itself, by a letter behind a backslash, or by
one code unit or two. -/
inductive SpellsChar : Char → List Char → Prop
  | plain {c : Char} (hquote : c ≠ '"') (hslash : c ≠ '\\') (hcontrol : ¬c < ' ') : SpellsChar c [c]
  | short {c e : Char} (h : shortEscape? e = some c) : SpellsChar c ['\\', e]
  | unit {a b c d : Char} {n : Nat} (h : unit? a b c d = some n) (hn : ¬(0xd800 ≤ n ∧ n < 0xe000)) :
    SpellsChar (Char.ofNat n) ['\\', 'u', a, b, c, d]
  | pair {a b c d a' b' c' d' : Char} {high low : Nat} (hhigh : unit? a b c d = some high)
    (hlow : unit? a' b' c' d' = some low) (high_range : 0xd800 ≤ high ∧ high < 0xdc00)
    (low_range : 0xdc00 ≤ low ∧ low < 0xe000) :
    SpellsChar (Char.ofNat (0x10000 + (high - 0xd800) * 0x400 + (low - 0xdc00)))
      ['\\', 'u', a, b, c, d, '\\', 'u', a', b', c', d']

/-- What may stand between the quotes of a string. -/
inductive SpellsChars : List Char → List Char → Prop
  | nil : SpellsChars [] []
  | cons {c : Char} {t cs s : List Char} (hc : SpellsChar c t) (h : SpellsChars cs s) :
    SpellsChars (c :: cs) (t ++ s)

/-- A character that stands for itself is read as itself. -/
theorem stringRest?_plain {c : Char} (hquote : c ≠ '"') (hslash : c ≠ '\\') (hcontrol : ¬c < ' ')
    (s : List Char) : stringRest? (c :: s) = (stringRest? s).map fun p => (c :: p.1, p.2) := by
  rw [stringRest?.eq_def]
  split
  next h => exact absurd h (List.cons_ne_nil _ _)
  next h => exact absurd (List.cons.inj h).1 hquote
  next h => exact absurd (List.cons.inj h).1 hslash
  next h => exact absurd (List.cons.inj h).1 hslash
  next h =>
    obtain ⟨rfl, rfl⟩ := List.cons.inj h
    rw [if_neg (not_or.mpr ⟨hcontrol, hslash⟩)]
    cases stringRest? s <;> rfl

/-- A letter behind a backslash is read as the character that it stands for. -/
theorem stringRest?_short {c e : Char} (h : shortEscape? e = some c) (s : List Char) :
    stringRest? ('\\' :: e :: s) = (stringRest? s).map fun p => (c :: p.1, p.2) := by
  have hu : e ≠ 'u' := by
    rintro rfl
    cases h
  rw [stringRest?.eq_4 _ _ (by intros; simp_all), h]
  cases stringRest? s <;> rfl

theorem stringRest?_spelled {c : Char} {t : List Char} (h : SpellsChar c t) (s : List Char) :
    stringRest? (t ++ s) = (stringRest? s).map fun p => (c :: p.1, p.2) := by
  cases h with
  | plain hquote hslash hcontrol => exact stringRest?_plain hquote hslash hcontrol s
  | short h => exact stringRest?_short h s
  | unit h hn =>
    rw [List.cons_append, List.cons_append, List.cons_append, List.cons_append, List.cons_append,
      List.cons_append, List.nil_append, stringRest?.eq_3, h]
    simp only [Option.bind_eq_bind, Option.bind_some]
    rw [if_neg (by omega), if_neg (by omega)]
    cases stringRest? s <;> rfl
  | pair hhigh hlow high_range low_range =>
    simp only [List.cons_append, List.nil_append]
    rw [stringRest?.eq_3, hhigh]
    simp only [Option.bind_eq_bind, Option.bind_some, if_pos high_range, hlow, if_pos low_range]
    cases stringRest? s <;> rfl

theorem stringRest?_complete {cs t : List Char} (h : SpellsChars cs t) (rest : List Char) :
    stringRest? (t ++ '"' :: rest) = some (cs, rest) := by
  induction h with
  | nil => rfl
  | cons hc h ih => rw [List.append_assoc, stringRest?_spelled hc, ih, Option.map_some]

theorem stringRest?_sound {cs s rest : List Char} (h : stringRest? s = some (cs, rest)) :
    ∃ t, SpellsChars cs t ∧ s = t ++ '"' :: rest := by
  -- along the cases of the reader, one for each way to write a character
  fun_induction stringRest? s generalizing cs with
  | case1 => cases h
  | case2 s =>
    obtain ⟨rfl, rfl⟩ := Prod.mk.inj (Option.some.inj h)
    exact ⟨[], .nil, rfl⟩
  | case3 a b c d s ihpair ihunit =>
    obtain ⟨high, hhigh, h⟩ := Option.bind_eq_some_iff.mp h
    split at h
    · next hrange =>
      split at h
      · next a' b' c' d' s =>
        obtain ⟨low, hlow, h⟩ := Option.bind_eq_some_iff.mp h
        split at h
        · next hlowrange =>
          obtain ⟨⟨cs, s'⟩, hrest, h⟩ := Option.bind_eq_some_iff.mp h
          obtain ⟨rfl, rfl⟩ := Prod.mk.inj (Option.some.inj h)
          obtain ⟨t, ht, rfl⟩ := ihpair hrest
          exact ⟨_, .cons (.pair hhigh hlow hrange hlowrange) ht, rfl⟩
        · cases h
      · cases h
    · next hhighrange =>
      split at h
      · cases h
      · next hlowrange =>
        obtain ⟨⟨cs, s'⟩, hrest, h⟩ := Option.bind_eq_some_iff.mp h
        obtain ⟨rfl, rfl⟩ := Prod.mk.inj (Option.some.inj h)
        obtain ⟨t, ht, rfl⟩ := ihunit hrest
        exact ⟨_, .cons (.unit hhigh (by omega)) ht, rfl⟩
  | case4 e s _ ih =>
    obtain ⟨c, hc, h⟩ := Option.bind_eq_some_iff.mp h
    obtain ⟨⟨cs, s'⟩, hrest, h⟩ := Option.bind_eq_some_iff.mp h
    obtain ⟨rfl, rfl⟩ := Prod.mk.inj (Option.some.inj h)
    obtain ⟨t, ht, rfl⟩ := ih hrest
    exact ⟨_, .cons (.short hc) ht, rfl⟩
  | case5 => cases h
  | case6 c s hquote _ _ hplain ih =>
    obtain ⟨⟨cs, s'⟩, hrest, h⟩ := Option.bind_eq_some_iff.mp h
    obtain ⟨rfl, rfl⟩ := Prod.mk.inj (Option.some.inj h)
    obtain ⟨t, ht, rfl⟩ := ih hrest
    obtain ⟨hcontrol, hslash⟩ := not_or.mp hplain
    exact ⟨_, .cons (.plain hquote hslash hcontrol) ht, rfl⟩

/-! ## Numbers -/

/-- One or more digits. -/
def IsDigits (s : List Char) : Prop := s ≠ [] ∧ ∀ c ∈ s, c.isDigit = true

/-- An exponent as it is written. -/
structure Exponent where
  letter : Char
  sign : Option Char
  digits : List Char
  letter_spec : letter = 'e' ∨ letter = 'E'
  sign_spec : ∀ c ∈ sign, c = '+' ∨ c = '-'
  digits_spec : IsDigits digits

def Exponent.chars (e : Exponent) : List Char := e.letter :: (e.sign.toList ++ e.digits)

def Exponent.value (e : Exponent) : Int :=
  let n : Int := e.digits.foldl (fun n d => n * 10 + (d.toNat - '0'.toNat)) 0
  if e.sign = some '-' then -n else n

/-- A number as it is written. A zero before the point stands alone. -/
structure Numeral where
  negative : Bool
  integer : List Char
  fraction : Option (List Char)
  exponent : Option Exponent
  integer_spec : IsDigits integer
  zero_spec : integer.head? = some '0' → integer.length = 1
  fraction_spec : ∀ digits ∈ fraction, IsDigits digits

/-- The characters behind the digits before the point. -/
def fractionChars : Option (List Char) → List Char
  | none => []
  | some digits => '.' :: digits

def exponentChars : Option Exponent → List Char
  | none => []
  | some e => e.chars

def Numeral.chars (m : Numeral) : List Char :=
  (if m.negative then ['-'] else []) ++ (m.integer ++ (fractionChars m.fraction ++
    exponentChars m.exponent))

/-- What the number is read as, unless it exceeds the range of floating point. -/
def Numeral.value? (m : Numeral) : Option JsonNumber :=
  numberValue? m.negative m.integer m.fraction (m.exponent.map (·.value))

/-- What may stand behind a number without becoming a part of it. -/
def EndsNumber (s : List Char) : Prop :=
  ∀ c ∈ s.head?, c.isDigit = false ∧ c ≠ '.' ∧ c ≠ 'e' ∧ c ≠ 'E'

theorem endsNumber_nil : EndsNumber [] := fun _ h => nomatch h

theorem endsNumber_cons {c : Char} (hc : c = ',' ∨ c = ']' ∨ c = '\x7d' ∨ isBlank c = true)
    (s : List Char) : EndsNumber (c :: s) := by
  intro d hd
  obtain rfl : c = d := by simpa using hd
  simp only [isBlank, Bool.or_eq_true, beq_iff_eq] at hc
  rcases hc with rfl | rfl | rfl | ((rfl | rfl) | rfl) | rfl <;> decide

theorem EndsNumber.append {b s : List Char} (hb : AllBlank b) (h : EndsNumber s) :
    EndsNumber (b ++ s) := by
  cases b with
  | nil => exact h
  | cons c b => exact endsNumber_cons (.inr (.inr (.inr (hb c List.mem_cons_self)))) (b ++ s)

/-- No digit comes first. -/
def NoDigit (s : List Char) : Prop := ∀ c ∈ s.head?, c.isDigit = false

theorem spanDigits_eq (s : List Char) : s = (spanDigits s).1 ++ (spanDigits s).2 :=
  (List.takeWhile_append_dropWhile).symm

theorem isDigits_spanDigits {s : List Char} (h : (spanDigits s).1.isEmpty = false) :
    IsDigits (spanDigits s).1 :=
  ⟨by simpa using h, fun _ hc => List.mem_takeWhile_imp hc⟩

theorem spanDigits_append {digits rest : List Char} (h : ∀ c ∈ digits, c.isDigit = true)
    (hrest : NoDigit rest) : spanDigits (digits ++ rest) = (digits, rest) := by
  have hstop : rest.takeWhile Char.isDigit = [] ∧ rest.dropWhile Char.isDigit = rest := by
    cases rest with
    | nil => exact ⟨rfl, rfl⟩
    | cons c s => simp [hrest c rfl]
  unfold spanDigits
  rw [List.takeWhile_append_of_pos h, List.dropWhile_append_of_pos h, hstop.1, hstop.2,
    List.append_nil]

theorem fraction?_sound {s rest : List Char} {digits : Option (List Char)}
    (h : fraction? s = some (digits, rest)) :
    s = fractionChars digits ++ rest ∧ ∀ d ∈ digits, IsDigits d := by
  unfold fraction? at h
  split at h
  · next s =>
    dsimp only at h
    split at h
    · cases h
    · next hempty =>
      obtain ⟨rfl, rfl⟩ := Prod.mk.inj (Option.some.inj h)
      refine ⟨congrArg ('.' :: ·) (spanDigits_eq s), ?_⟩
      rintro _ ⟨⟩
      exact isDigits_spanDigits (Bool.eq_false_iff.mpr hempty)
  · obtain ⟨rfl, rfl⟩ := Prod.mk.inj (Option.some.inj h)
    exact ⟨rfl, fun _ h => nomatch h⟩

/-- An exponent behind its letter and its sign. -/
def exponentDigits? (sign : Option Char) (s : List Char) : Option (Option Int × List Char) :=
  if (spanDigits s).1.isEmpty then none
  else
    let n : Int := (spanDigits s).1.foldl (fun n d => n * 10 + (d.toNat - '0'.toNat)) 0
    some (some (if sign = some '-' then -n else n), (spanDigits s).2)

theorem exponent?_minus {c : Char} (hc : c = 'e' ∨ c = 'E') (s : List Char) :
    exponent? (c :: '-' :: s) = exponentDigits? (some '-') s := by
  rcases hc with rfl | rfl <;> rfl

theorem exponent?_plus {c : Char} (hc : c = 'e' ∨ c = 'E') (s : List Char) :
    exponent? (c :: '+' :: s) = exponentDigits? (some '+') s := by
  rcases hc with rfl | rfl <;> rfl

theorem exponent?_unsigned {c : Char} (hc : c = 'e' ∨ c = 'E') {s : List Char}
    (h : ∀ d ∈ s.head?, d ≠ '+' ∧ d ≠ '-') : exponent? (c :: s) = exponentDigits? none s := by
  cases s with
  | nil => rcases hc with rfl | rfl <;> rfl
  | cons d s =>
    obtain ⟨hplus, hminus⟩ := h d rfl
    rcases hc with rfl | rfl <;> simp [exponent?, exponentDigits?, hplus, hminus]

theorem exponent?_none {s : List Char} (h : ∀ c ∈ s.head?, c ≠ 'e' ∧ c ≠ 'E') :
    exponent? s = some (none, s) := by
  unfold exponent?
  split
  next => exact absurd rfl (h 'e' rfl).1
  next => exact absurd rfl (h 'E' rfl).2
  next => rfl

theorem exponentDigits?_sound {c : Char} (hc : c = 'e' ∨ c = 'E') {sign : Option Char}
    (hsign : ∀ c ∈ sign, c = '+' ∨ c = '-') {s rest : List Char} {value : Option Int}
    (h : exponentDigits? sign s = some (value, rest)) :
    ∃ e : Option Exponent, value = e.map (·.value) ∧
      c :: (sign.toList ++ s) = exponentChars e ++ rest := by
  unfold exponentDigits? at h
  split at h
  · cases h
  · next hempty =>
    obtain ⟨rfl, rfl⟩ := Prod.mk.inj (Option.some.inj h)
    refine ⟨some ⟨c, sign, (spanDigits s).1, hc, hsign,
      isDigits_spanDigits (Bool.eq_false_iff.mpr hempty)⟩, rfl, ?_⟩
    rw [exponentChars, Exponent.chars, List.cons_append, List.append_assoc, ← spanDigits_eq]

theorem exponent?_sound {s rest : List Char} {value : Option Int}
    (h : exponent? s = some (value, rest)) :
    ∃ e : Option Exponent, value = e.map (·.value) ∧ s = exponentChars e ++ rest := by
  by_cases hletter : ∃ c body, s = c :: body ∧ (c = 'e' ∨ c = 'E')
  · obtain ⟨c, body, rfl, hc⟩ := hletter
    by_cases hminus : ∃ digits, body = '-' :: digits
    · obtain ⟨digits, rfl⟩ := hminus
      rw [exponent?_minus hc] at h
      refine exponentDigits?_sound hc ?_ h
      simp
    · by_cases hplus : ∃ digits, body = '+' :: digits
      · obtain ⟨digits, rfl⟩ := hplus
        rw [exponent?_plus hc] at h
        refine exponentDigits?_sound hc ?_ h
        simp
      · rw [exponent?_unsigned hc] at h
        · refine exponentDigits?_sound hc ?_ h
          simp
        · intro d hd
          obtain ⟨digits, rfl⟩ := List.head?_eq_some_iff.mp hd
          exact ⟨fun h => hplus ⟨digits, h ▸ rfl⟩, fun h => hminus ⟨digits, h ▸ rfl⟩⟩
  · have hnone : ∀ c ∈ s.head?, c ≠ 'e' ∧ c ≠ 'E' := by
      intro c hc
      obtain ⟨body, rfl⟩ := List.head?_eq_some_iff.mp hc
      exact not_or.mp fun hletter' => hletter ⟨c, body, rfl, hletter'⟩
    rw [exponent?_none hnone] at h
    obtain ⟨rfl, rfl⟩ := Prod.mk.inj (Option.some.inj h)
    exact ⟨none, rfl, rfl⟩

theorem IsDigits.exists_cons {s : List Char} (h : IsDigits s) :
    ∃ c rest, s = c :: rest ∧ c.isDigit = true := by
  obtain ⟨c, rest, rfl⟩ := List.exists_cons_of_ne_nil h.1
  exact ⟨c, rest, rfl, h.2 c List.mem_cons_self⟩

theorem exponent?_complete (e : Option Exponent) {rest : List Char} (hrest : EndsNumber rest) :
    exponent? (exponentChars e ++ rest) = some (e.map (·.value), rest) := by
  cases e with
  | none => exact exponent?_none fun c hc => (hrest c hc).2.2
  | some e =>
    have hread : exponentDigits? e.sign (e.digits ++ rest) = some (some e.value, rest) := by
      unfold exponentDigits?
      rw [spanDigits_append e.digits_spec.2 fun c hc => (hrest c hc).1,
        if_neg (by simpa using e.digits_spec.1)]
      rfl
    rw [exponentChars, Exponent.chars, List.cons_append, List.append_assoc, Option.map_some,
      ← hread]
    cases hsign : e.sign with
    | none =>
      refine exponent?_unsigned e.letter_spec fun d hd => ?_
      obtain ⟨first, digits, hdigits, hfirst⟩ := e.digits_spec.exists_cons
      rw [hdigits] at hd
      obtain rfl : first = d := Option.some.inj hd
      constructor <;> rintro rfl <;> exact absurd hfirst (by decide)
    | some sign =>
      rcases e.sign_spec sign hsign with rfl | rfl
      · exact exponent?_plus e.letter_spec _
      · exact exponent?_minus e.letter_spec _

theorem fraction?_complete {digits : Option (List Char)} (h : ∀ d ∈ digits, IsDigits d)
    {rest : List Char} (hrest : ∀ c ∈ rest.head?, c.isDigit = false ∧ c ≠ '.') :
    fraction? (fractionChars digits ++ rest) = some (digits, rest) := by
  cases digits with
  | none =>
    unfold fraction?
    split
    next heq => exact absurd rfl (hrest '.' (congrArg List.head? heq)).2
    next => rfl
  | some digits =>
    have hdigits := h digits rfl
    show (if (spanDigits (digits ++ rest)).1.isEmpty then none
      else some (some (spanDigits (digits ++ rest)).1, (spanDigits (digits ++ rest)).2)) = _
    rw [spanDigits_append hdigits.2 fun c hc => (hrest c hc).1, if_neg (by simpa using hdigits.1)]

/-- Behind the digits of a number there is no digit, and behind its fraction no point. -/
theorem noPoint_exponentChars (e : Option Exponent) {rest : List Char} (hrest : EndsNumber rest) :
    ∀ c ∈ (exponentChars e ++ rest).head?, c.isDigit = false ∧ c ≠ '.' := by
  intro c hc
  cases e with
  | none => exact ⟨(hrest c hc).1, (hrest c hc).2.1⟩
  | some e =>
    obtain rfl : e.letter = c := Option.some.inj hc
    rcases e.letter_spec with h | h <;> rw [h] <;> decide

theorem noDigit_fractionChars (digits : Option (List Char)) {rest : List Char}
    (hrest : NoDigit rest) : NoDigit (fractionChars digits ++ rest) := by
  cases digits with
  | none => exact hrest
  | some digits =>
    rintro c hc
    obtain rfl : '.' = c := Option.some.inj hc
    decide

/-- A number behind its sign. -/
def unsigned? (negative : Bool) (s : List Char) : Option (JsonNumber × List Char) :=
  if (spanDigits s).1.isEmpty ∨
      ((spanDigits s).1.head? = some '0' ∧ (spanDigits s).1.length ≠ 1) then
    none
  else do
    let (fraction, s') ← fraction? (spanDigits s).2
    let (exponent, s') ← exponent? s'
    return (← numberValue? negative (spanDigits s).1 fraction exponent, s')

theorem number?_minus (s : List Char) : number? ('-' :: s) = unsigned? true s := rfl

theorem number?_unsigned {s : List Char} (h : ∀ c ∈ s.head?, c ≠ '-') :
    number? s = unsigned? false s := by
  cases s with
  | nil => rfl
  | cons c s =>
    have hc := h c rfl
    simp [number?, unsigned?, hc]

theorem unsigned?_sound {negative : Bool} {s rest : List Char} {n : JsonNumber}
    (h : unsigned? negative s = some (n, rest)) : ∃ m : Numeral, m.value? = some n ∧
      (if negative then ['-'] else []) ++ s = m.chars ++ rest := by
  unfold unsigned? at h
  split at h
  · cases h
  · next hinteger =>
    obtain ⟨hempty, hzero⟩ := not_or.mp hinteger
    obtain ⟨⟨fraction, behind⟩, hfraction, h⟩ := Option.bind_eq_some_iff.mp h
    obtain ⟨⟨exponent, rest'⟩, hexponent, h⟩ := Option.bind_eq_some_iff.mp h
    obtain ⟨n', hvalue, h⟩ := Option.bind_eq_some_iff.mp h
    obtain ⟨rfl, rfl⟩ := Prod.mk.inj (Option.some.inj h)
    obtain ⟨hbehind, hdigits⟩ := fraction?_sound hfraction
    obtain ⟨e, rfl, hrest⟩ := exponent?_sound hexponent
    refine ⟨⟨negative, (spanDigits s).1, fraction, e,
      isDigits_spanDigits (Bool.eq_false_iff.mpr hempty), ?_, hdigits⟩, hvalue, ?_⟩
    · exact fun hhead => not_not.mp fun hlength => hzero ⟨hhead, hlength⟩
    · rw [Numeral.chars, List.append_assoc, List.append_assoc, List.append_assoc, ← hrest,
        ← hbehind, ← spanDigits_eq]

theorem number?_sound {s rest : List Char} {n : JsonNumber} (h : number? s = some (n, rest)) :
    ∃ m : Numeral, m.value? = some n ∧ s = m.chars ++ rest := by
  by_cases hminus : ∃ t, s = '-' :: t
  · obtain ⟨t, rfl⟩ := hminus
    exact unsigned?_sound h
  · rw [number?_unsigned] at h
    · exact unsigned?_sound h
    · intro c hc
      obtain ⟨t, rfl⟩ := List.head?_eq_some_iff.mp hc
      exact fun h => hminus ⟨t, h ▸ rfl⟩

/-- A number is read to its end. -/
theorem number?_complete {m : Numeral} {n : JsonNumber} (h : m.value? = some n) {rest : List Char}
    (hrest : EndsNumber rest) : number? (m.chars ++ rest) = some (n, rest) := by
  have hexponent := exponent?_complete m.exponent hrest
  have hfraction := fraction?_complete m.fraction_spec (noPoint_exponentChars m.exponent hrest)
  have hspan := spanDigits_append m.integer_spec.2 (noDigit_fractionChars m.fraction
    fun c hc => (noPoint_exponentChars m.exponent hrest c hc).1)
  have hread : unsigned? m.negative (m.integer ++ (fractionChars m.fraction ++
      (exponentChars m.exponent ++ rest))) = some (n, rest) := by
    have hinteger : ¬(m.integer.isEmpty ∨ (m.integer.head? = some '0' ∧ m.integer.length ≠ 1)) := by
      rintro (hempty | ⟨hhead, hlength⟩)
      · exact m.integer_spec.1 (List.isEmpty_iff.mp hempty)
      · exact hlength (m.zero_spec hhead)
    unfold unsigned?
    rw [hspan, if_neg hinteger]
    simp only [hfraction, hexponent, Option.bind_eq_bind, Option.bind_some]
    rw [← Numeral.value?, h]
    rfl
  obtain ⟨c, digits, hinteger, hc⟩ := m.integer_spec.exists_cons
  rw [Numeral.chars, List.append_assoc, List.append_assoc, List.append_assoc]
  cases hsign : m.negative with
  | true =>
    rw [hsign] at hread
    exact (number?_minus _).trans hread
  | false =>
    rw [hsign] at hread
    rw [if_neg (by decide), List.nil_append, number?_unsigned, hread]
    rw [hinteger]
    rintro d hd rfl
    obtain rfl : c = '-' := Option.some.inj hd
    exact absurd hc (by decide)

end DeviceSecurity.Json
