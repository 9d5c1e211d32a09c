import DeviceSecurity.Proofs.Pin.PatternSize
import DeviceSecurity.Proofs.Text.Search

/-!
# Common names as patterns

A common name can be written as a pattern: the name with its special characters escaped, or, if it
begins with a star, any characters and then the rest, between the two ends of the text. A match is
then always a whole text (`matches_pieces`). For a name that can be compared, `matchesName` finds
exactly the hosts with a match (`matchesName_exact`), which are those that the name `StandsFor`. The
name comes from a certificate that anybody may have made, but only a star at its start has a
meaning: every other character is read as itself. A name that is too long for that is an error, also
with a host of the same characters (`matchesName_replicate`).
-/

namespace DeviceSecurity.HostName

open Text (EqFolded)
open Text.Search (Found Matches Piece escape literals pieces? read? tokens?)

variable {commonName host rest : List Char}

/-- The hosts of a common name. -/
inductive StandsFor : (commonName host : List Char) → Prop
  /-- The name itself, maybe in another case. -/
  | name {name host : List Char} (hname : name.head? ≠ some '*') (hsame : EqFolded host name) :
    StandsFor name host
  /-- Behind a star, the rest with something before it that is on one line. -/
  | star {rest start tail : List Char} (hstart : start ≠ []) (hline : '\n' ∉ start)
    (htail : EqFolded tail rest) : StandsFor ('*' :: rest) (start ++ tail)

theorem standsFor_name (h : commonName.head? ≠ some '*') :
    StandsFor commonName host ↔ EqFolded host commonName := by
  constructor
  · intro hstands
    cases hstands with
    | name hname hsame => exact hsame
    | star => exact absurd rfl h
  · exact .name h

theorem standsFor_star : StandsFor ('*' :: rest) host ↔
    ∃ start tail, host = start ++ tail ∧ start ≠ [] ∧ '\n' ∉ start ∧ EqFolded tail rest := by
  constructor
  · intro hstands
    obtain ⟨hname, -⟩ | ⟨hstart, hline, htail⟩ := hstands
    · exact absurd rfl hname
    · exact ⟨_, _, rfl, hstart, hline, htail⟩
  · rintro ⟨start, tail, rfl, hstart, hline, htail⟩
    exact .star hstart hline htail

/-! ## Patterns -/

/-- The pattern of a common name. -/
def pattern : (commonName : List Char) → List Char
  | '*' :: rest => '^' :: '.' :: '+' :: (escape rest ++ ['$'])
  | name => '^' :: (escape name ++ ['$'])

/-- What the pattern of a common name asks for: its characters, but for a star at the start. -/
def pieces : (commonName : List Char) → List Piece
  | '*' :: rest => .textStart :: .many .dot :: (literals rest ++ [.textEnd])
  | name => .textStart :: (literals name ++ [.textEnd])

theorem pattern_name (h : commonName.head? ≠ some '*') :
    pattern commonName = '^' :: (escape commonName ++ ['$']) := by
  unfold pattern
  split
  · exact absurd rfl h
  · rfl

theorem pieces_name (h : commonName.head? ≠ some '*') :
    pieces commonName = .textStart :: (literals commonName ++ [.textEnd]) := by
  unfold pieces
  split
  · exact absurd rfl h
  · rfl

/-- Every common name has a pattern that is well formed. -/
theorem isPattern_pattern (commonName : List Char) :
    Text.isPattern (pattern commonName) = true := by
  by_cases h : commonName.head? = some '*'
  · obtain ⟨rest, rfl⟩ := List.head?_eq_some_iff.mp h
    have hplus : ¬((escape rest ++ ['$']).head? == some '?') = true := by
      rw [beq_iff_eq]
      exact Text.Search.head?_escape_ne rest
    show Text.Pattern.continues _ 0 true (if _ then _ else _) = true
    rw [if_neg hplus]
    exact Text.Search.continues_escape rest (by simp) true
  · rw [pattern_name h]
    show Text.Pattern.continues _ 0 true (escape commonName ++ ['$']) = true
    exact Text.Search.continues_escape commonName (by simp) true

/-- The pattern is read as what it is to ask for. -/
theorem read?_pattern (commonName : List Char) :
    read? (pattern commonName) = some (pieces commonName) := by
  by_cases h : commonName.head? = some '*'
  · obtain ⟨rest, rfl⟩ := List.head?_eq_some_iff.mp h
    have htokens : tokens? (pattern ('*' :: rest)) =
        some (.sign '^' :: .sign '.' :: .sign '+' :: (rest.map .plain ++ [.sign '$'])) := by
      simp [pattern, tokens?, Text.Search.tokens?_escape_textEnd, Text.Search.special]
    rw [read?, htokens]
    show ((pieces? (rest.map .plain ++ [.sign '$'])).map _).map _ = _
    rw [Text.Search.pieces?_plain]
    rfl
  · have htokens : tokens? (pattern commonName) =
        some (.sign '^' :: (commonName.map .plain ++ [.sign '$'])) := by
      simp [pattern_name h, tokens?, Text.Search.tokens?_escape_textEnd, Text.Search.special]
    rw [read?, htokens, pieces_name h]
    show (pieces? (commonName.map .plain ++ [.sign '$'])).map _ = _
    rw [Text.Search.pieces?_plain]
    rfl

/-! ## Matches -/

theorem matches_literals_textEnd {s before part after : List Char} :
    Matches (literals s ++ [.textEnd]) before part after ↔ after = [] ∧ EqFolded part s := by
  rw [Text.Search.matches_literals]
  constructor
  · rintro ⟨same, rest, rfl, hsame, rfl, hafter, -⟩
    rw [List.append_nil]
    exact ⟨hafter, hsame⟩
  · rintro ⟨hafter, hsame⟩
    exact ⟨part, [], (List.append_nil part).symm, hsame, rfl, hafter, rfl⟩

/-- A match of a common name is a whole text, which the name stands for. -/
theorem matches_pieces {before part after : List Char} :
    Matches (pieces commonName) before part after ↔
      before = [] ∧ after = [] ∧ StandsFor commonName part := by
  by_cases h : commonName.head? = some '*'
  · obtain ⟨rest, rfl⟩ := List.head?_eq_some_iff.mp h
    rw [standsFor_star]
    constructor
    · rintro ⟨rfl, start, tail, rfl, hstart, hline, hrest⟩
      obtain ⟨rfl, htail⟩ := matches_literals_textEnd.mp hrest
      exact ⟨rfl, rfl, start, tail, rfl, hstart, fun hmem => hline _ hmem rfl, htail⟩
    · rintro ⟨rfl, rfl, start, tail, rfl, hstart, hline, htail⟩
      refine ⟨rfl, start, tail, rfl, hstart, ?_, matches_literals_textEnd.mpr ⟨rfl, htail⟩⟩
      rintro c hc rfl
      exact hline hc
  · rw [pieces_name h, standsFor_name h]
    exact and_congr_right fun _ => matches_literals_textEnd

theorem found_pieces : Found (pieces commonName) host ↔ StandsFor commonName host := by
  constructor
  · rintro ⟨before, part, after, rfl, h⟩
    obtain ⟨rfl, rfl, hstands⟩ := matches_pieces.mp h
    rwa [List.nil_append, List.append_nil]
  · intro h
    exact ⟨[], host, [], (List.append_nil host).symm, matches_pieces.mpr ⟨rfl, rfl, h⟩⟩

/-! ## Comparison -/

theorem matchesChars_name (h : commonName.head? ≠ some '*') :
    matchesChars commonName host = Text.sameFolded host commonName := by
  unfold matchesChars
  split
  · exact absurd rfl h
  · rfl

/-- Folding keeps the number of characters, so that the rest of a name can only match as many of
them at the end of the host. -/
theorem matchesChars_star : matchesChars ('*' :: rest) host = true ↔
    ∃ start tail, host = start ++ tail ∧ start ≠ [] ∧ '\n' ∉ start ∧ EqFolded tail rest := by
  simp only [matchesChars, Bool.and_eq_true, decide_eq_true_eq, Bool.not_eq_true',
    List.contains_eq_mem, decide_eq_false_iff_not, Text.sameFolded_iff]
  constructor
  · rintro ⟨⟨hlength, hline⟩, htail⟩
    refine ⟨_, _, (List.take_append_drop _ host).symm, ?_, hline, htail⟩
    rw [← List.length_pos_iff, List.length_take]
    omega
  · rintro ⟨start, tail, rfl, hstart, hline, htail⟩
    have hlength : tail.length = rest.length := htail.length_eq
    have hpos := List.length_pos_iff.mpr hstart
    have hcut : (start ++ tail).length - rest.length = start.length := by
      rw [List.length_append]
      omega
    rw [hcut, List.take_left, List.drop_left, List.length_append]
    exact ⟨⟨by omega, hline⟩, htail⟩

theorem matchesChars_iff : matchesChars commonName host = true ↔ StandsFor commonName host := by
  by_cases h : commonName.head? = some '*'
  · obtain ⟨rest, rfl⟩ := List.head?_eq_some_iff.mp h
    rw [matchesChars_star, standsFor_star]
  · rw [matchesChars_name h, Text.sameFolded_iff, standsFor_name h]

/-- For every common name that can be compared and every host: without a star at its start a name
matches the hosts with the same characters up to case, and with one it matches the hosts that have,
behind something on one line, the characters of the rest up to case. These are the hosts with a
match of the name's pattern, which is well formed whatever the name, takes every other character as
itself, and has no match with text before or behind it. A name that cannot be compared is an error
for every host. None of up to 300 characters is, and every one of more than 327674. -/
theorem matchesName_exact (commonName : String) :
    (∀ host b, matchesName commonName host = .ok b ↔
      canBuild commonName.toList ∧ (b = true ↔ StandsFor commonName.toList host.toList)) ∧
    (∀ host e, matchesName commonName host = .error e ↔
      ¬canBuild commonName.toList ∧ e = tooLarge) ∧
    (commonName.toList.length ≤ 300 → canBuild commonName.toList) ∧
    (327674 < commonName.toList.length → ¬canBuild commonName.toList) ∧
    Text.isPattern (pattern commonName.toList) = true ∧
    read? (pattern commonName.toList) = some (pieces commonName.toList) ∧
    (∀ host, matchesName commonName host = .ok true ↔
      canBuild commonName.toList ∧ Found (pieces commonName.toList) host.toList) ∧
    ∀ before part after, Matches (pieces commonName.toList) before part after →
      before = [] ∧ after = [] := by
  refine ⟨fun host b => ?_, fun host e => matchesName_eq_error, canBuild_of_length_le,
    not_canBuild_of_lt_length, isPattern_pattern _, read?_pattern _, fun host => ?_,
    fun before part after h => ?_⟩
  · rw [matchesName_eq_ok, ← matchesChars_iff, ← Bool.eq_iff_iff, eq_comm (a := b)]
  · rw [matchesName_eq_ok, matchesChars_iff, found_pieces]
  · obtain ⟨hbefore, hafter, -⟩ := matches_pieces.mp h
    exact ⟨hbefore, hafter⟩

/-- The name of 140000 times the same letter stands for itself, but no host can be compared with
it. -/
theorem matchesName_replicate :
    let name := String.ofList (List.replicate 140000 'a')
    name.toList.head? ≠ some '*' ∧ StandsFor name.toList name.toList ∧
      matchesName name name = .error tooLarge ∧
      tooLarge = .hostMismatch ("bad common name pattern: " ++
        "Compiled regex exceeds size limit of 10485760 bytes.") := by
  intro name
  have hname : name.toList = List.replicate 140000 'a' := String.toList_ofList
  have hhead : (List.replicate 140000 'a').head? ≠ some '*' := by
    rw [List.head?_replicate]
    decide
  have hsize : ¬nameSize 192 forwardSize (List.replicate 140000 'a') ≤ 10485760 := by
    have hletter : charSize forwardSize 'a' = 80 := by decide +kernel
    rw [nameSize_replicate (by decide), hletter]
    decide
  refine ⟨hname ▸ hhead, .name (hname ▸ hhead) (List.forall₂_same.mpr fun _ _ => rfl), ?_, ?_⟩
  · rw [matchesName_eq_error, hname, canBuild_iff]
    exact ⟨fun h => hsize h.1, rfl⟩
  · decide

end DeviceSecurity.HostName
