import Mathlib.Tactic.IntervalCases
import Mathlib.Tactic.SplitIfs
import DeviceSecurity.Json.Printer
import DeviceSecurity.Proofs.Json.Grammar

/-!
# What is written can be read

What `Json.chars` writes spells the value (`spells_chars`) as far as each of its numbers is read
back from what is written for it, as whole numbers that fit 64 bits are (`readsBack_whole`). So
`Json.parse?` reads back the text of every such value that nests no deeper than is read
(`parse?_text_of_readsBack`).
-/

namespace DeviceSecurity.Json

/-! ## Strings -/

theorem unit?_control :
    ∀ n < 32, unit? '0' '0' (hexDigit (n / 16)) (hexDigit (n % 16)) = some n := by
  decide

/-- The four digits of a control stand for the control. -/
theorem spellsChar_control {c : Char} (hc : c < ' ') : SpellsChar c
    ['\\', 'u', '0', '0', hexDigit (c.toNat / 16), hexDigit (c.toNat % 16)] := by
  have hn : c.toNat < 32 := hc
  have hspelled := SpellsChar.unit (unit?_control _ hn) (by omega)
  rwa [Char.ofNat_toNat] at hspelled

theorem spellsChar_escape (c : Char) : SpellsChar c (escape c) := by
  unfold escape
  split_ifs with h₁ h₂ h₃ h₄ h₅ h₆ h₇ h₈
  · subst h₁; exact .short rfl
  · subst h₂; exact .short rfl
  · subst h₃; exact .short rfl
  · subst h₄; exact .short rfl
  · subst h₅; exact .short rfl
  · subst h₆; exact .short rfl
  · subst h₇; exact .short rfl
  · exact spellsChar_control h₈
  · exact .plain h₁ h₂ h₈

theorem spellsChars_escape (cs : List Char) : SpellsChars cs (cs.flatMap escape) := by
  induction cs with
  | nil => exact .nil
  | cons c cs ih => exact .cons (spellsChar_escape c) ih

/-! ## Numbers -/

theorem foldl_natChars (n : Nat) :
    (natChars n).foldl (fun n d => n * 10 + (d.toNat - '0'.toNat)) 0 = n := by
  have h : Nat.ofDigitChars 10 (natChars n) 0 = n := Nat.ofDigitChars_ten_toDigits
  rw [Nat.ofDigitChars_eq_foldl] at h
  simpa only [Nat.mul_comm 10] using h

/-- Only zero is written with a zero in front. -/
theorem head?_natChars {n : Nat} (hn : 0 < n) : (natChars n).head? ≠ some '0' := by
  induction n using Nat.strongRecOn with
  | ind n ih =>
    unfold natChars at ih ⊢
    rw [Nat.toDigits_eq_if (by decide)]
    split
    next hlt =>
      interval_cases n <;> decide
    next hge =>
      have := ih (n / 10) (by omega) (by omega)
      rwa [List.head?_append, Option.or_of_isSome (by simp [Nat.toDigits_ne_nil])]

theorem isDigits_natChars (n : Nat) : IsDigits (natChars n) :=
  ⟨Nat.toDigits_ne_nil, fun _ hc => Nat.isDigit_of_mem_toDigits (by decide) (by decide) hc⟩

/-- A number of nothing but a sign and the digits of a natural number. -/
def wholeNumeral (negative : Bool) (n : Nat) : Numeral where
  negative := negative
  integer := natChars n
  fraction := none
  exponent := none
  integer_spec := isDigits_natChars n
  zero_spec hzero := by
    cases Nat.eq_zero_or_pos n with
    | inl h =>
      subst h
      rfl
    | inr h => exact absurd hzero (head?_natChars h)
  fraction_spec := fun _ h => nomatch h

theorem value?_wholeNumeral {negative : Bool} {n : Nat}
    (h : if negative then 0 < n ∧ n ≤ wordLimit / 2 else n < wordLimit) :
    (wholeNumeral negative n).value? = some (.whole (if negative then -n else n)) := by
  show numberValue? negative (natChars n) none none = _
  unfold numberValue?
  rw [foldl_natChars]
  exact if_pos ⟨rfl, rfl, h⟩

/-- The number is read from what is written for it. -/
def ReadsBack (n : JsonNumber) : Prop := number? (numberChars n) = some (n, [])

instance (n : JsonNumber) : Decidable (ReadsBack n) :=
  inferInstanceAs (Decidable (number? (numberChars n) = some (n, [])))

theorem readsBack_of_numeral {n : JsonNumber} {m : Numeral} (hvalue : m.value? = some n)
    (hchars : m.chars = numberChars n) : ReadsBack n := by
  have hread := number?_complete hvalue endsNumber_nil
  rwa [List.append_nil, hchars] at hread

/-- A whole number of 64 bits is read back. -/
theorem readsBack_whole {n : Int} (hlower : -2 ^ 63 ≤ n) (hupper : n < 2 ^ 64) :
    ReadsBack (.whole n) := by
  cases n with
  | ofNat n =>
    have hn : (n : Int) < 2 ^ 64 := hupper
    refine readsBack_of_numeral (m := wholeNumeral false n) (value?_wholeNumeral ?_) ?_
    · show n < 0x10000000000000000
      omega
    · simp [wholeNumeral, Numeral.chars, fractionChars, exponentChars, numberChars, intChars]
  | negSucc n =>
    refine readsBack_of_numeral (m := wholeNumeral true (n + 1)) (value?_wholeNumeral ?_) ?_
    · show 0 < n + 1 ∧ n + 1 ≤ 0x10000000000000000 / 2
      omega
    · simp [wholeNumeral, Numeral.chars, fractionChars, exponentChars, numberChars, intChars]

theorem spells_number {n : JsonNumber} (h : ReadsBack n) : Spells (number n) (numberChars n) := by
  obtain ⟨m, hvalue, hchars⟩ := number?_sound h
  rw [hchars, List.append_nil]
  exact .number hvalue

/-! ## Values -/

/-- All numbers in the value are of a kind. -/
inductive AllNumbers (kind : JsonNumber → Prop) : Json → Prop
  | null : AllNumbers kind null
  | bool (b : Bool) : AllNumbers kind (bool b)
  | number {n : JsonNumber} (h : kind n) : AllNumbers kind (number n)
  | string (s : String) : AllNumbers kind (string s)
  | array {items : List Json} (h : ∀ item ∈ items, AllNumbers kind item) :
    AllNumbers kind (array items)
  | object {members : List (String × Json)} (h : ∀ m ∈ members, AllNumbers kind m.2) :
    AllNumbers kind (object members)

/-- An item as it is written. -/
def writtenItem (j : Json) : Item := ⟨[], j, chars j, [], allBlank_nil, allBlank_nil⟩

/-- A member as it is written. -/
def writtenMember (m : String × Json) : Member :=
  ⟨writtenItem m.2, [], m.1.toList, m.1.toList.flatMap escape, [], allBlank_nil, allBlank_nil,
    spellsChars_escape m.1.toList⟩

theorem text_writtenItem (j : Json) : (writtenItem j).text = chars j := by
  simp [Item.text, writtenItem]

theorem text_writtenMember (m : String × Json) :
    (writtenMember m).text = stringChars m.1 ++ ':' :: chars m.2 := by
  simp [Member.text, writtenMember, text_writtenItem, stringChars]

theorem entry_writtenMember (m : String × Json) : (writtenMember m).entry = m := by
  rw [Member.entry, writtenMember, String.ofList_toList]
  rfl

theorem itemChars_eq_joined (items : List Json) :
    itemChars items = joined ((items.map writtenItem).map Item.text) := by
  induction items with
  | nil => rfl
  | cons item rest ih =>
    cases rest with
    | nil => simp [itemChars, joined, text_writtenItem]
    | cons next rest =>
      rw [itemChars, ih]
      · simp [joined, text_writtenItem]
      · exact fun h => List.cons_ne_nil _ _ h

theorem memberChars_eq_joined (members : List (String × Json)) :
    memberChars members = joined ((members.map writtenMember).map Member.text) := by
  induction members with
  | nil => rfl
  | cons m rest ih =>
    cases rest with
    | nil => simp [memberChars, joined, text_writtenMember]
    | cons next rest =>
      rw [memberChars, ih]
      · simp [joined, text_writtenMember]
      · exact fun h => List.cons_ne_nil _ _ h

/-- What is written for a value whose numbers are read back spells the value. -/
theorem spells_chars {j : Json} (h : AllNumbers ReadsBack j) : Spells j (chars j) := by
  -- on the predicate and not on the value, whose items and members would need a mutual induction
  induction h with
  | null => exact .null
  | bool b => cases b with
    | true => exact .boolTrue
    | false => exact .boolFalse
  | number h => exact spells_number h
  | string s =>
    have hs := Spells.string (spellsChars_escape s.toList)
    rwa [String.ofList_toList] at hs
  | @array items h ih =>
    rw [chars, itemChars_eq_joined]
    by_cases hne : items = []
    · subst hne
      exact .emptyArray allBlank_nil
    · have hvalues : (items.map writtenItem).map (·.value) = items := by
        rw [List.map_map]
        exact List.map_id items
      have hspells := @Spells.array (items.map writtenItem) (by simpa using hne)
        (List.forall_mem_map.mpr ih)
      rwa [hvalues] at hspells
  | @object members h ih =>
    rw [chars, memberChars_eq_joined]
    by_cases hne : members = []
    · subst hne
      exact .emptyObject allBlank_nil
    · have hentries : (members.map writtenMember).map Member.entry = members := by
        rw [List.map_map]
        exact (List.map_congr_left fun m _ => entry_writtenMember m).trans (List.map_id members)
      have hspells := @Spells.object (members.map writtenMember) (by simpa using hne)
        (List.forall_mem_map.mpr ih)
      rwa [hentries] at hspells

/-- Writing and reading gives the value back, with its members in their order. -/
theorem parse?_text_of_readsBack {j : Json} (h : AllNumbers ReadsBack j) (hd : j.depth ≤ maxDepth) :
    parse? j.text = some j := by
  refine parse?_eq_some_iff.mpr
    ⟨⟨[], chars j, [], ?_, allBlank_nil, allBlank_nil, spells_chars h⟩, hd⟩
  rw [text, String.toList_ofList, List.nil_append, List.append_nil]

/-! ## Exact values -/

/-- Values that nest at most `depth` deep and whose numbers are whole and fit 64 bits. -/
inductive Exact : (depth : Nat) → Json → Prop
  | null {depth : Nat} : Exact depth null
  | bool {depth : Nat} (b : Bool) : Exact depth (bool b)
  | whole {depth : Nat} {n : Int} (lower : -2 ^ 63 ≤ n) (upper : n < 2 ^ 64) :
    Exact depth (number (.whole n))
  | string {depth : Nat} (s : String) : Exact depth (string s)
  | array {depth : Nat} {items : List Json} (h : ∀ item ∈ items, Exact depth item) :
    Exact (depth + 1) (array items)
  | object {depth : Nat} {members : List (String × Json)} (h : ∀ m ∈ members, Exact depth m.2) :
    Exact (depth + 1) (object members)

theorem Exact.allNumbers {depth : Nat} {j : Json} (h : Exact depth j) : AllNumbers ReadsBack j := by
  induction h with
  | null => exact .null
  | bool b => exact .bool b
  | whole lower upper => exact .number (readsBack_whole lower upper)
  | string s => exact .string s
  | array _ ih => exact .array ih
  | object _ ih => exact .object ih

theorem Exact.depth_le {depth : Nat} {j : Json} (h : Exact depth j) : j.depth ≤ depth := by
  induction h with
  | array _ ih => exact depth_array_le.mpr ih
  | object _ ih => exact depth_object_le.mpr ih
  | _ => exact Nat.zero_le _

/-- Exact values are read back. -/
theorem parse?_text {j : Json} (h : Exact maxDepth j) : parse? j.text = some j :=
  parse?_text_of_readsBack h.allNumbers h.depth_le

end DeviceSecurity.Json
