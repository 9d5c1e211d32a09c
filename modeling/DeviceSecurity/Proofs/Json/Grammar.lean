import DeviceSecurity.Proofs.Json.Token

/-!
# The grammar of JSON

`Spells j s` says, without a reader and without a limit, that the characters `s` write the value `j`
as RFC 8259 has it. Items and members carry the blanks around them, so that what stands between
brackets is their texts with commas between them (`joined`).

The reader agrees with the grammar (`parse?_eq_some_iff`): a text is read as a value exactly if it
spells the value and the value nests no deeper than is read. Both directions go by the depth, and
items and members share one argument (`ReadsPieces`).
-/

namespace DeviceSecurity.Json

/-! ## Nesting -/

mutual

/-- How deep containers nest in the value. -/
def depth : Json → Nat
  | array items => itemsDepth items + 1
  | object members => membersDepth members + 1
  | _ => 0

def itemsDepth : List Json → Nat
  | [] => 0
  | item :: rest => max item.depth (itemsDepth rest)

def membersDepth : List (String × Json) → Nat
  | [] => 0
  | (_, value) :: rest => max value.depth (membersDepth rest)

end

theorem itemsDepth_le {items : List Json} {d : Nat} :
    itemsDepth items ≤ d ↔ ∀ item ∈ items, item.depth ≤ d := by
  induction items with
  | nil => simp [itemsDepth]
  | cons item rest ih => rw [itemsDepth, Nat.max_le, ih, List.forall_mem_cons]

theorem membersDepth_le {members : List (String × Json)} {d : Nat} :
    membersDepth members ≤ d ↔ ∀ m ∈ members, m.2.depth ≤ d := by
  induction members with
  | nil => simp [membersDepth]
  | cons m rest ih => rw [membersDepth, Nat.max_le, ih, List.forall_mem_cons]

theorem depth_array_le {items : List Json} {d : Nat} :
    (array items).depth ≤ d + 1 ↔ ∀ item ∈ items, item.depth ≤ d := by
  rw [depth, Nat.add_le_add_iff_right, itemsDepth_le]

theorem depth_object_le {members : List (String × Json)} {d : Nat} :
    (object members).depth ≤ d + 1 ↔ ∀ m ∈ members, m.2.depth ≤ d := by
  rw [depth, Nat.add_le_add_iff_right, membersDepth_le]

/-! ## Texts of values -/

/-- Texts with commas between them. -/
def joined : List (List Char) → List Char
  | [] => []
  | t :: texts => t ++ texts.flatMap fun u => ',' :: u

theorem length_le_flatMap (texts : List (List Char)) :
    texts.length ≤ (texts.flatMap fun t => ',' :: t).length := by
  induction texts with
  | nil => exact Nat.zero_le _
  | cons t texts ih =>
    rw [List.flatMap_cons, List.length_append, List.length_cons, List.length_cons]
    omega

/-- An item as it stands between commas. -/
structure Item where
  before : List Char
  value : Json
  chars : List Char
  after : List Char
  before_spec : AllBlank before
  after_spec : AllBlank after

/-- A member as it stands between commas. -/
structure Member extends Item where
  beforeKey : List Char
  key : List Char
  keyChars : List Char
  afterKey : List Char
  beforeKey_spec : AllBlank beforeKey
  afterKey_spec : AllBlank afterKey
  key_spec : SpellsChars key keyChars

def Item.text (i : Item) : List Char := i.before ++ (i.chars ++ i.after)

def Member.text (m : Member) : List Char :=
  m.beforeKey ++ '"' :: (m.keyChars ++ '"' :: (m.afterKey ++ ':' :: m.toItem.text))

/-- The member that is read. -/
def Member.entry (m : Member) : String × Json := (String.ofList m.key, m.value)

/-- The characters write the value. -/
inductive Spells : Json → List Char → Prop
  | null : Spells null ['n', 'u', 'l', 'l']
  | boolTrue : Spells (bool true) ['t', 'r', 'u', 'e']
  | boolFalse : Spells (bool false) ['f', 'a', 'l', 's', 'e']
  | number {m : Numeral} {n : JsonNumber} (h : m.value? = some n) : Spells (number n) m.chars
  | string {cs s : List Char} (h : SpellsChars cs s) :
    Spells (string (String.ofList cs)) ('"' :: (s ++ ['"']))
  | emptyArray {b : List Char} (h : AllBlank b) : Spells (array []) ('[' :: (b ++ [']']))
  | emptyObject {b : List Char} (h : AllBlank b) : Spells (object []) ('\x7b' :: (b ++ ['\x7d']))
  | array {items : List Item} (hne : items ≠ []) (h : ∀ i ∈ items, Spells i.value i.chars) :
    Spells (array (items.map (·.value))) ('[' :: (joined (items.map Item.text) ++ [']']))
  | object {members : List Member} (hne : members ≠ [])
    (h : ∀ m ∈ members, Spells m.value m.chars) :
    Spells (object (members.map Member.entry))
      ('\x7b' :: (joined (members.map Member.text) ++ ['\x7d']))

/-- The text of a document: a value with blanks around it. -/
def IsTextOf (j : Json) (text : String) : Prop :=
  ∃ b t a, text.toList = b ++ (t ++ a) ∧ AllBlank b ∧ AllBlank a ∧ Spells j t

/-! ## Pieces between commas -/

/-- A reader takes exactly the texts of the pieces, up to the blanks behind a piece. -/
structure ReadsPieces {π α : Type} (item : List Char → Option (α × List Char)) (good : π → Prop)
    (value : π → α) (text : π → List Char) : Prop where
  sound : ∀ s x rest, item s = some (x, rest) → ∃ t, s = t ++ rest ∧
    ∀ b, AllBlank b → ∃ p, good p ∧ value p = x ∧ text p = t ++ b
  complete : ∀ p, good p → ∀ rest, EndsNumber rest →
    ∃ b, AllBlank b ∧ item (text p ++ rest) = some (value p, b ++ rest)
  skip : ∀ s, item (skipBlanks s) = item s
  starts : ∀ p, good p → ∃ c cs, skipBlanks (text p) = c :: cs ∧ isBlank c = false ∧ c ≠ ']' ∧
    c ≠ '\x7d'

namespace ReadsPieces

variable {π α : Type} {item : List Char → Option (α × List Char)} {good : π → Prop}
  {value : π → α} {text : π → List Char} {close : Char}

theorem sequence?_sound (h : ReadsPieces item good value text) {fuel : Nat} {s rest : List Char}
    {xs : List α} (hread : sequence? item close fuel s = some (xs, rest)) :
    ∃ ps : List π, ps ≠ [] ∧ (∀ p ∈ ps, good p) ∧ xs = ps.map value ∧
      s = joined (ps.map text) ++ close :: rest := by
  induction fuel generalizing s xs with
  | zero => cases hread
  | succ fuel ih =>
    obtain ⟨⟨x, behind⟩, hitem, hread⟩ := Option.bind_eq_some_iff.mp hread
    obtain ⟨t, rfl, hpiece⟩ := h.sound s x behind hitem
    obtain ⟨b, hb, hbehind⟩ := exists_skipBlanks behind
    obtain ⟨p, hp, rfl, htext⟩ := hpiece b hb
    dsimp only at hread
    split at hread
    · next s' hcomma =>
      obtain ⟨⟨xs, rest⟩, hlater, hread⟩ := Option.bind_eq_some_iff.mp hread
      obtain ⟨rfl, rfl⟩ := Prod.mk.inj (Option.some.inj hread)
      obtain ⟨ps, hne, hps, rfl, rfl⟩ := ih hlater
      refine ⟨p :: ps, List.cons_ne_nil p ps, List.forall_mem_cons.mpr ⟨hp, hps⟩, rfl, ?_⟩
      obtain ⟨q, qs, rfl⟩ := List.exists_cons_of_ne_nil hne
      rw [hbehind, hcomma]
      simp [joined, htext]
    · next c s' hne hc =>
      split at hread
      · next hclose =>
        obtain ⟨rfl, rfl⟩ := Prod.mk.inj (Option.some.inj hread)
        refine ⟨[p], List.cons_ne_nil p [], List.forall_mem_singleton.mpr hp, rfl, ?_⟩
        rw [hbehind, hc, hclose]
        simp [joined, htext]
      · cases hread
    · cases hread

theorem sequence?_complete (h : ReadsPieces item good value text)
    (hclose : close = ']' ∨ close = '\x7d') {p : π} {ps : List π} (hgood : ∀ q ∈ p :: ps, good q)
    (rest : List Char) {fuel : Nat} (hfuel : ps.length < fuel) :
    sequence? item close fuel (joined ((p :: ps).map text) ++ close :: rest) =
      some ((p :: ps).map value, rest) := by
  induction ps generalizing p fuel with
  | nil =>
    obtain ⟨fuel, rfl⟩ := Nat.exists_eq_succ_of_ne_zero (Nat.ne_of_gt hfuel)
    obtain ⟨b, hb, hitem⟩ := h.complete p (hgood p List.mem_cons_self) (close :: rest)
      (endsNumber_cons (.inr (hclose.imp_right .inl)) rest)
    have hblank : isBlank close = false := by rcases hclose with rfl | rfl <;> decide
    rw [List.map_singleton, joined, List.flatMap_nil, List.append_nil, sequence?, hitem]
    simp only [Option.bind_eq_bind, Option.bind_some, skipBlanks_append hb, skipBlanks_cons hblank]
    rcases hclose with rfl | rfl <;> rfl
  | cons q ps ih =>
    obtain ⟨fuel, rfl⟩ := Nat.exists_eq_succ_of_ne_zero (Nat.ne_of_gt (Nat.zero_lt_of_lt hfuel))
    obtain ⟨hp, hqs⟩ := List.forall_mem_cons.mp hgood
    have hlater := ih hqs (Nat.lt_of_succ_lt_succ hfuel)
    obtain ⟨b, hb, hitem⟩ := h.complete p hp
      (',' :: (joined ((q :: ps).map text) ++ close :: rest)) (endsNumber_cons (.inl rfl) _)
    have htexts : joined ((p :: q :: ps).map text) ++ close :: rest =
        text p ++ ',' :: (joined ((q :: ps).map text) ++ close :: rest) := by
      simp [joined]
    have hcomma : isBlank ',' = false := by decide
    rw [htexts, sequence?, hitem]
    simp only [Option.bind_eq_bind, Option.bind_some, skipBlanks_append hb, skipBlanks_cons hcomma,
      hlater]
    rfl

/-- Blanks in front of the first piece do not matter. -/
theorem sequence?_skipBlanks (h : ReadsPieces item good value text) (fuel : Nat) (s : List Char) :
    sequence? item close fuel (skipBlanks s) = sequence? item close fuel s := by
  cases fuel with
  | zero => rfl
  | succ fuel => rw [sequence?, sequence?, h.skip]

theorem bracketed?_sound (h : ReadsPieces item good value text) {s rest : List Char} {xs : List α}
    (hread : bracketed? item close s = some (xs, rest)) :
    (xs = [] ∧ ∃ b, AllBlank b ∧ s = b ++ close :: rest) ∨
    ∃ ps : List π, ps ≠ [] ∧ (∀ p ∈ ps, good p) ∧ xs = ps.map value ∧
      s = joined (ps.map text) ++ close :: rest := by
  obtain ⟨b, hb, hs⟩ := exists_skipBlanks s
  unfold bracketed? at hread
  split at hread
  · next c behind hc =>
    split at hread
    · next hclose =>
      obtain ⟨rfl, rfl⟩ := Prod.mk.inj (Option.some.inj hread)
      exact .inl ⟨rfl, b, hb, by rw [hs, hc, hclose]⟩
    · rw [← hc, h.sequence?_skipBlanks] at hread
      exact .inr (h.sequence?_sound hread)
  · cases hread

theorem bracketed?_complete (h : ReadsPieces item good value text)
    (hclose : close = ']' ∨ close = '\x7d') {ps : List π} (hne : ps ≠ [])
    (hgood : ∀ p ∈ ps, good p) (rest : List Char) :
    bracketed? item close (joined (ps.map text) ++ close :: rest) = some (ps.map value, rest) := by
  obtain ⟨p, ps, rfl⟩ := List.exists_cons_of_ne_nil hne
  obtain ⟨c, cs, hstart, hblank, hsquare, hcurly⟩ := h.starts p (hgood p List.mem_cons_self)
  have hopen : c ≠ close := by rcases hclose with rfl | rfl <;> assumption
  obtain ⟨b, hb, hp⟩ := exists_skipBlanks (text p)
  -- the fuel is the length of the text, and each piece behind the first has a comma of its own
  let later := (ps.map text).flatMap (fun t => ',' :: t) ++ close :: rest
  have htext : joined ((p :: ps).map text) ++ close :: rest = b ++ c :: (cs ++ later) := by
    rw [List.map_cons, joined, hp, hstart]
    simp [later]
  have hskip : skipBlanks (b ++ c :: (cs ++ later)) = c :: (cs ++ later) := by
    rw [skipBlanks_append hb, skipBlanks_cons hblank]
  have hfuel : ps.length < (c :: (cs ++ later)).length := by
    have := length_le_flatMap (ps.map text)
    simp only [later, List.length_cons, List.length_append, List.length_map] at this ⊢
    omega
  have hread := h.sequence?_complete hclose hgood rest hfuel
  rw [htext, ← h.sequence?_skipBlanks, hskip] at hread
  rw [htext, bracketed?, hskip]
  exact (if_neg hopen).trans hread

end ReadsPieces

/-! ## Values -/

theorem bracketed?_blank {α : Type} {item : List Char → Option (α × List Char)} {close : Char}
    {b : List Char} (hb : AllBlank b) (hclose : isBlank close = false) (rest : List Char) :
    bracketed? item close (b ++ close :: rest) = some ([], rest) := by
  rw [bracketed?, skipBlanks_append hb, skipBlanks_cons hclose]
  exact if_pos rfl

/-- A reader of values that agrees with the grammar as far as values nest `d` deep. -/
structure ReadsValues (read : List Char → Option (Json × List Char)) (d : Nat) : Prop where
  sound : ∀ s j rest, read s = some (j, rest) → ∃ b t, AllBlank b ∧ s = b ++ (t ++ rest) ∧
    Spells j t ∧ j.depth ≤ d
  complete : ∀ j t, Spells j t → j.depth ≤ d → ∀ rest, EndsNumber rest →
    read (t ++ rest) = some (j, rest)
  skip : ∀ s, read (skipBlanks s) = read s

theorem Numeral.exists_cons (m : Numeral) :
    ∃ c cs, m.chars = c :: cs ∧ (c.isDigit = true ∨ c = '-') := by
  obtain ⟨c, digits, hinteger, hc⟩ := m.integer_spec.exists_cons
  rw [Numeral.chars]
  cases m.negative with
  | true => exact ⟨'-', _, rfl, .inr rfl⟩
  | false => exact ⟨c, _, by rw [hinteger]; rfl, .inl hc⟩

theorem isBlank_of_number {c : Char} (hc : c.isDigit = true ∨ c = '-') :
    isBlank c = false ∧ c ≠ ']' ∧ c ≠ '\x7d' := by
  refine ⟨?_, ?_, ?_⟩
  · rw [Bool.eq_false_iff]
    intro h
    simp only [isBlank, Bool.or_eq_true, beq_iff_eq] at h
    rcases h with ((rfl | rfl) | rfl) | rfl <;> revert hc <;> decide
  all_goals
    rintro rfl
    revert hc
    decide

/-- The text of a value starts with neither a blank nor a closing bracket. -/
theorem Spells.exists_cons {j : Json} {t : List Char} (h : Spells j t) :
    ∃ c cs, t = c :: cs ∧ isBlank c = false ∧ c ≠ ']' ∧ c ≠ '\x7d' := by
  cases h with
  | @number m n h =>
    obtain ⟨c, cs, hchars, hc⟩ := m.exists_cons
    exact ⟨c, cs, hchars, isBlank_of_number hc⟩
  | _ => exact ⟨_, _, rfl, by decide, by decide, by decide⟩

variable {read : List Char → Option (Json × List Char)} {d : Nat}

theorem ReadsValues.skip_append (h : ReadsValues read d) {b : List Char} (hb : AllBlank b)
    (s : List Char) : read (b ++ s) = read s := by
  rw [← h.skip, skipBlanks_append hb, h.skip]

theorem ReadsValues.items (h : ReadsValues read d) :
    ReadsPieces read (fun i : Item => Spells i.value i.chars ∧ i.value.depth ≤ d)
      (·.value) Item.text where
  sound s j rest hread := by
    obtain ⟨b, t, hb, rfl, ht, hd⟩ := h.sound s j rest hread
    exact ⟨b ++ t, (List.append_assoc b t rest).symm, fun a ha =>
      ⟨⟨b, j, t, a, hb, ha⟩, ⟨ht, hd⟩, rfl, (List.append_assoc b t a).symm⟩⟩
  complete i hi rest hrest := by
    refine ⟨i.after, i.after_spec, ?_⟩
    rw [Item.text, List.append_assoc, List.append_assoc, h.skip_append i.before_spec]
    exact h.complete _ _ hi.1 hi.2 _ (hrest.append i.after_spec)
  skip := h.skip
  starts i hi := by
    obtain ⟨c, cs, hc, hstart⟩ := hi.1.exists_cons
    refine ⟨c, cs ++ i.after, ?_, hstart⟩
    rw [Item.text, skipBlanks_append i.before_spec, hc, List.cons_append, skipBlanks_cons hstart.1]

theorem ReadsValues.members (h : ReadsValues read d) :
    ReadsPieces (member? read) (fun m : Member => Spells m.value m.chars ∧ m.value.depth ≤ d)
      Member.entry Member.text where
  sound s x rest hread := by
    unfold member? at hread
    obtain ⟨b, hb, hs⟩ := exists_skipBlanks s
    split at hread
    · next behindQuote hquote =>
      obtain ⟨⟨key, behindKey⟩, hkey, hmember⟩ := Option.bind_eq_some_iff.mp hread
      obtain ⟨keyChars, hkeyChars, rfl⟩ := stringRest?_sound hkey
      obtain ⟨b', hb', hbehind⟩ := exists_skipBlanks behindKey
      dsimp only at hmember
      split at hmember
      · next behindColon hcolon =>
        obtain ⟨⟨j, behind⟩, hvalue, hmember⟩ := Option.bind_eq_some_iff.mp hmember
        obtain ⟨rfl, rfl⟩ := Prod.mk.inj (Option.some.inj hmember)
        obtain ⟨t, rfl, hpiece⟩ := h.items.sound _ _ _ hvalue
        refine ⟨b ++ '"' :: (keyChars ++ '"' :: (b' ++ ':' :: t)), ?_, fun a ha => ?_⟩
        · rw [hs, hquote, hbehind, hcolon]
          simp
        · obtain ⟨i, hi, rfl, htext⟩ := hpiece a ha
          refine ⟨⟨i, b, key, keyChars, b', hb, hb', hkeyChars⟩, hi, rfl, ?_⟩
          simp [Member.text, htext]
      · cases hmember
    · cases hread
  complete m hm rest hrest := by
    obtain ⟨b, hb, hvalue⟩ := h.items.complete m.toItem hm rest hrest
    refine ⟨b, hb, ?_⟩
    have htext : m.text ++ rest = m.beforeKey ++
        '"' :: (m.keyChars ++ '"' :: (m.afterKey ++ ':' :: (m.toItem.text ++ rest))) := by
      simp [Member.text]
    have hcolon : isBlank ':' = false := by decide
    rw [htext, member?, skipBlanks_append m.beforeKey_spec, skipBlanks_cons (by decide)]
    simp only [stringRest?_complete m.key_spec, Option.bind_eq_bind, Option.bind_some,
      skipBlanks_append m.afterKey_spec, skipBlanks_cons hcolon, hvalue]
    rfl
  skip s := by rw [member?, member?, skipBlanks_skipBlanks]
  starts m _ := by
    refine ⟨'"', m.keyChars ++ '"' :: (m.afterKey ++ ':' :: m.toItem.text), ?_, by decide,
      by decide, by decide⟩
    rw [Member.text, skipBlanks_append m.beforeKey_spec, skipBlanks_cons (by decide)]

theorem value?_quote (depth : Nat) (s : List Char) :
    value? depth ('"' :: s) = (stringRest? s).map fun p => (string (String.ofList p.1), p.2) := by
  rw [value?.eq_def]
  rfl

theorem value?_square (depth : Nat) (s : List Char) :
    value? (depth + 1) ('[' :: s)
      = (bracketed? (value? depth) ']' s).map fun p => (array p.1, p.2) := by
  rw [value?.eq_def]
  rfl

theorem value?_curly (depth : Nat) (s : List Char) :
    value? (depth + 1) ('\x7b' :: s)
      = (bracketed? (member? (value? depth)) '\x7d' s).map fun p => (object p.1, p.2) := by
  rw [value?.eq_def]
  rfl

/-- A number starts with a digit or a minus. -/
theorem value?_of_number {c : Char} (hc : c.isDigit = true ∨ c = '-') (depth : Nat)
    (s : List Char) :
    value? depth (c :: s) = (number? (c :: s)).map fun p => (.number p.1, p.2) := by
  have hne : c ≠ 'n' ∧ c ≠ 't' ∧ c ≠ 'f' ∧ c ≠ '"' ∧ c ≠ '[' ∧ c ≠ '\x7b' := by
    refine ⟨?_, ?_, ?_, ?_, ?_, ?_⟩
    all_goals
      rintro rfl
      revert hc
      decide
  obtain ⟨hn, ht, hf, hquote, hsquare, hcurly⟩ := hne
  unfold value?
  rw [skipBlanks_cons (isBlank_of_number hc).1]
  split
  all_goals
    first
      | rfl
      | (next h => exact absurd (List.cons.inj h).1 (by assumption))

theorem value?_skipBlanks (depth : Nat) (s : List Char) :
    value? depth (skipBlanks s) = value? depth s := by
  rw [value?.eq_def, value?.eq_def depth s]
  dsimp only
  rw [skipBlanks_skipBlanks]

variable {depth : Nat} {s rest : List Char} {j : Json}

/-- Containers are read as the grammar has them if their values are. -/
theorem array_sound (h : ReadsValues (value? depth) depth) {items : List Json}
    (hread : bracketed? (value? depth) ']' s = some (items, rest)) :
    ∃ t, '[' :: s = t ++ rest ∧ Spells (array items) t ∧ (array items).depth ≤ depth + 1 := by
  obtain ⟨rfl, b, hb, rfl⟩ | ⟨ps, hne, hps, rfl, rfl⟩ := h.items.bracketed?_sound hread
  · exact ⟨'[' :: (b ++ [']']), by simp, .emptyArray hb, depth_array_le.mpr (by simp)⟩
  · refine ⟨'[' :: (joined (ps.map Item.text) ++ [']']), by simp,
      .array hne fun i hi => (hps i hi).1, depth_array_le.mpr fun j hj => ?_⟩
    obtain ⟨i, hi, rfl⟩ := List.mem_map.mp hj
    exact (hps i hi).2

theorem object_sound (h : ReadsValues (value? depth) depth) {members : List (String × Json)}
    (hread : bracketed? (member? (value? depth)) '\x7d' s = some (members, rest)) :
    ∃ t, '\x7b' :: s = t ++ rest ∧ Spells (object members) t ∧
      (object members).depth ≤ depth + 1 := by
  obtain ⟨rfl, b, hb, rfl⟩ | ⟨ps, hne, hps, rfl, rfl⟩ := h.members.bracketed?_sound hread
  · exact ⟨'\x7b' :: (b ++ ['\x7d']), by simp, .emptyObject hb, depth_object_le.mpr (by simp)⟩
  · refine ⟨'\x7b' :: (joined (ps.map Member.text) ++ ['\x7d']), by simp,
      .object hne fun m hm => (hps m hm).1, depth_object_le.mpr fun m hm => ?_⟩
    obtain ⟨p, hp, rfl⟩ := List.mem_map.mp hm
    exact (hps p hp).2

/-- What is read spells the value. The containers are read by the readers one less deep. -/
theorem value?_sound (ih : ∀ d, depth = d + 1 → ReadsValues (value? d) d)
    (h : value? depth s = some (j, rest)) :
    ∃ b t, AllBlank b ∧ s = b ++ (t ++ rest) ∧ Spells j t ∧ j.depth ≤ depth := by
  obtain ⟨b, hb, hs⟩ := exists_skipBlanks s
  suffices hspelled : ∃ t, skipBlanks s = t ++ rest ∧ Spells j t ∧ j.depth ≤ depth by
    obtain ⟨t, ht, hspelled⟩ := hspelled
    exact ⟨b, t, hb, ht ▸ hs, hspelled⟩
  unfold value? at h
  split at h
  · next s' hc =>
    obtain ⟨rfl, rfl⟩ := Prod.mk.inj (Option.some.inj h)
    exact ⟨_, hc, .null, Nat.zero_le _⟩
  · next s' hc =>
    obtain ⟨rfl, rfl⟩ := Prod.mk.inj (Option.some.inj h)
    exact ⟨_, hc, .boolTrue, Nat.zero_le _⟩
  · next s' hc =>
    obtain ⟨rfl, rfl⟩ := Prod.mk.inj (Option.some.inj h)
    exact ⟨_, hc, .boolFalse, Nat.zero_le _⟩
  · next s' hc =>
    obtain ⟨⟨cs, rest'⟩, hread, h⟩ := Option.map_eq_some_iff.mp h
    obtain ⟨rfl, rfl⟩ := Prod.mk.inj h
    obtain ⟨t, ht, rfl⟩ := stringRest?_sound hread
    exact ⟨'"' :: (t ++ ['"']), by simp [hc], .string ht, Nat.zero_le _⟩
  · next s' hc =>
    split at h
    · cases h
    · next d =>
      obtain ⟨⟨items, rest'⟩, hread, h⟩ := Option.map_eq_some_iff.mp h
      obtain ⟨rfl, rfl⟩ := Prod.mk.inj h
      rw [hc]
      exact array_sound (ih d rfl) hread
  · next s' hc =>
    split at h
    · cases h
    · next d =>
      obtain ⟨⟨members, rest'⟩, hread, h⟩ := Option.map_eq_some_iff.mp h
      obtain ⟨rfl, rfl⟩ := Prod.mk.inj h
      rw [hc]
      exact object_sound (ih d rfl) hread
  · next s' _ _ _ _ _ _ =>
    obtain ⟨⟨n, rest'⟩, hread, h⟩ := Option.map_eq_some_iff.mp h
    obtain ⟨rfl, rfl⟩ := Prod.mk.inj h
    obtain ⟨m, hm, ht⟩ := number?_sound hread
    exact ⟨m.chars, ht, .number hm, Nat.zero_le _⟩

/-- What spells a value is read. -/
theorem value?_complete (ih : ∀ d, depth = d + 1 → ReadsValues (value? d) d) {t : List Char}
    (h : Spells j t) (hd : j.depth ≤ depth) (hrest : EndsNumber rest) :
    value? depth (t ++ rest) = some (j, rest) := by
  cases h with
  | null => rw [value?.eq_def]; rfl
  | boolTrue => rw [value?.eq_def]; rfl
  | boolFalse => rw [value?.eq_def]; rfl
  | @number m n h =>
    obtain ⟨c, cs, hchars, hc⟩ := m.exists_cons
    have hread := number?_complete h hrest
    rw [hchars, List.cons_append] at hread ⊢
    rw [value?_of_number hc, hread]
    rfl
  | string h =>
    rw [List.cons_append, List.append_assoc, value?_quote, List.singleton_append,
      stringRest?_complete h, Option.map_some]
  | @emptyArray b h =>
    obtain ⟨d, rfl⟩ := Nat.exists_eq_add_one.mpr (Nat.lt_of_lt_of_le (Nat.succ_pos _) hd)
    rw [List.cons_append, List.append_assoc, value?_square, List.singleton_append,
      bracketed?_blank h (by decide), Option.map_some]
  | @emptyObject b h =>
    obtain ⟨d, rfl⟩ := Nat.exists_eq_add_one.mpr (Nat.lt_of_lt_of_le (Nat.succ_pos _) hd)
    rw [List.cons_append, List.append_assoc, value?_curly, List.singleton_append,
      bracketed?_blank h (by decide), Option.map_some]
  | @array items hne h =>
    obtain ⟨d, rfl⟩ := Nat.exists_eq_add_one.mpr (Nat.lt_of_lt_of_le (Nat.succ_pos _) hd)
    have hdepth := depth_array_le.mp hd
    rw [List.cons_append, List.append_assoc, value?_square, List.singleton_append,
      (ih d rfl).items.bracketed?_complete (.inl rfl) hne
        (fun i hi => ⟨h i hi, hdepth i.value (List.mem_map_of_mem hi)⟩), Option.map_some]
  | @object members hne h =>
    obtain ⟨d, rfl⟩ := Nat.exists_eq_add_one.mpr (Nat.lt_of_lt_of_le (Nat.succ_pos _) hd)
    have hdepth := depth_object_le.mp hd
    rw [List.cons_append, List.append_assoc, value?_curly, List.singleton_append,
      (ih d rfl).members.bracketed?_complete (.inr rfl) hne
        (fun m hm => ⟨h m hm, hdepth m.entry (List.mem_map_of_mem hm)⟩), Option.map_some]

/-- At every depth the reader agrees with the grammar. -/
theorem readsValues (depth : Nat) : ReadsValues (value? depth) depth := by
  have hstep : ∀ depth, (∀ d, depth = d + 1 → ReadsValues (value? d) d) →
      ReadsValues (value? depth) depth := fun depth ih =>
    ⟨fun _ _ _ => value?_sound ih, fun _ _ ht hd _ => value?_complete ih ht hd,
      value?_skipBlanks depth⟩
  induction depth with
  | zero => exact hstep 0 fun d hd => nomatch hd
  | succ depth ih => exact hstep (depth + 1) fun d hd => Nat.succ.inj hd ▸ ih

/-! ## Texts -/

theorem IsTextOf.value?_eq {text : String} (h : IsTextOf j text) (hd : j.depth ≤ depth) :
    ∃ a, AllBlank a ∧ value? depth text.toList = some (j, a) := by
  obtain ⟨b, t, a, htext, hb, ha, ht⟩ := h
  refine ⟨a, ha, ?_⟩
  have hends : EndsNumber a := by
    rw [← List.append_nil a]
    exact endsNumber_nil.append ha
  rw [htext, (readsValues depth).skip_append hb,
    value?_complete (fun d _ => readsValues d) ht hd hends]

/-- A text spells one value at most. -/
theorem IsTextOf.unique {text : String} {k : Json} (hj : IsTextOf j text) (hk : IsTextOf k text) :
    j = k := by
  obtain ⟨a, -, hj⟩ := hj.value?_eq (Nat.le_max_left j.depth k.depth)
  obtain ⟨b, -, hk⟩ := hk.value?_eq (Nat.le_max_right j.depth k.depth)
  rw [hj] at hk
  exact (Prod.mk.inj (Option.some.inj hk)).1

/-- A text is read as the value that it spells, unless that nests too deep. -/
theorem parse?_eq_some_iff {text : String} :
    parse? text = some j ↔ IsTextOf j text ∧ j.depth ≤ maxDepth := by
  unfold parse? parseChars?
  constructor
  · intro h
    split at h
    · next j' rest hvalue =>
      split at h
      · next hempty =>
        obtain rfl := Option.some.inj h
        obtain ⟨b, t, hb, htext, ht, hd⟩ := (readsValues maxDepth).sound _ _ _ hvalue
        obtain ⟨a, ha, hrest⟩ := exists_skipBlanks rest
        rw [List.isEmpty_iff.mp hempty, List.append_nil] at hrest
        exact ⟨⟨b, t, rest, htext, hb, hrest ▸ ha, ht⟩, hd⟩
      · cases h
    · cases h
  · rintro ⟨h, hd⟩
    obtain ⟨a, ha, hvalue⟩ := h.value?_eq hd
    have hblank : skipBlanks a = [] := by
      rw [← List.append_nil a, skipBlanks_append ha]
      rfl
    rw [hvalue]
    simp [hblank]

end DeviceSecurity.Json
