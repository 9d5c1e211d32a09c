import DeviceSecurity.Text.Basic
import Mathlib.Data.Bool.AllAny

/-!
# Trimming

Trimming removes what stands at the ends of a text and nothing else: a text without characters of
the class comes back from between any that are put around it (`trimBy_append`). The texts that stay
as they are, are those without such characters at their ends (`trimBy_eq_self_iff`).
-/

namespace DeviceSecurity.Text

variable {p : Char → Bool}

/-- Characters of the class at the end do not matter. -/
theorem dropEndWhile_append {l b : List Char} (hb : ∀ c ∈ b, p c = true) :
    dropEndWhile p (l ++ b) = dropEndWhile p l := by
  rw [dropEndWhile, dropEndWhile, List.reverse_append,
    List.dropWhile_append_of_pos fun c hc => hb c (List.mem_reverse.mp hc)]

/-- Only where the end is removed altogether is something removed of what stands before it. -/
theorem dropEndWhile_append_of_ne_nil {a b : List Char} (hb : dropEndWhile p b ≠ []) :
    dropEndWhile p (a ++ b) = a ++ dropEndWhile p b := by
  have hreverse : b.reverse.dropWhile p ≠ [] := fun h => hb (by rw [dropEndWhile, h]; rfl)
  have hempty : ¬ (b.reverse.dropWhile p).isEmpty = true :=
    fun h => hreverse (List.isEmpty_iff.mp h)
  rw [dropEndWhile, dropEndWhile, List.reverse_append, List.dropWhile_append, if_neg hempty,
    List.reverse_append, List.reverse_reverse]

/-- A character that is not of the class stays in front. -/
theorem dropEndWhile_cons {c : Char} (hc : p c = false) (l : List Char) :
    dropEndWhile p (c :: l) = c :: dropEndWhile p l := by
  by_cases h : dropEndWhile p l = []
  · have hempty : l.reverse.dropWhile p = [] := List.reverse_eq_nil_iff.mp h
    rw [h, dropEndWhile, List.reverse_cons, List.dropWhile_append, if_pos (by simp [hempty]),
      List.dropWhile_cons, hc]
    rfl
  · exact dropEndWhile_append_of_ne_nil (a := [c]) h

/-- A change that keeps the class may be made before the end is removed or after it. -/
theorem map_dropEndWhile {f : Char → Char} (hf : ∀ c, p (f c) = p c) (l : List Char) :
    (dropEndWhile p l).map f = dropEndWhile p (l.map f) := by
  have hclass : p ∘ f = p := funext hf
  rw [dropEndWhile, dropEndWhile, ← List.map_reverse, List.dropWhile_map, hclass, List.map_reverse]

/-- What is removed at the end is of the class. -/
theorem exists_dropEndWhile_append (p : Char → Bool) (l : List Char) :
    ∃ dropped, l = dropEndWhile p l ++ dropped ∧ ∀ c ∈ dropped, p c = true := by
  refine ⟨(l.reverse.takeWhile p).reverse, ?_, fun c hc => ?_⟩
  · rw [dropEndWhile, ← List.reverse_append, List.takeWhile_append_dropWhile, List.reverse_reverse]
  · exact List.all_eq_true.mp List.all_takeWhile c (List.mem_reverse.mp hc)

theorem dropEndWhile_prefix (p : Char → Bool) (l : List Char) : dropEndWhile p l <+: l := by
  obtain ⟨dropped, h, -⟩ := exists_dropEndWhile_append p l
  exact ⟨dropped, h.symm⟩

/-- No character of the class stands at an end. -/
def IsTrimmed (p : Char → Bool) (l : List Char) : Prop :=
  (∀ c ∈ l.head?, p c = false) ∧ ∀ c ∈ l.getLast?, p c = false

theorem isTrimmed_nil : IsTrimmed p [] :=
  ⟨fun _ h => absurd h (Option.not_mem_none _), fun _ h => absurd h (Option.not_mem_none _)⟩

theorem isTrimmed_singleton {c : Char} (h : p c = false) : IsTrimmed p [c] :=
  ⟨fun _ hc => Option.some.inj hc ▸ h, fun _ hc => Option.some.inj hc ▸ h⟩

theorem dropWhile_of_head? {l : List Char} (h : ∀ c ∈ l.head?, p c = false) :
    l.dropWhile p = l := by
  cases l with
  | nil => rfl
  | cons c l => rw [List.dropWhile_cons, h c rfl]; rfl

theorem head?_dropWhile {l : List Char} {c : Char} (hc : c ∈ (l.dropWhile p).head?) :
    p c = false := by
  have h := List.head?_dropWhile_not p l
  rwa [Option.mem_def.mp hc] at h

/-- Where the last character is not of the class, nothing is removed at the end. -/
theorem dropEndWhile_eq_self_iff {l : List Char} :
    dropEndWhile p l = l ↔ ∀ c ∈ l.getLast?, p c = false := by
  constructor
  · intro h c hc
    rw [← h, dropEndWhile, List.getLast?_reverse] at hc
    exact head?_dropWhile hc
  · intro h
    rw [← List.head?_reverse] at h
    rw [dropEndWhile, dropWhile_of_head? h, List.reverse_reverse]

theorem dropEndWhile_dropEndWhile (p : Char → Bool) (l : List Char) :
    dropEndWhile p (dropEndWhile p l) = dropEndWhile p l := by
  refine dropEndWhile_eq_self_iff.mpr fun c hc => ?_
  rw [dropEndWhile, List.getLast?_reverse] at hc
  exact head?_dropWhile hc

/-- What stands around a trimmed text is removed, and the text stays. -/
theorem trimBy_append_of_isTrimmed {a l b : List Char} (ha : ∀ c ∈ a, p c = true)
    (hb : ∀ c ∈ b, p c = true) (hl : IsTrimmed p l) : trimBy p (a ++ l ++ b) = l := by
  rw [trimBy, List.append_assoc, List.dropWhile_append_of_pos ha]
  cases l with
  | nil =>
    rw [List.nil_append, ← List.append_nil (b.dropWhile p), ← List.append_nil b,
      List.dropWhile_append_of_pos hb]
    rfl
  | cons c l =>
    rw [dropWhile_of_head? (by simpa using hl.1 c rfl), dropEndWhile_append hb,
      dropEndWhile_eq_self_iff.mpr hl.2]

/-- What stands around a text without characters of the class is removed, and the text stays. -/
theorem trimBy_append {a l b : List Char} (ha : ∀ c ∈ a, p c = true) (hb : ∀ c ∈ b, p c = true)
    (hl : ∀ c ∈ l, p c = false) : trimBy p (a ++ l ++ b) = l :=
  trimBy_append_of_isTrimmed ha hb
    ⟨fun c hc => hl c (List.mem_of_mem_head? hc), fun c hc => hl c (List.mem_of_getLast? hc)⟩

/-- Blanks around a text without blanks are removed. -/
theorem trim_append {a s b : String} (ha : ∀ c ∈ a.toList, isBlank c = true)
    (hb : ∀ c ∈ b.toList, isBlank c = true) (hs : ∀ c ∈ s.toList, isBlank c = false) :
    trim (a ++ s ++ b) = s := by
  rw [trim, String.toList_append, String.toList_append, trimBy_append ha hb hs,
    String.ofList_toList]

/-- A text without blanks is its own trimmed form. -/
theorem trim_eq_self {s : String} (hs : ∀ c ∈ s.toList, isBlank c = false) : trim s = s := by
  have h := trim_append (a := "") (b := "") (s := s) (by simp) (by simp) hs
  simpa using h

/-! ## Trimmed texts -/

/-- What trimming removes stands at the ends and is of the class. -/
theorem exists_trimBy_append (p : Char → Bool) (l : List Char) :
    ∃ before behind, l = before ++ trimBy p l ++ behind ∧ (∀ c ∈ before, p c = true) ∧
      ∀ c ∈ behind, p c = true := by
  obtain ⟨behind, hbehind, hclass⟩ := exists_dropEndWhile_append p (l.dropWhile p)
  refine ⟨l.takeWhile p, behind, ?_, List.all_eq_true.mp List.all_takeWhile, hclass⟩
  rw [trimBy, List.append_assoc, ← hbehind, List.takeWhile_append_dropWhile]

theorem mem_of_mem_trimBy {l : List Char} {c : Char} (hc : c ∈ trimBy p l) : c ∈ l := by
  obtain ⟨before, behind, hl, -, -⟩ := exists_trimBy_append p l
  rw [hl]
  exact List.mem_append_left behind (List.mem_append_right before hc)

theorem isTrimmed_trimBy (p : Char → Bool) (l : List Char) : IsTrimmed p (trimBy p l) := by
  constructor
  · intro c hc
    obtain ⟨behind, hbehind, -⟩ := exists_dropEndWhile_append p (l.dropWhile p)
    have hfirst : (dropEndWhile p (l.dropWhile p)).head? = some c := hc
    have hhead : c ∈ (l.dropWhile p).head? := by
      rw [hbehind, List.head?_append, hfirst]
      rfl
    exact head?_dropWhile hhead
  · intro c hc
    rw [trimBy, dropEndWhile, List.getLast?_reverse] at hc
    exact head?_dropWhile hc

/-- Trimming leaves the trimmed texts alone, and no others. -/
theorem trimBy_eq_self_iff {l : List Char} : trimBy p l = l ↔ IsTrimmed p l := by
  constructor
  · intro h
    rw [← h]
    exact isTrimmed_trimBy p l
  · rintro ⟨hhead, hlast⟩
    rw [trimBy, dropWhile_of_head? hhead, dropEndWhile_eq_self_iff.mpr hlast]

end DeviceSecurity.Text
