import DeviceSecurity.Curve.KeyPair

/-!
# Drawing key pairs

A key pair is refused for nothing but a lack of entropy: where the probe cannot be filled, and where
the entropy behind it ends before a candidate in the range of scalars (`KeyPair.generate_eq_error`).
The number of tries never runs out first. One that is drawn has the first candidate in range for its
scalar, and leaves the entropy behind that candidate (`KeyPair.of_generate_eq_ok`).
-/

namespace DeviceSecurity

/-- The range of scalars. -/
def Curve.IsScalar (c : Curve) (n : Nat) : Prop := 0 < n ∧ n < c.order

namespace KeyPair

variable {c : Curve} {e rest : Entropy} {fault : Error}

theorem fieldSize_pos (c : Curve) : 0 < c.fieldSize := by
  cases c <;> decide

/-- The entropy ends before a candidate in the range of scalars. -/
inductive NoScalar (c : Curve) : Entropy → Prop
  | short {e : Entropy} (h : e.length < c.fieldSize) : NoScalar c e
  | skip {candidate rest : Bytes} (hlength : candidate.length = c.fieldSize)
    (hrange : Bytes.toNat candidate = 0 ∨ c.order ≤ Bytes.toNat candidate)
    (h : NoScalar c rest) : NoScalar c (candidate ++ rest)

theorem noScalar_append {candidate : Bytes} (hlength : candidate.length = c.fieldSize) :
    NoScalar c (candidate ++ rest) ↔
      (Bytes.toNat candidate = 0 ∨ c.order ≤ Bytes.toNat candidate) ∧ NoScalar c rest := by
  refine ⟨fun h => ?_, fun ⟨hrange, h⟩ => .skip hlength hrange h⟩
  generalize he : candidate ++ rest = e at h
  cases h with
  | short h =>
    have hle : candidate.length ≤ e.length := by simp [← he]
    omega
  | skip hlength' hrange h =>
    obtain ⟨rfl, rfl⟩ := List.append_inj he (hlength.trans hlength'.symm)
    exact ⟨hrange, h⟩

/-- With a try for every byte, drawing fails only where there is no candidate in range. -/
theorem drawScalar_eq_error {tries : Nat} (htries : e.length ≤ tries) :
    (drawScalar c tries e).1 = .error fault ↔ fault = .rngFailed ∧ NoScalar c e := by
  induction tries generalizing e with
  | zero =>
    have hshort : NoScalar c e := .short (Nat.lt_of_le_of_lt htries (fieldSize_pos c))
    simp [drawScalar, hshort, eq_comm]
  | succ tries ih =>
    unfold drawScalar
    cases hdraw : e.draw c.fieldSize with
    | none =>
      have hshort : NoScalar c e := .short (Entropy.draw_eq_none_iff.mp hdraw)
      simp [hshort, eq_comm]
    | some drawn =>
      obtain ⟨candidate, rest⟩ := drawn
      obtain ⟨hlength, rfl⟩ := Entropy.draw_eq_some_iff.mp hdraw
      have hrest : rest.length ≤ tries := by
        have hpos := fieldSize_pos c
        rw [List.length_append] at htries
        omega
      rw [noScalar_append hlength]
      dsimp only
      split
      · next hrange => rw [ih hrest, and_iff_right hrange]
      · next hrange => simp [hrange]

/-- A key pair is refused where the probe or a candidate in range is missing. -/
theorem generate_eq_error : (generate c e).1 = .error fault ↔
    fault = .rngFailed ∧ (e.length < probeSize ∨
      ∃ probe rest, probe.length = probeSize ∧ e = probe ++ rest ∧ NoScalar c rest) := by
  unfold generate
  cases hdraw : e.draw probeSize with
  | none =>
    have hshort := Entropy.draw_eq_none_iff.mp hdraw
    simp [hshort, eq_comm]
  | some drawn =>
    obtain ⟨probe, rest⟩ := drawn
    obtain ⟨hlength, rfl⟩ := Entropy.draw_eq_some_iff.mp hdraw
    have hscalar : (drawScalar c rest.length rest).1 = .error fault ↔ _ :=
      drawScalar_eq_error (Nat.le_refl rest.length)
    have hrefused : (∃ probe' rest', probe'.length = probeSize ∧ probe ++ rest = probe' ++ rest' ∧
        NoScalar c rest') ↔ NoScalar c rest := by
      constructor
      · rintro ⟨probe', rest', hlength', heq, h⟩
        obtain ⟨-, rfl⟩ := List.append_inj heq (hlength.trans hlength'.symm)
        exact h
      · exact fun h => ⟨probe, rest, hlength, rfl, h⟩
    have hlong : ¬ (probe ++ rest).length < probeSize := by simp [hlength]
    rw [hrefused, or_iff_right hlong, ← hscalar]
    dsimp only
    rcases drawScalar c rest.length rest with ⟨fault' | n, left⟩ <;> simp

/-! ## What is drawn -/

/-- A scalar that is drawn is the first candidate in range. -/
theorem of_drawScalar_eq_ok {tries n : Nat} (h : drawScalar c tries e = (.ok n, rest)) :
    ∃ (skipped : List Bytes) (chosen : Bytes), e = skipped.flatten ++ chosen ++ rest ∧
      (∀ x ∈ skipped, x.length = c.fieldSize ∧ ¬ c.IsScalar (Bytes.toNat x)) ∧
      chosen.length = c.fieldSize ∧ c.IsScalar n ∧ Bytes.toNat chosen = n := by
  induction tries generalizing e with
  | zero => cases h
  | succ tries ih =>
    unfold drawScalar at h
    cases hdraw : e.draw c.fieldSize with
    | none => simp [hdraw] at h
    | some drawn =>
      obtain ⟨candidate, left⟩ := drawn
      obtain ⟨hlength, rfl⟩ := Entropy.draw_eq_some_iff.mp hdraw
      rw [hdraw] at h
      dsimp only at h
      split at h
      · -- The candidate is skipped, and those behind it are drawn with one try less.
        next hrange =>
        have hout : ¬ c.IsScalar (Bytes.toNat candidate) := by
          unfold Curve.IsScalar
          omega
        obtain ⟨skipped, chosen, rfl, hskipped, hchosen⟩ := ih h
        refine ⟨candidate :: skipped, chosen, by simp, fun x hx => ?_, hchosen⟩
        rcases List.mem_cons.mp hx with rfl | hx
        · exact ⟨hlength, hout⟩
        · exact hskipped x hx
      · next hrange =>
        obtain ⟨rfl, rfl⟩ : Bytes.toNat candidate = n ∧ left = rest := by simpa using h
        have hin : c.IsScalar (Bytes.toNat candidate) := by
          unfold Curve.IsScalar
          omega
        exact ⟨[], candidate, rfl, nofun, hlength, hin, rfl⟩

/-- A key pair that is drawn takes a probe, the candidates out of range, and its scalar. -/
theorem of_generate_eq_ok {pair : KeyPair} (h : generate c e = (.ok pair, rest)) :
    ∃ (probe : Bytes) (skipped : List Bytes) (chosen : Bytes),
      e = probe ++ skipped.flatten ++ chosen ++ rest ∧ probe.length = probeSize ∧
      (∀ x ∈ skipped, x.length = c.fieldSize ∧ ¬ c.IsScalar (Bytes.toNat x)) ∧
      chosen.length = c.fieldSize ∧ c.IsScalar (Bytes.toNat chosen) ∧
      pair = ⟨c, Bytes.toNat chosen⟩ := by
  unfold generate at h
  cases hdraw : e.draw probeSize with
  | none => simp [hdraw] at h
  | some drawn =>
    obtain ⟨probe, left⟩ := drawn
    obtain ⟨hprobe, rfl⟩ := Entropy.draw_eq_some_iff.mp hdraw
    rw [hdraw] at h
    dsimp only at h
    rcases hscalar : drawScalar c left.length left with ⟨fault | n, left'⟩ <;> rw [hscalar] at h
    · simp at h
    · obtain ⟨rfl, rfl⟩ : ⟨c, n⟩ = pair ∧ left' = rest := by simpa using h
      obtain ⟨skipped, chosen, rfl, hskipped, hlength, hin, rfl⟩ := of_drawScalar_eq_ok hscalar
      exact ⟨probe, skipped, chosen, by simp, hprobe, hskipped, hlength, hin, rfl⟩

/-- A probe that cannot be filled takes nothing. -/
theorem generate_of_short (h : e.length < probeSize) : generate c e = (.error .rngFailed, e) := by
  rw [generate, Entropy.draw_eq_none_iff.mpr h]

end KeyPair

end DeviceSecurity
