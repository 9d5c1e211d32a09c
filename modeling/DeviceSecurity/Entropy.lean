import DeviceSecurity.Bytes

/-!
# Entropy

All randomness comes from one finite stream of bytes, which is an argument of every operation that
draws from it. A request takes the next bytes of the stream; one that the stream cannot fill takes
nothing and fails.
-/

namespace DeviceSecurity

/-- The bytes that a randomness source has not yet given out. -/
abbrev Entropy := Bytes

/-- The next `n` bytes and what is left, or nothing when fewer than `n` are there. -/
def Entropy.draw (n : Nat) (e : Entropy) : Option (Bytes × Entropy) :=
  if n ≤ e.length then some (e.take n, e.drop n) else none

theorem Entropy.draw_eq_some_iff {n : Nat} {e b rest : Bytes} :
    Entropy.draw n e = some (b, rest) ↔ b.length = n ∧ e = b ++ rest := by
  unfold Entropy.draw
  constructor
  · intro h
    split at h
    · simp only [Option.some.injEq, Prod.mk.injEq] at h
      obtain ⟨rfl, rfl⟩ := h
      simp [*]
    · simp at h
  · rintro ⟨rfl, rfl⟩
    simp

theorem Entropy.draw_eq_none_iff {n : Nat} {e : Bytes} :
    Entropy.draw n e = none ↔ e.length < n := by
  unfold Entropy.draw
  split <;> simp <;> omega

end DeviceSecurity
