import Mathlib.NumberTheory.LucasPrimality

/-!
# Certificates of primality

A number is prime when some residue has the order of the number less one. An entry of a certificate
names such a residue and the prime factors of that order, which are small or were shown prime by
entries before it. Powers are computed from the leading digits of the exponent on, so that every
intermediate result is a residue.
-/

namespace DeviceSecurity

/-- A number, a primitive root modulo it, and the prime factors of the number less one, as often as
they divide it. -/
structure PrattEntry where
  number : ℕ
  root : ℕ
  factors : List ℕ

namespace PrattEntry

/-- The power `b ^ e` modulo `m`, for an exponent of at most `digits` hexadecimal digits. -/
def powMod (m b : ℕ) : (digits e : ℕ) → ℕ
  | 0, _ => 1
  | digits + 1, e => powMod m b digits (e / 16) ^ 16 * b ^ (e % 16) % m

/-- The power of an entry's root modulo its number. -/
def power (e : PrattEntry) (exponent : ℕ) : ℕ :=
  powMod e.number e.root (e.number.log2 / 4 + 1) exponent

/-- Whether no divisor of `n` lies from `d` to its square root, if that is among the next `steps`
numbers. -/
def noDivisorFrom (n : ℕ) : (steps d : ℕ) → Bool
  | 0, _ => false
  | steps + 1, d => n < d * d || (n % d != 0 && noDivisorFrom n steps (d + 1))

/-- Whether a number below `2^14` has no divisor but one and itself. -/
def isSmallPrime (n : ℕ) : Bool := 2 ≤ n && noDivisorFrom n 128 2

/-- Whether an entry shows its number prime, given the numbers shown before. -/
def isValid (e : PrattEntry) (known : List ℕ) : Bool :=
  2 ≤ e.number && e.factors.prod + 1 == e.number &&
    e.factors.all (fun q => known.contains q || isSmallPrime q) &&
    e.power (e.number - 1) == 1 && e.factors.all fun q => e.power ((e.number - 1) / q) != 1

/-- Whether all entries are valid, each given those before it. -/
def allValid : List PrattEntry → (known : List ℕ) → Bool
  | [], _ => true
  | e :: rest, known => e.isValid known && allValid rest (e.number :: known)

/-! ## Powers -/

theorem powMod_eq {m b digits e : ℕ} (hm : 1 < m) (he : e < 16 ^ digits) :
    powMod m b digits e = b ^ e % m := by
  induction digits generalizing e with
  | zero =>
    obtain rfl : e = 0 := Nat.lt_one_iff.mp he
    exact (Nat.mod_eq_of_lt hm).symm
  | succ digits ih =>
    have hdiv : e / 16 < 16 ^ digits := Nat.div_lt_of_lt_mul (by rwa [← Nat.pow_succ'])
    calc powMod m b (digits + 1) e = (b ^ (e / 16) % m) ^ 16 * b ^ (e % 16) % m := by
          rw [powMod, ih hdiv]
      _ = (b ^ (e / 16)) ^ 16 * b ^ (e % 16) % m := by
          rw [Nat.mul_mod, ← Nat.pow_mod, ← Nat.mul_mod]
      _ = b ^ e % m := by
          rw [← pow_mul, ← pow_add, Nat.div_add_mod']

theorem power_eq_one_iff {e : PrattEntry} {exponent : ℕ} (hnumber : 1 < e.number)
    (hexponent : exponent < e.number) :
    e.power exponent = 1 ↔ (e.root : ZMod e.number) ^ exponent = 1 := by
  have hdigits : exponent < 16 ^ (e.number.log2 / 4 + 1) := by
    have hlog : e.number < 2 ^ (e.number.log2 + 1) := Nat.lt_log2_self
    have hpow : 2 ^ (e.number.log2 + 1) ≤ 2 ^ (4 * (e.number.log2 / 4 + 1)) :=
      Nat.pow_le_pow_right two_pos (by omega)
    have hsixteen : 2 ^ (4 * (e.number.log2 / 4 + 1)) = 16 ^ (e.number.log2 / 4 + 1) := pow_mul ..
    omega
  have hone : (1 : ZMod e.number) = (1 : ℕ) := Nat.cast_one.symm
  rw [power, powMod_eq hnumber hdigits, hone, ← Nat.cast_pow, ZMod.natCast_eq_natCast_iff',
    Nat.mod_eq_of_lt hnumber]

/-! ## Soundness -/

theorem lt_minFac_sq_of_noDivisorFrom {n steps d : ℕ} (h : noDivisorFrom n steps d = true)
    (hd : d ≤ n.minFac) : n < n.minFac * n.minFac := by
  induction steps generalizing d with
  | zero => cases h
  | succ steps ih =>
    simp only [noDivisorFrom, Bool.or_eq_true, Bool.and_eq_true, decide_eq_true_eq,
      bne_iff_ne] at h
    rcases h with h | ⟨hdivides, h⟩
    · exact h.trans_le (Nat.mul_le_mul hd hd)
    · have hne : d ≠ n.minFac := by
        rintro rfl
        exact hdivides (Nat.mod_eq_zero_of_dvd n.minFac_dvd)
      exact ih h (lt_of_le_of_ne hd hne)

theorem prime_of_isSmallPrime {n : ℕ} (h : isSmallPrime n = true) : n.Prime := by
  obtain ⟨htwo, hdivisors⟩ := Bool.and_eq_true_iff.mp h
  have htwo : 2 ≤ n := of_decide_eq_true htwo
  have hmin : 2 ≤ n.minFac := (Nat.minFac_prime (by omega)).two_le
  have hlt := lt_minFac_sq_of_noDivisorFrom hdivisors hmin
  by_contra hprime
  have hle := Nat.minFac_sq_le_self (by omega) hprime
  rw [sq] at hle
  omega

/-- A valid entry shows its number prime, if the numbers before it are. -/
theorem prime_of_isValid {e : PrattEntry} {known : List ℕ} (hknown : ∀ q ∈ known, q.Prime)
    (h : e.isValid known = true) : e.number.Prime := by
  simp only [isValid, Bool.and_eq_true, decide_eq_true_eq, List.all_eq_true, Bool.or_eq_true,
    List.contains_iff_mem, beq_iff_eq, bne_iff_ne] at h
  obtain ⟨⟨⟨⟨htwo, hproduct⟩, hfactors⟩, hfull⟩, hproper⟩ := h
  have hone : e.number - 1 = e.factors.prod := by omega
  refine lucas_primality e.number e.root ?_ fun q hq hdvd => ?_
  · exact (power_eq_one_iff htwo (by omega)).mp hfull
  · rw [hone] at hdvd
    obtain ⟨r, hmem, hqr⟩ := (Prime.dvd_prod_iff hq.prime).mp hdvd
    have hr : r.Prime := (hfactors r hmem).elim (hknown r) prime_of_isSmallPrime
    obtain rfl := (Nat.prime_dvd_prime_iff_eq hq hr).mp hqr
    have hlt : (e.number - 1) / q < e.number := (Nat.div_le_self _ q).trans_lt (by omega)
    exact fun hpow => hproper q hmem ((power_eq_one_iff htwo hlt).mpr hpow)

/-- Valid entries show their numbers prime. -/
theorem prime_of_allValid {entries : List PrattEntry} {known : List ℕ}
    (hknown : ∀ q ∈ known, q.Prime) (h : allValid entries known = true) :
    ∀ e ∈ entries, e.number.Prime := by
  induction entries generalizing known with
  | nil => exact nofun
  | cons first rest ih =>
    obtain ⟨hfirst, hrest⟩ := Bool.and_eq_true_iff.mp h
    have hprime : first.number.Prime := prime_of_isValid hknown hfirst
    rintro e (_ | ⟨_, hmem⟩)
    · exact hprime
    · refine ih (fun q hq => ?_) hrest e hmem
      rcases List.mem_cons.mp hq with rfl | hq
      · exact hprime
      · exact hknown q hq

end PrattEntry

end DeviceSecurity
