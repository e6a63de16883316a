import Mathlib.Algebra.Group.Nat.Defs
import PhraseFilter.Binary64.Basic

/-!
# The floating point number nearest to a whole number

* `Magnitude.leastNormal_le_unscale` : at the exponent of a whole number, the number has 53 binary digits;
* `Magnitude.exists_nearest?_one` : a positive 64-bit number has a nearest size, which has no fewer digits;
* `Binary64.ofInt?` : the floating point number nearest to a whole number;
* `Binary64.isZero_ofInt?` : **rounding a 64-bit number makes no zero of a number that is none**.
-/

namespace PhraseFilter

namespace Magnitude

variable {n : Nat}

theorem div_le_roundHalfEven (num den : Nat) : num / den ≤ roundHalfEven num den := by
  unfold roundHalfEven
  dsimp only
  split
  · exact Nat.le_refl _
  · split <;> exact Nat.le_add_right _ _

/-- Scaled to the exponent that its binary digits give, a whole number has 53 of them. -/
theorem leastNormal_le_unscale (hn : n ≠ 0) :
    leastNormal ≤ (unscale n 1 ((n.log2 : Int) - 52)).1 / (unscale n 1 ((n.log2 : Int) - 52)).2 := by
  have hpow : 2 ^ n.log2 ≤ n := Nat.log2_self_le hn
  have hleast : leastNormal = 2 ^ 52 := rfl
  rcases Nat.le_total 52 n.log2 with h | h
  · -- A long number is divided by the power of two that is left over.
    obtain ⟨k, hk⟩ := Nat.exists_eq_add_of_le h
    have he : (n.log2 : Int) - 52 = Int.ofNat k := by
      rw [hk, Int.ofNat_eq_natCast]
      omega
    rw [he, unscale, Nat.one_mul, hleast]
    refine (Nat.le_div_iff_mul_le (Nat.two_pow_pos k)).mpr ?_
    rwa [hk, Nat.pow_add] at hpow
  · rcases Nat.eq_or_lt_of_le h with h | h
    · rw [h] at hpow ⊢
      simpa [unscale, hleast] using hpow
    · -- A short number is multiplied by the power of two that is missing.
      obtain ⟨k, hk⟩ := Nat.exists_eq_add_of_lt h
      have he : (n.log2 : Int) - 52 = Int.negSucc k := by omega
      rw [he, unscale, Nat.div_one, hleast, hk, Nat.add_assoc, Nat.pow_add]
      exact Nat.mul_le_mul_right _ hpow

theorem exponentFor_one (hn : n ≠ 0) : exponentFor n 1 = (n.log2 : Int) - 52 := by
  have hlog : Nat.log2 1 = 0 := by decide
  have hmin : minExponent = -1074 := rfl
  unfold exponentFor
  simp only [hlog, Int.natCast_zero, Int.sub_zero]
  rw [if_neg (Nat.not_lt.mpr (leastNormal_le_unscale hn)), hmin]
  omega

theorem exists_nearest?_one (hn : n ≠ 0) (hlt : n < 2 ^ 64) :
    ∃ x, nearest? n 1 = some x ∧ leastNormal ≤ x.mantissa := by
  have hlog : n.log2 < 64 := (Nat.log2_lt hn).mpr hlt
  have hmax : maxExponent = 971 := rfl
  have hround := Nat.le_trans (leastNormal_le_unscale hn) (div_le_roundHalfEven _ _)
  unfold nearest?
  rw [if_neg hn, exponentFor_one hn]
  dsimp only
  split
  · rw [if_neg (by omega)]
    exact ⟨_, rfl, Nat.le_refl _⟩
  · rw [if_neg (by omega)]
    exact ⟨_, rfl, hround⟩

end Magnitude

namespace Binary64

/-- The floating point number nearest to a whole number; `none` if it is too large. -/
def ofInt? (n : Int) : Option Binary64 := (Magnitude.nearest? n.natAbs 1).map fun m => ⟨decide (n < 0), m⟩

/-- **Rounding makes no zero.** A whole number of up to 64 binary digits has a nearest floating point number, which is
zero only if the whole number is. -/
theorem isZero_ofInt? {n : Int} (hlt : n.natAbs < 2 ^ 64) : ∃ x, ofInt? n = some x ∧ x.isZero = (n == 0) := by
  by_cases hn : n = 0
  · subst hn
    exact ⟨⟨false, .zero⟩, by decide, by decide⟩
  · obtain ⟨x, hx, hmantissa⟩ := Magnitude.exists_nearest?_one (Int.natAbs_ne_zero.mpr hn) hlt
    refine ⟨_, by rw [ofInt?, hx]; rfl, ?_⟩
    have hpos : x.mantissa ≠ 0 := Nat.ne_of_gt (Nat.lt_of_lt_of_le (by decide) hmantissa)
    rw [isZero, beq_eq_false_iff_ne.mpr hpos, beq_eq_false_iff_ne.mpr hn]

end Binary64

end PhraseFilter
