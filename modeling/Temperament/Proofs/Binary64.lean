import Mathlib.Tactic.Ring
import Temperament.Binary64

/-!
# Rounding quotients

The nearest binary64 number to a quotient depends on the quotient alone (`nearest_congr`) and is off
by at most one part in `2 ^ 53` (`exists_nearest`).  Quotients of small numbers are further apart
than that, so their order survives the rounding (`lt_nearest_iff`); they are also that far from the
middle of two integers, unless they lie there, so a multiple that is rounded on the way comes to a
nearest integer all the same (`magnitude_scale_nearest`).
-/

namespace Temperament

/-! ## Rounding to an integer -/

theorem roundHalfEven_bounds (num : Nat) {den : Nat} (hden : 0 < den) :
    2 * (roundHalfEven num den * den) ≤ 2 * num + den ∧
      2 * num ≤ 2 * (roundHalfEven num den * den) + den := by
  have hnum : num / den * den + num % den = num := Nat.div_add_mod' num den
  have hmod : num % den < den := Nat.mod_lt num hden
  have hnext : (num / den + 1) * den = num / den * den + den := Nat.succ_mul _ _
  unfold roundHalfEven
  dsimp only
  split
  · omega
  split
  · omega
  split <;> omega

theorem roundHalfEven_congr {num den num' den' : Nat} (hden : 0 < den) (hden' : 0 < den')
    (h : num * den' = num' * den) : roundHalfEven num den = roundHalfEven num' den' := by
  -- Both fractions are the same fraction of the common denominator.
  have hscale (n d k : Nat) (hk : 0 < k) : roundHalfEven (n * k) (d * k) = roundHalfEven n d := by
    have hlt (a b : Nat) : a * k < b * k ↔ a < b := Nat.mul_lt_mul_right hk
    unfold roundHalfEven
    simp only [Nat.mul_div_mul_right n d hk, Nat.mul_mod_mul_right, ← Nat.mul_assoc, hlt]
  rw [← hscale num den den' hden', h, Nat.mul_comm den, hscale num' den' den hden]

namespace Binary64

theorem twoPow_eq (n : Nat) : twoPow n = 2 ^ n := rfl

theorem twoPow_pos (n : Nat) : 0 < twoPow n := Nat.two_pow_pos n

theorem twoPow_add (m n : Nat) : twoPow (m + n) = twoPow m * twoPow n := Nat.pow_add 2 m n

theorem twoPow_succ (n : Nat) : twoPow (n + 1) = 2 * twoPow n := by
  rw [Nat.add_comm, twoPow_add]
  rfl

theorem twoPow_le {m n : Nat} (h : m ≤ n) : twoPow m ≤ twoPow n :=
  Nat.pow_le_pow_right (by decide) h

theorem one_pos : 0 < one := twoPow_pos 1074

/-! ## Nearest numbers -/

theorem nearest_congr {num den num' den' : Nat} (hden : 0 < den) (hden' : 0 < den')
    (h : num * den' = num' * den) : nearest num den = nearest num' den' := by
  have hunits : num * one * den' = num' * one * den := by
    rw [Nat.mul_right_comm, h, Nat.mul_right_comm]
  have hdiv : num * one / den = num' * one / den' := by
    rw [← Nat.mul_div_mul_right _ _ hden', hunits, Nat.mul_comm den, Nat.mul_div_mul_right _ _ hden]
  have hround (step : Nat) : roundHalfEven (num * one) (den * twoPow step) =
      roundHalfEven (num' * one) (den' * twoPow step) := by
    refine roundHalfEven_congr (Nat.mul_pos hden (twoPow_pos _)) (Nat.mul_pos hden' (twoPow_pos _)) ?_
    rw [← Nat.mul_assoc, hunits, Nat.mul_assoc]
  unfold nearest
  simp only [hdiv, hround]

theorem nearest_zero {den : Nat} (hden : 0 < den) : nearest 0 den = finite false 0 := by
  have hsame : nearest 0 den = nearest 0 1 := nearest_congr hden Nat.one_pos (by simp)
  rw [hsame]
  decide +kernel

/-- A magnitude that is off a quotient by at most one part in `2 ^ 53`. -/
structure IsNear (units num den : Nat) : Prop where
  low : (2 ^ 53 - 1) * (num * one) ≤ 2 ^ 53 * (units * den)
  high : 2 ^ 53 * (units * den) ≤ (2 ^ 53 + 1) * (num * one)

theorem isNear_round {num den : Nat} (hden : 0 < den) (hlow : twoPow 52 * den ≤ num * one) :
    IsNear (roundHalfEven (num * one) (den * twoPow (lastBit (num * one / den))) *
      twoPow (lastBit (num * one / den))) num den := by
  obtain ⟨step, hstep⟩ : ∃ step, step = lastBit (num * one / den) := ⟨_, rfl⟩
  rw [← hstep]
  -- The last bit counts for at most one part in `2 ^ 52`.
  have hbit : twoPow 52 * (den * twoPow step) ≤ num * one := by
    have hquotient : twoPow 52 ≤ num * one / den := (Nat.le_div_iff_mul_le hden).2 hlow
    have hne : num * one / den ≠ 0 := Nat.ne_of_gt (Nat.lt_of_lt_of_le (twoPow_pos 52) hquotient)
    have hlog : 52 ≤ (num * one / den).log2 := (Nat.le_log2 hne).2 hquotient
    have hexponent : 52 + step = (num * one / den).log2 := by
      rw [hstep, lastBit]
      omega
    calc
      twoPow 52 * (den * twoPow step) = twoPow (52 + step) * den := by
        rw [twoPow_add, Nat.mul_comm den, Nat.mul_assoc]
      _ ≤ num * one / den * den := by
        rw [hexponent]
        exact Nat.mul_le_mul_right den (Nat.log2_self_le hne)
      _ ≤ num * one := Nat.div_mul_le_self _ _
  have hround := roundHalfEven_bounds (num * one) (Nat.mul_pos hden (twoPow_pos step))
  have hassoc (n : Nat) : n * (den * twoPow step) = n * twoPow step * den := by ring
  rw [hassoc] at hround
  rw [twoPow_eq 52] at hbit
  constructor <;> omega

/-- The nearest number to a quotient that is neither tiny nor huge is finite, and near to it. -/
theorem exists_nearest {num den : Nat} (hden : 0 < den) (hlow : twoPow 52 * den ≤ num * one)
    (hhigh : num < twoPow 1023 * den) :
    ∃ units, nearest num den = finite false units ∧ IsNear units num den := by
  have hnear := isNear_round hden hlow
  refine ⟨_, ?_, hnear⟩
  unfold nearest
  dsimp only
  refine if_pos ?_
  generalize roundHalfEven _ _ * _ = units at hnear ⊢
  have hlarge : num * one < twoPow 1023 * den * one := Nat.mul_lt_mul_of_pos_right hhigh one_pos
  have hdouble : twoPow 1024 * one * den = 2 * (twoPow 1023 * den * one) := by
    rw [twoPow_succ]
    ring
  have hunits : units * den < twoPow 1024 * one * den := by
    have := hnear.high
    omega
  exact Nat.lt_of_mul_lt_mul_right hunits

/-! ## Order -/

theorem lt_of_isNear {units num den units' num' den' : Nat} (h : IsNear units num den)
    (h' : IsNear units' num' den') (hlt : num * den' < num' * den)
    (hsmall : num' * den ≤ 2 ^ 52) : units < units' := by
  refine Nat.lt_of_not_le fun hle => ?_
  have hcross : (2 ^ 53 - 1) * (num' * den) * one ≤ (2 ^ 53 + 1) * (num * den') * one := by
    calc
      (2 ^ 53 - 1) * (num' * den) * one = (2 ^ 53 - 1) * (num' * one) * den := by ring
      _ ≤ 2 ^ 53 * (units' * den') * den := Nat.mul_le_mul_right den h'.low
      _ = 2 ^ 53 * (den' * den) * units' := by ring
      _ ≤ 2 ^ 53 * (den' * den) * units := Nat.mul_le_mul_left _ hle
      _ = 2 ^ 53 * (units * den) * den' := by ring
      _ ≤ (2 ^ 53 + 1) * (num * one) * den' := Nat.mul_le_mul_right den' h.high
      _ = (2 ^ 53 + 1) * (num * den') * one := by ring
  have := Nat.le_of_mul_le_mul_right hcross one_pos
  omega

/-- A quotient of positive numbers below `2 ^ 52` has a near number. -/
theorem exists_nearest_of_lt {num den : Nat} (hnum : 0 < num) (hden : 0 < den)
    (hnum' : num < 2 ^ 52) (hden' : den < 2 ^ 52) :
    ∃ units, nearest num den = finite false units ∧ IsNear units num den := by
  refine exists_nearest hden ?_ ?_
  · calc
      twoPow 52 * den ≤ twoPow 52 * twoPow 52 := Nat.mul_le_mul_left _ (Nat.le_of_lt hden')
      _ = twoPow 104 := (twoPow_add 52 52).symm
      _ ≤ one := twoPow_le (by decide)
      _ ≤ num * one := Nat.le_mul_of_pos_left one hnum
  · calc
      num < twoPow 52 := hnum'
      _ ≤ twoPow 1023 := twoPow_le (by decide)
      _ ≤ twoPow 1023 * den := Nat.le_mul_of_pos_right _ hden

/-- Quotients of small numbers compare as before when each is replaced by the nearest number. -/
theorem lt_nearest_iff {num den num' den' : Nat} (hden : 0 < den) (hnum' : 0 < num')
    (hden' : 0 < den') (hsmall : num * den' < 2 ^ 52) (hsmall' : num' * den < 2 ^ 52)
    (hlimit : den' < 2 ^ 52) :
    ((nearest num den).lt (nearest num' den') = true ↔ num * den' < num' * den) ∧
      ((nearest num' den').lt (nearest num den) = true ↔ num' * den < num * den') := by
  have hfactor {a b : Nat} (ha : 0 < a) (h : a * b < 2 ^ 52) : b < 2 ^ 52 :=
    Nat.lt_of_le_of_lt (Nat.le_mul_of_pos_left b ha) h
  have hfactor' {a b : Nat} (hb : 0 < b) (h : a * b < 2 ^ 52) : a < 2 ^ 52 :=
    Nat.lt_of_le_of_lt (Nat.le_mul_of_pos_right a hb) h
  obtain ⟨units', hnearest', hnear'⟩ :=
    exists_nearest_of_lt hnum' hden' (hfactor' hden hsmall') hlimit
  obtain ⟨units, hnearest, hnear⟩ :
      ∃ units, nearest num den = finite false units ∧ IsNear units num den := by
    rcases Nat.eq_zero_or_pos num with rfl | hnum
    · exact ⟨0, nearest_zero hden, by constructor <;> simp⟩
    · exact exists_nearest_of_lt hnum hden (hfactor' hden' hsmall) (hfactor hnum' hsmall')
  have hlt : num * den' < num' * den → units < units' := fun h =>
    lt_of_isNear hnear hnear' h (Nat.le_of_lt hsmall')
  have hgt : num' * den < num * den' → units' < units := fun h =>
    lt_of_isNear hnear' hnear h (Nat.le_of_lt hsmall)
  have heq : num * den' = num' * den → units = units' := fun h => by
    have := nearest_congr hden hden' h
    rw [hnearest, hnearest'] at this
    cases this
    rfl
  rw [hnearest, hnearest']
  simp only [lt, decide_eq_true_eq]
  omega

/-! ## Scaling -/

-- By cases on the definition: its equation for a finite number would have the rounding evaluated.
theorem scale_of_nearest {x : Binary64} {factor units scaled : Nat} {negative : Bool}
    (hx : x = finite negative units) (h : nearest (factor * units) one = finite false scaled) :
    x.scale factor = finite negative scaled := by
  fun_cases scale factor x with
  | case1 => cases hx
  | case2 => cases hx
  | case3 _ _ _ _ hnearest =>
    cases hx
    cases h.symm.trans hnearest
    rfl
  | case4 _ _ hnot =>
    cases hx
    exact absurd h (hnot false scaled)

theorem exists_scale {factor units num den : Nat} (hfactor : 0 < factor) (hnum : 0 < num)
    (hden : 0 < den) (hlimit : den < 2 ^ 52) (hsmall : factor * num < 2 ^ 50)
    (h : IsNear units num den) :
    ∃ scaled, (finite false units).scale factor = finite false scaled ∧
      IsNear scaled (factor * units) one := by
  have hone : twoPow 110 ≤ one := twoPow_le (by decide)
  rw [twoPow_eq 110] at hone
  have hhigh := h.high
  have hlow := h.low
  have hunits : 2 ^ 52 ≤ units := by
    refine Nat.le_of_not_lt fun hlt => ?_
    have hproduct : units * den < 2 ^ 52 * 2 ^ 52 := Nat.mul_lt_mul'' hlt hlimit
    have hquotient : one ≤ num * one := Nat.le_mul_of_pos_left one hnum
    omega
  have hfloor : twoPow 52 * one ≤ factor * units * one :=
    Nat.mul_le_mul_right one (Nat.le_trans hunits (Nat.le_mul_of_pos_left units hfactor))
  have hbound : factor * units < twoPow 1023 * one := by
    have hquotient : units ≤ units * den := Nat.le_mul_of_pos_right units hden
    have hdouble : units ≤ 2 * (num * one) := by omega
    have hpow : twoPow 51 ≤ twoPow 1023 := twoPow_le (by decide)
    rw [twoPow_eq 51] at hpow
    calc
      factor * units ≤ factor * (2 * (num * one)) := Nat.mul_le_mul_left factor hdouble
      _ = 2 * (factor * num) * one := by ring
      _ < twoPow 1023 * one := Nat.mul_lt_mul_of_pos_right (by omega) one_pos
  obtain ⟨scaled, hscaled, hnear⟩ := exists_nearest one_pos hfloor hbound
  exact ⟨scaled, scale_of_nearest rfl hscaled, hnear⟩

/-- A quotient that is rounded, scaled and rounded again is off by about two parts in `2 ^ 53`. -/
theorem IsNear.scaled {factor units num den scaled : Nat} (h : IsNear units num den)
    (h' : IsNear scaled (factor * units) one) :
    (2 ^ 53 - 1) ^ 2 * (factor * num * one) ≤ 2 ^ 106 * (scaled * den) ∧
      2 ^ 106 * (scaled * den) ≤ (2 ^ 53 + 1) ^ 2 * (factor * num * one) := by
  have hlow : (2 ^ 53 - 1) * (factor * units) ≤ 2 ^ 53 * scaled := by
    have hunits : (2 ^ 53 - 1) * (factor * units) * one ≤ 2 ^ 53 * scaled * one := by
      simpa only [Nat.mul_assoc] using h'.low
    exact Nat.le_of_mul_le_mul_right hunits one_pos
  have hhigh : 2 ^ 53 * scaled ≤ (2 ^ 53 + 1) * (factor * units) := by
    have hunits : 2 ^ 53 * scaled * one ≤ (2 ^ 53 + 1) * (factor * units) * one := by
      simpa only [Nat.mul_assoc] using h'.high
    exact Nat.le_of_mul_le_mul_right hunits one_pos
  constructor
  · calc
      (2 ^ 53 - 1) ^ 2 * (factor * num * one) =
          (2 ^ 53 - 1) * factor * ((2 ^ 53 - 1) * (num * one)) := by ring
      _ ≤ (2 ^ 53 - 1) * factor * (2 ^ 53 * (units * den)) := Nat.mul_le_mul_left _ h.low
      _ = 2 ^ 53 * den * ((2 ^ 53 - 1) * (factor * units)) := by ring
      _ ≤ 2 ^ 53 * den * (2 ^ 53 * scaled) := Nat.mul_le_mul_left _ hlow
      _ = 2 ^ 106 * (scaled * den) := by ring
  · calc
      2 ^ 106 * (scaled * den) = 2 ^ 53 * den * (2 ^ 53 * scaled) := by ring
      _ ≤ 2 ^ 53 * den * ((2 ^ 53 + 1) * (factor * units)) := Nat.mul_le_mul_left _ hhigh
      _ = (2 ^ 53 + 1) * factor * (2 ^ 53 * (units * den)) := by ring
      _ ≤ (2 ^ 53 + 1) * factor * ((2 ^ 53 + 1) * (num * one)) := Nat.mul_le_mul_left _ h.high
      _ = (2 ^ 53 + 1) ^ 2 * (factor * num * one) := by ring

/-- An integer nearest to a number is nearest to a quotient of small numbers as well, if the number
is off the quotient by about two parts in `2 ^ 53`: the quotient would have to be closer than that to
the middle of two integers, which it is not. -/
theorem nearest_of_scaled {x den scaled p : Nat} (hsmall : x < 2 ^ 50)
    (hlow : (2 ^ 53 - 1) ^ 2 * (x * one) ≤ 2 ^ 106 * (scaled * den))
    (hhigh : 2 ^ 106 * (scaled * den) ≤ (2 ^ 53 + 1) ^ 2 * (x * one))
    (hp : 2 * (p * one) ≤ 2 * scaled + one) (hp' : 2 * scaled ≤ 2 * (p * one) + one) :
    2 * x ≤ 2 * (p * den) + den ∧ 2 * (p * den) ≤ 2 * x + den := by
  have hfloor : 2 * (p * den * one) ≤ 2 * (scaled * den) + den * one := by
    calc
      2 * (p * den * one) = 2 * (p * one) * den := by ring
      _ ≤ (2 * scaled + one) * den := Nat.mul_le_mul_right den hp
      _ = 2 * (scaled * den) + den * one := by ring
  have hceil : 2 * (scaled * den) ≤ 2 * (p * den * one) + den * one := by
    calc
      2 * (scaled * den) = 2 * scaled * den := by ring
      _ ≤ (2 * (p * one) + one) * den := Nat.mul_le_mul_right den hp'
      _ = 2 * (p * den * one) + den * one := by ring
  have herror : x * one < 2 ^ 50 * one := Nat.mul_lt_mul_of_pos_right hsmall one_pos
  constructor
  · refine Nat.le_of_not_lt fun hlt => ?_
    have hgap : 2 * (p * den * one) + den * one + one ≤ 2 * (x * one) := by
      calc
        2 * (p * den * one) + den * one + one = (2 * (p * den) + den + 1) * one := by ring
        _ ≤ 2 * x * one := Nat.mul_le_mul_right one hlt
        _ = 2 * (x * one) := by ring
    omega
  · refine Nat.le_of_not_lt fun hlt => ?_
    have hgap : 2 * (x * one) + den * one + one ≤ 2 * (p * den * one) := by
      calc
        2 * (x * one) + den * one + one = (2 * x + den + 1) * one := by ring
        _ ≤ 2 * (p * den) * one := Nat.mul_le_mul_right one hlt
        _ = 2 * (p * den * one) := by ring
    omega

/-- A quotient of small numbers that is rounded, scaled and rounded to an integer comes to an integer
nearest to its multiple. -/
theorem magnitude_scale_nearest {factor num den : Nat} (hfactor : 0 < factor) (hden : 0 < den)
    (hlimit : den < 2 ^ 52) (hsmall : factor * num < 2 ^ 50) :
    2 * (factor * num) ≤ 2 * (((nearest num den).scale factor).magnitude * den) + den ∧
      2 * (((nearest num den).scale factor).magnitude * den) ≤ 2 * (factor * num) + den := by
  rcases Nat.eq_zero_or_pos num with rfl | hnum
  · have hzero : (nearest 0 den).scale factor = finite false 0 := by
      rw [nearest_zero hden]
      refine scale_of_nearest rfl ?_
      rw [Nat.mul_zero, nearest_zero one_pos]
    have hmagnitude : (finite false 0).magnitude = 0 := by decide +kernel
    simp [hzero, hmagnitude]
  · have hnum' : num < 2 ^ 52 := by
      have := Nat.le_mul_of_pos_left num hfactor
      omega
    obtain ⟨units, hnearest, hnear⟩ := exists_nearest_of_lt hnum hden hnum' hlimit
    obtain ⟨scaled, hscale, hnear'⟩ := exists_scale hfactor hnum hden hlimit hsmall hnear
    obtain ⟨hlow, hhigh⟩ := hnear.scaled hnear'
    obtain ⟨hp, hp'⟩ := roundHalfEven_bounds scaled one_pos
    rw [hnearest, hscale, magnitude]
    exact nearest_of_scaled hsmall hlow hhigh hp hp'

end Binary64

end Temperament
