import Mathlib.Algebra.Order.Field.Rat
import Mathlib.Tactic.Linarith
import Mathlib.Tactic.LinearCombination
import Mathlib.Tactic.NormNum
import Mathlib.Tactic.Positivity
import Mathlib.Tactic.Ring
import StoryServer.Number.Binary64

/-!
# What rounds to a double

Around every finite double there is an interval of numbers that round to it: half a unit in
the last place on each side, a quarter below a power of two, and the ends only when the
significand is even.  `Rounds e f x` says that `x` is in the interval of the double with these
fields.  Then `nearest` gives the double (`nearest_of_rounds`), and so does the reading of a
decimal whose value is `x` (`ofDecimal_of_rounds`).

The ends of an interval are whole numbers of quarters of a unit, so no fractions are needed
until a decimal comes in.
-/

namespace StoryServer

namespace Binary64

variable {e : Fin 2047} {f : Fin 4503599627370496} {num den m : Nat}

/-! ## Rounding a quotient -/

/-- A quotient within one half of a whole number, and nearer than that to an odd one. -/
theorem roundDiv_eq (hlow : 2 * (den * m) ≤ 2 * num + den) (hhigh : 2 * num ≤ 2 * (den * m) + den)
    (hodd : m % 2 = 1 → 2 * (den * m) < 2 * num + den ∧ 2 * num < 2 * (den * m) + den)
    (hden : 0 < den) : roundDiv num den = m := by
  have hdiv := Nat.div_add_mod num den
  have hmod := Nat.mod_lt num hden
  rw [roundDiv]
  generalize num / den = q at *
  generalize num % den = r at *
  subst hdiv
  -- the whole part of the quotient is the number or one less
  obtain rfl | rfl : m = q ∨ m = q + 1 := by
    have hle : q ≤ m := by
      by_contra hlt
      have hstep : den * (m + 1) ≤ den * q := Nat.mul_le_mul_left den (by omega)
      rw [Nat.mul_add] at hstep
      omega
    have hge : m ≤ q + 1 := by
      by_contra hlt
      have hstep : den * (q + 2) ≤ den * m := Nat.mul_le_mul_left den (by omega)
      rw [Nat.mul_add] at hstep
      omega
    omega
  · generalize den * m = x at *
    split
    · rfl
    · split <;> omega
  · rw [Nat.mul_add] at hlow hhigh hodd
    generalize den * q = x at *
    split
    · omega
    · split <;> omega

/-! ## Significands -/

theorem significand_lt (e : Fin 2047) (f : Fin 4503599627370496) :
    significand e f < 2 ^ 53 := by
  have hf := f.isLt
  rw [significand]
  split
  · omega
  · rw [Nat.pow_eq]
    omega

/-- Only the smallest doubles have a short significand. -/
theorem significand_ge (h : e.val ≠ 0) : 2 ^ 52 ≤ significand e f := by
  rw [significand, if_neg h]
  exact Nat.le_add_right _ _

theorem ofSignificand_significand (negative : Bool) (e : Fin 2047) (f : Fin 4503599627370496) :
    ofSignificand negative (significand e f) (shift e) = .finite negative e f := by
  have hf := f.isLt
  have he := e.isLt
  rw [ofSignificand, significand, shift, Nat.pow_eq]
  by_cases hz : e.val = 0
  · rw [if_pos hz, if_pos (by omega)]
    have hfraction : Fin.ofNat 4503599627370496 f.val = f := by
      apply Fin.ext
      rw [Fin.val_ofNat]
      omega
    rw [hfraction, show e = 0 from Fin.ext hz]
  · rw [if_neg hz, if_neg (by omega), if_pos (by omega)]
    have hexponent : Fin.ofNat 2047 (e.val - 1 + 1) = e := by
      apply Fin.ext
      rw [Fin.val_ofNat]
      omega
    have hfraction : Fin.ofNat 4503599627370496 (2 ^ 52 + f.val - 2 ^ 52) = f := by
      apply Fin.ext
      rw [Fin.val_ofNat]
      omega
    rw [hexponent, hfraction]

/-! ## Rounding into an interval -/

/-- How far the interval of a double reaches below, in quarters of a unit in the last place. -/
def reach (e : Fin 2047) (f : Fin 4503599627370496) : Nat := if f.val == 0 && e.val > 1 then 1 else 2

theorem reach_le (e : Fin 2047) (f : Fin 4503599627370496) : reach e f ≤ 2 := by
  rw [reach]
  split <;> omega

/-- The shift of a quotient whose whole part has 53 bits or, with no shift, fewer. -/
theorem log2_div {k : Nat} (hden : 0 < den) (hlow : den * 2 ^ k ≤ num)
    (hhigh : num < den * 2 ^ (k + 1)) : Nat.log2 (num / den) = k := by
  have hge : 2 ^ k ≤ num / den := by
    rw [Nat.le_div_iff_mul_le hden, Nat.mul_comm]
    exact hlow
  have hlt : num / den < 2 ^ (k + 1) := by
    rw [Nat.div_lt_iff_lt_mul hden, Nat.mul_comm]
    exact hhigh
  have hne : num / den ≠ 0 := fun h => by
    rw [h] at hge
    exact absurd hge (Nat.not_le.mpr (Nat.two_pow_pos k))
  exact (Nat.log2_eq_iff hne).mpr ⟨hge, hlt⟩

section Nearest

variable {D : Nat} (negative : Bool)

theorem nearest_def {p : Nat} (hp : Nat.log2 (num / den) - 52 = p) :
    nearest negative num den =
      if roundDiv num (den * 2 ^ p) = 2 ^ 53 then ofSignificand negative (2 ^ 52) (p + 1)
      else ofSignificand negative (roundDiv num (den * 2 ^ p)) p := hp ▸ rfl

theorem nearest_of_shift (hD : D = den * 2 ^ shift e) (hpos : 0 < D)
    (hshift : Nat.log2 (num / den) - 52 = shift e)
    (hlow : 2 * (D * significand e f) ≤ 2 * num + D) (hhigh : 2 * num ≤ 2 * (D * significand e f) + D)
    (hodd : significand e f % 2 = 1 →
      2 * (D * significand e f) < 2 * num + D ∧ 2 * num < 2 * (D * significand e f) + D) :
    nearest negative num den = .finite negative e f := by
  rw [nearest_def negative hshift, ← hD, roundDiv_eq hlow hhigh hodd hpos, if_neg (significand_lt e f).ne,
    ofSignificand_significand]

/-- A quotient in the interval, in units of `2^-1074`. -/
theorem nearest_eq (hD : D = den * 2 ^ shift e) (hden : 0 < den)
    (hlow : 4 * (D * significand e f) ≤ 4 * num + reach e f * D)
    (hhigh : 4 * num ≤ 4 * (D * significand e f) + 2 * D)
    (hodd : significand e f % 2 = 1 → 4 * (D * significand e f) < 4 * num + reach e f * D ∧
      4 * num < 4 * (D * significand e f) + 2 * D) :
    nearest negative num den = .finite negative e f := by
  have hpos : 0 < D := hD ▸ Nat.mul_pos hden (Nat.two_pow_pos _)
  have hm := significand_lt e f
  have hreach : reach e f * D ≤ 2 * D := Nat.mul_le_mul_right D (reach_le e f)
  have htop : D * (significand e f + 1) ≤ D * 2 ^ 53 := Nat.mul_le_mul_left D hm
  rw [Nat.mul_add, Nat.mul_one] at htop
  have hcut : ∀ k : Nat, den * 2 ^ (shift e + k) = D * 2 ^ k := by
    intro k
    rw [hD, Nat.pow_add, Nat.mul_assoc]
  have hlt : num < den * 2 ^ (shift e + 53) := by
    rw [hcut]
    omega
  have hstay : Nat.log2 (num / den) - 52 = shift e → nearest negative num den = .finite negative e f := by
    intro hshift
    refine nearest_of_shift negative hD hpos hshift (by omega) (by omega) fun h => ?_
    have := hodd h
    omega
  by_cases he : e.val ≤ 1
  · -- without a shift the whole part may be short
    have hs : shift e = 0 := by rw [shift]; omega
    refine hstay ?_
    have hdiv : num / den < 2 ^ 53 := by
      rw [Nat.div_lt_iff_lt_mul hden, Nat.mul_comm]
      rwa [hs, Nat.zero_add] at hlt
    have hlog : Nat.log2 (num / den) < 53 := by
      by_cases hz : num / den = 0
      · rw [hz]; decide
      · exact (Nat.log2_lt hz).mpr hdiv
    omega
  · have hs : shift e = e.val - 1 := rfl
    have hbottom : 2 ^ 52 ≤ significand e f := significand_ge (by omega)
    by_cases hbinade : den * 2 ^ (shift e + 52) ≤ num
    · refine hstay ?_
      rw [log2_div hden hbinade hlt]
      omega
    · -- only below a power of two does the interval reach into the binade below
      rw [hcut] at hbinade
      have hsig : significand e f = 2 ^ 52 := by
        by_contra hne
        have hstep : D * (2 ^ 52 + 1) ≤ D * significand e f := Nat.mul_le_mul_left D (by omega)
        rw [Nat.mul_add, Nat.mul_one] at hstep
        omega
      have hf : f.val = 0 := by
        rw [significand, if_neg (by omega), Nat.pow_eq] at hsig
        omega
      have hone : reach e f = 1 := by
        rw [reach, if_pos]
        simp only [hf, beq_self_eq_true, Bool.true_and, decide_eq_true_eq]
        omega
      rw [hone] at hlow
      obtain ⟨k, hk⟩ : ∃ k, shift e = k + 1 := ⟨shift e - 1, by omega⟩
      -- one shift less rounds up to the next power of two
      have hhalf : D = 2 * (den * 2 ^ k) := by
        rw [hD, hk, Nat.pow_succ]
        ring
      have hshift : Nat.log2 (num / den) - 52 = k := by
        have hlow' : den * 2 ^ (k + 52) ≤ num := by
          have hcut' : den * 2 ^ (k + 52) = den * 2 ^ k * 2 ^ 52 := by
            rw [Nat.pow_add, Nat.mul_assoc]
          rw [hcut']
          rw [hsig] at hlow
          omega
        have hhigh' : num < den * 2 ^ (k + 52 + 1) := by
          have hexp : k + 52 + 1 = shift e + 52 := by omega
          rw [hexp, hcut]
          omega
        rw [log2_div hden hlow' hhigh']
        omega
      have hround : roundDiv num (den * 2 ^ k) = 2 ^ 53 := by
        rw [hsig] at hlow
        refine roundDiv_eq ?_ ?_ (fun h => absurd h (by decide)) (by omega) <;> omega
      rw [nearest_def negative hshift, hround, if_pos rfl, ← hk, ← hsig, ofSignificand_significand]

end Nearest

/-! ## The interval of a double -/

/-- A quarter of the last place of a double. -/
def quarter (e : Fin 2047) : ℚ := 2 ^ ((shift e : ℤ) - 1076)

/-- A number that rounds to the double with these fields. -/
structure Rounds (e : Fin 2047) (f : Fin 4503599627370496) (x : ℚ) : Prop where
  low : (4 * significand e f - reach e f : ℚ) * quarter e ≤ x
  high : x ≤ (4 * significand e f + 2) * quarter e
  /-- The ends are of the neighbours when the significand is odd. -/
  inside : significand e f % 2 = 1 →
    (4 * significand e f - reach e f : ℚ) * quarter e < x ∧ x < (4 * significand e f + 2) * quarter e

theorem two_zpow_pos (k : ℤ) : (0 : ℚ) < 2 ^ k := zpow_pos two_pos k

theorem ten_zpow_pos (k : ℤ) : (0 : ℚ) < 10 ^ k := zpow_pos (by norm_num) k

theorem cast_two_pow (n : ℕ) : ((Nat.pow 2 n : ℕ) : ℚ) = 2 ^ (n : ℤ) := by
  rw [Nat.pow_eq, Nat.cast_pow, Nat.cast_ofNat, zpow_natCast]

theorem unit_cast : (unit : ℚ) = 2 ^ (1074 : ℤ) := by
  have hcast : (unit : ℚ) = 2 ^ ((1074 : ℕ) : ℤ) := by
    unfold unit
    -- the power is never computed
    generalize 1074 = n
    exact cast_two_pow n
  exact hcast

/-- Quarters in units of `2^-1074`. -/
theorem quarter_scaled (e : Fin 2047) : 4 * (quarter e * unit) = 2 ^ shift e := by
  have hfour : (4 : ℚ) = 2 ^ (2 : ℤ) := by norm_num
  rw [unit_cast, quarter, hfour, ← zpow_add₀ (by norm_num), ← zpow_add₀ (by norm_num),
    ← zpow_natCast]
  congr 1
  ring

theorem nearest_of_rounds {x : ℚ} (negative : Bool) (h : Rounds e f x) (hden : 0 < den)
    (hx : (num : ℚ) = x * unit * den) : nearest negative num den = .finite negative e f := by
  have hscale : (0 : ℚ) < 4 * unit * den := by
    have hunit : (0 : ℚ) < unit := unit_cast ▸ two_zpow_pos _
    have hden' : (0 : ℚ) < den := by exact_mod_cast hden
    exact mul_pos (mul_pos (by norm_num) hunit) hden'
  have hnum : 4 * (num : ℚ) = x * (4 * unit * den) := by rw [hx]; ring
  -- the end of an interval, in quarters and in units
  have hends : ∀ c : ℚ, c * quarter e * (4 * unit * den) = c * ((den * 2 ^ shift e : ℕ) : ℚ) := by
    intro c
    rw [Nat.cast_mul, Nat.cast_pow, Nat.cast_ofNat, ← quarter_scaled]
    ring
  have hlow := mul_le_mul_of_nonneg_right h.low hscale.le
  have hhigh := mul_le_mul_of_nonneg_right h.high hscale.le
  rw [hends, ← hnum] at hlow hhigh
  have hinside : significand e f % 2 = 1 →
      (4 * significand e f - reach e f : ℚ) * ((den * 2 ^ shift e : ℕ) : ℚ) < 4 * num ∧
      4 * (num : ℚ) < (4 * significand e f + 2) * ((den * 2 ^ shift e : ℕ) : ℚ) := by
    intro hodd
    obtain ⟨hl, hr⟩ := h.inside hodd
    have hl := mul_lt_mul_of_pos_right hl hscale
    have hr := mul_lt_mul_of_pos_right hr hscale
    rw [hends, ← hnum] at hl hr
    exact ⟨hl, hr⟩
  generalize hD : den * 2 ^ shift e = D at *
  refine nearest_eq negative hD.symm hden ?_ ?_ fun hodd => ?_
  · have : (4 * (D * significand e f) : ℚ) ≤ 4 * num + reach e f * D := by linarith
    exact_mod_cast this
  · have : (4 * num : ℚ) ≤ 4 * (D * significand e f) + 2 * D := by linarith
    exact_mod_cast this
  · obtain ⟨hl, hr⟩ := hinside hodd
    have hl : (4 * (D * significand e f) : ℚ) < 4 * num + reach e f * D := by linarith
    have hr : (4 * num : ℚ) < 4 * (D * significand e f) + 2 * D := by linarith
    exact ⟨by exact_mod_cast hl, by exact_mod_cast hr⟩

/-! ## Decimals -/

section Decimals

variable {x : ℚ}

theorem zpow_lt_of_pow {a b m n : ℕ} (h : a ^ m < b ^ n) : (a : ℚ) ^ (m : ℤ) < (b : ℚ) ^ (n : ℤ) := by
  rw [zpow_natCast, zpow_natCast]
  exact_mod_cast h

theorem Rounds.ge (h : Rounds e f x) (hpos : 0 < significand e f) : 2 ^ (-1075 : ℤ) ≤ x := by
  have hquarter : (2 : ℚ) ^ (-1076 : ℤ) ≤ quarter e := by
    refine zpow_le_zpow_right₀ (by norm_num) ?_
    omega
  have hends : (2 : ℚ) ≤ 4 * significand e f - reach e f := by
    have hreach : (reach e f : ℚ) ≤ 2 := by exact_mod_cast reach_le e f
    have hone : (1 : ℚ) ≤ significand e f := by exact_mod_cast hpos
    linarith
  calc (2 : ℚ) ^ (-1075 : ℤ) = 2 * 2 ^ (-1076 : ℤ) := by
        rw [← zpow_one_add₀ (by norm_num)]
        norm_num
    _ ≤ (4 * significand e f - reach e f) * quarter e :=
        mul_le_mul hends hquarter (two_zpow_pos _).le (by linarith)
    _ ≤ x := h.low

theorem Rounds.lt (h : Rounds e f x) : x < 2 ^ (1024 : ℤ) := by
  have hpos : (0 : ℚ) ≤ 4 * significand e f + 2 := by positivity
  have hquarter : quarter e ≤ 2 ^ (969 : ℤ) := by
    have he := e.isLt
    refine zpow_le_zpow_right₀ (by norm_num) ?_
    rw [shift]
    omega
  have hends : (4 * significand e f + 2 : ℚ) < 2 ^ (55 : ℤ) := by
    have hsig : 4 * significand e f + 2 < 2 ^ 55 := by
      have := significand_lt e f
      omega
    exact_mod_cast hsig
  calc x ≤ (4 * significand e f + 2) * quarter e := h.high
    _ ≤ (4 * significand e f + 2) * 2 ^ (969 : ℤ) := mul_le_mul_of_nonneg_left hquarter hpos
    _ < 2 ^ (55 : ℤ) * 2 ^ (969 : ℤ) := mul_lt_mul_of_pos_right hends (two_zpow_pos 969)
    _ = 2 ^ (1024 : ℤ) := by
        rw [← zpow_add₀ (by norm_num), show (55 + 969 : ℤ) = 1024 by norm_num]

/-- The number of digits says how large a number is. -/
theorem digits_size {n : Nat} (hn : n ≠ 0) :
    10 ^ ((Nat.toDigits 10 n).length - 1) ≤ n ∧ n < 10 ^ (Nat.toDigits 10 n).length := by
  have hpos : 0 < (Nat.toDigits 10 n).length := Nat.length_toDigits_pos
  refine ⟨?_, (Nat.length_toDigits_le_iff (by norm_num) hpos).mp le_rfl⟩
  by_contra hlt
  rcases Nat.eq_zero_or_pos ((Nat.toDigits 10 n).length - 1) with hz | hlen
  · rw [hz] at hlt
    omega
  · have := (Nat.length_toDigits_le_iff (b := 10) (by norm_num) hlen).mpr (Nat.lt_of_not_le hlt)
    omega

/-- A decimal in the interval of a double is read as the double. -/
theorem ofDecimal_of_rounds (negative : Bool) {digits : Nat} {exponent : Int} (h : Rounds e f x)
    (hpos : 0 < significand e f) (hx : x = digits * 10 ^ exponent) :
    ofDecimal negative digits exponent = .finite negative e f := by
  have hge := h.ge hpos
  have hlt := h.lt
  have hxpos : 0 < x := lt_of_lt_of_le (two_zpow_pos _) hge
  have hne : digits ≠ 0 := by
    rintro rfl
    simp [hx] at hxpos
  have hten : (0 : ℚ) < 10 ^ exponent := ten_zpow_pos _
  obtain ⟨hlen, hlen'⟩ := digits_size hne
  have hcount : 0 < (Nat.toDigits 10 digits).length := Nat.length_toDigits_pos
  generalize hk : (Nat.toDigits 10 digits).length = k at *
  have hbig : ¬ (k + exponent > 310) := by
    intro hsize
    have hlow : (10 : ℚ) ^ (310 : ℤ) ≤ x := by
      calc (10 : ℚ) ^ (310 : ℤ) ≤ 10 ^ (((k - 1 : ℕ) : ℤ) + exponent) :=
            zpow_le_zpow_right₀ (by norm_num) (by omega)
        _ = ((10 ^ (k - 1) : ℕ) : ℚ) * 10 ^ exponent := by
            rw [zpow_add₀ (by norm_num), zpow_natCast, Nat.cast_pow, Nat.cast_ofNat]
        _ ≤ digits * 10 ^ exponent := mul_le_mul_of_nonneg_right (by exact_mod_cast hlen) hten.le
        _ = x := hx.symm
    have hcap : (2 : ℚ) ^ (1024 : ℤ) < 10 ^ (310 : ℤ) :=
      zpow_lt_of_pow (a := 2) (b := 10) (m := 1024) (n := 310) (by decide +kernel)
    exact absurd hlt (not_lt.mpr (hcap.le.trans hlow))
  have hsmall : ¬ (k + exponent < -330) := by
    intro hsize
    have hhigh : x ≤ (10 : ℚ) ^ (-331 : ℤ) := by
      calc x = digits * 10 ^ exponent := hx
        _ ≤ ((10 ^ k : ℕ) : ℚ) * 10 ^ exponent :=
            mul_le_mul_of_nonneg_right (by exact_mod_cast hlen'.le) hten.le
        _ = 10 ^ ((k : ℤ) + exponent) := by
            rw [zpow_add₀ (by norm_num), zpow_natCast, Nat.cast_pow, Nat.cast_ofNat]
        _ ≤ 10 ^ (-331 : ℤ) := zpow_le_zpow_right₀ (by norm_num) (by omega)
    have hcap : (2 : ℚ) ^ (1075 : ℤ) < 10 ^ (331 : ℤ) :=
      zpow_lt_of_pow (a := 2) (b := 10) (m := 1075) (n := 331) (by decide +kernel)
    have hcap' := inv_strictAnti₀ (two_zpow_pos _) hcap
    rw [← zpow_neg, ← zpow_neg] at hcap'
    exact absurd (hge.trans hhigh) (not_le.mpr hcap')
  rw [ofDecimal, if_neg hne, hk]
  dsimp only
  rw [if_neg hbig, if_neg hsmall]
  have hunit : ((10 ^ exponent.natAbs : ℕ) : ℚ) = 10 ^ (exponent.natAbs : ℤ) := by
    rw [zpow_natCast, Nat.cast_pow, Nat.cast_ofNat]
  split
  · next hneg =>
    refine nearest_of_rounds negative h (Nat.pow_pos (by norm_num)) ?_
    have hcancel : (10 : ℚ) ^ exponent * 10 ^ (exponent.natAbs : ℤ) = 1 := by
      rw [← zpow_add₀ (by norm_num), show exponent + (exponent.natAbs : ℤ) = 0 by omega, zpow_zero]
    rw [Nat.pow_eq, hunit, hx, Nat.cast_mul]
    linear_combination (digits * unit : ℚ) * hcancel.symm
  · next hneg =>
    refine nearest_of_rounds negative h Nat.one_pos ?_
    rw [Nat.pow_eq, Nat.cast_mul, Nat.cast_mul, hunit, hx,
      show (exponent.natAbs : ℤ) = exponent by omega]
    ring

end Decimals

end Binary64

end StoryServer
