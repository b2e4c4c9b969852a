import Mathlib.Data.List.TakeWhile
import StoryServer.Number.Decimal
import StoryServer.Proofs.Number.Nearest

/-!
# The shortest digits round to the double

`Binary64.shortest` looks for a decimal in the interval of a double, on one grid after the
other.  What it finds is in the interval (`gridPoint?_between`), and on the grid with
seventeen digits it finds something (`gridPoint?_last`), because the interval is wider there
than the distance of two points.  For that the leading exponent must not be too large, which
is all that matters about it here (`leadingExponent_le`).
-/

namespace StoryServer

/-- The value of a decimal: its first digit stands before the point. -/
def Decimal.value (d : Decimal) : ℚ :=
  Nat.ofDigitChars 10 d.digits 0 * 10 ^ (d.exponent - (d.digits.length - 1))

namespace Binary64

variable {m n D : Nat} {q t k : Int} {narrow : Bool}

/-! ## Scaling -/

theorem scale_den (m : Nat) (q t : Int) : (scale m q t).den = (scale 1 q t).den := rfl

theorem scale_num (m : Nat) (q t : Int) : (scale m q t).num = m * (scale 1 q t).num := by
  simp only [scale]
  ring

theorem scale_den_pos (m : Nat) (q t : Int) : 0 < (scale m q t).den :=
  Nat.mul_pos (Nat.pow_pos (by norm_num)) (Nat.pow_pos (by norm_num))

theorem scale_num_pos (q t : Int) : 0 < (scale 1 q t).num :=
  Nat.mul_pos (Nat.mul_pos Nat.one_pos (Nat.pow_pos (by norm_num))) (Nat.pow_pos (by norm_num))

theorem pow_toNat {b : ℚ} (hb : b ≠ 0) (k : Int) : b ^ k.toNat = b ^ k * b ^ (-k).toNat := by
  rw [← zpow_natCast, ← zpow_natCast, ← zpow_add₀ hb]
  congr 1
  omega

theorem scale_value (m : Nat) (q t : Int) :
    ((scale m q t).num : ℚ) = m * 2 ^ q * 10 ^ t * (scale m q t).den := by
  have htwo := pow_toNat (b := 2) (by norm_num) q
  have hten := pow_toNat (b := 10) (by norm_num) t
  simp only [scale, Nat.pow_eq, Nat.cast_mul, Nat.cast_pow, Nat.cast_ofNat]
  rw [htwo, hten]
  ring

/-! ## The leading exponent -/

/-- The estimate by the binary logarithm is not too large. -/
theorem ten_zpow_le {L k : Int} (hL : -20000 ≤ L ∧ L ≤ 20000) (hk : k ≤ L * 30103 / 100000 - 1) :
    (10 : ℚ) ^ k ≤ 2 ^ L := by
  have hroot : ∀ p : ℕ, p ≠ 0 → (10 : ℚ) ^ (k * p) ≤ 2 ^ (L * p) → (10 : ℚ) ^ k ≤ 2 ^ L := by
    intro p hp h
    rw [zpow_mul, zpow_mul, zpow_natCast, zpow_natCast] at h
    exact (pow_le_pow_iff_left₀ (ten_zpow_pos k).le (two_zpow_pos L).le hp).mp h
  by_cases hsign : 0 ≤ k
  · refine hroot 59 (by norm_num) ?_
    have hbase : (10 : ℚ) ^ (59 : ℤ) ≤ 2 ^ (196 : ℤ) :=
      (zpow_lt_of_pow (a := 10) (b := 2) (m := 59) (n := 196) (by decide +kernel)).le
    calc (10 : ℚ) ^ (k * (59 : ℕ)) = (10 ^ (59 : ℤ)) ^ k := by
          rw [← zpow_mul, mul_comm]
          rfl
      _ ≤ (2 ^ (196 : ℤ)) ^ k := by
          obtain ⟨j, rfl⟩ := Int.eq_ofNat_of_zero_le hsign
          rw [zpow_natCast, zpow_natCast]
          exact pow_le_pow_left₀ (ten_zpow_pos _).le hbase j
      _ = 2 ^ (196 * k) := (zpow_mul 2 196 k).symm
      _ ≤ 2 ^ (L * (59 : ℕ)) := zpow_le_zpow_right₀ (by norm_num) (by omega)
  · refine hroot 28 (by norm_num) ?_
    have hbase : (2 : ℚ) ^ (93 : ℤ) ≤ 10 ^ (28 : ℤ) :=
      (zpow_lt_of_pow (a := 2) (b := 10) (m := 93) (n := 28) (by decide +kernel)).le
    calc (10 : ℚ) ^ (k * (28 : ℕ)) = (10 ^ (28 : ℤ)) ^ k := by
          rw [← zpow_mul, mul_comm]
          rfl
      _ ≤ (2 ^ (93 : ℤ)) ^ k := by
          obtain ⟨j, hj⟩ : ∃ j : ℕ, k = -(j : ℤ) := ⟨k.natAbs, by omega⟩
          rw [hj, zpow_neg, zpow_neg, zpow_natCast, zpow_natCast]
          exact inv_anti₀ (pow_pos (two_zpow_pos 93) j) (pow_le_pow_left₀ (two_zpow_pos _).le hbase j)
      _ = 2 ^ (93 * k) := (zpow_mul 2 93 k).symm
      _ ≤ 2 ^ (L * (28 : ℕ)) := zpow_le_zpow_right₀ (by norm_num) (by omega)

theorem leadingExponent_le (hm : m ≠ 0) (hm' : Nat.log2 m ≤ 52) (hq : -1074 ≤ q ∧ q ≤ 1000) :
    (10 : ℚ) ^ leadingExponent m q ≤ m * 2 ^ q := by
  have hlog : (2 : ℚ) ^ ((Nat.log2 m : ℤ) + q) ≤ m * 2 ^ q := by
    rw [zpow_add₀ (by norm_num), zpow_natCast]
    refine mul_le_mul_of_nonneg_right ?_ (two_zpow_pos q).le
    exact_mod_cast Nat.log2_self_le hm
  -- an exponent that is not excluded by the comparison
  have hcompare : ∀ k : ℤ, ¬ (scale m q (-k)).num < (scale m q (-k)).den → (10 : ℚ) ^ k ≤ m * 2 ^ q := by
    intro k hk
    have hden : (0 : ℚ) < (scale m q (-k)).den := by exact_mod_cast scale_den_pos m q (-k)
    have hle : ((scale m q (-k)).den : ℚ) ≤ (scale m q (-k)).num := by exact_mod_cast Nat.le_of_not_lt hk
    rw [scale_value, le_mul_iff_one_le_left hden, zpow_neg, ← div_eq_mul_inv,
      one_le_div (ten_zpow_pos k)] at hle
    exact hle
  rw [leadingExponent]
  dsimp only
  split
  · exact (ten_zpow_le (by omega) le_rfl).trans hlog
  · split
    · next h _ => exact hcompare _ (by simpa using h)
    · split
      · next h _ => exact hcompare _ (by simpa using h)
      · next h => exact hcompare _ (by simpa using h)

/-! ## Grids -/

/-- How far the interval reaches below, as the search is told. -/
def below (narrow : Bool) : Nat := if narrow then 1 else 2

/-- Whether a point at a distance is within a width, where the end counts for an even
significand. -/
def Within (m distance width : Nat) : Prop := distance < width ∨ m % 2 = 0 ∧ distance = width

theorem within_iff (m distance width : Nat) : Within m distance width ↔
    (if m % 2 = 0 then decide (distance ≤ width) else decide (distance < width)) = true := by
  rw [Within]
  split <;> rw [decide_eq_true_eq] <;> omega

section Grid

/-- The points that are tried are the two neighbours of the value. -/
theorem gridPoint?_cases (m : Nat) (q k : Int) (narrow : Bool) (n : Nat) :
    let A := (scale 1 (q - 2) (n - 1 - k)).num
    let B := (scale 1 (q - 2) (n - 1 - k)).den
    let x := 4 * (m * A)
    match gridPoint? m q k narrow n with
    | some D => D = x / B ∧ Within m (x % B) (below narrow * A) ∨
      D = x / B + 1 ∧ Within m (B - x % B) (2 * A)
    | none => ¬ Within m (x % B) (below narrow * A) ∧ ¬ Within m (B - x % B) (2 * A) := by
  intro A B x
  have hbelow : (if narrow then scale 1 (q - 2) (n - 1 - k) else scale 2 (q - 2) (n - 1 - k)).num =
      below narrow * A := by
    cases narrow
    · exact scale_num 2 _ _
    · exact (Nat.one_mul A).symm
  have hx : (scale (4 * m) (q - 2) (n - 1 - k)).num = x := by
    rw [scale_num, Nat.mul_assoc]
  have hden : (scale (4 * m) (q - 2) (n - 1 - k)).den = B := scale_den _ _ _
  rw [gridPoint?]
  dsimp only
  rw [hbelow, hx, scale_num 2, hden]
  have hlow := within_iff m (x % B) (below narrow * A)
  have hhigh := within_iff m (B - x % B) (2 * A)
  generalize (if m % 2 = 0 then decide (x % B ≤ below narrow * A)
    else decide (x % B < below narrow * A)) = low at *
  generalize (if m % 2 = 0 then decide (B - x % B ≤ 2 * A) else decide (B - x % B < 2 * A)) = high at *
  cases low with
  | true =>
      cases high with
      | true =>
          have heither : ∀ D, D = x / B ∨ D = x / B + 1 →
              D = x / B ∧ Within m (x % B) (below narrow * A) ∨
              D = x / B + 1 ∧ Within m (B - x % B) (2 * A) :=
            fun D h => h.imp (⟨·, hlow.mpr rfl⟩) (⟨·, hhigh.mpr rfl⟩)
          dsimp only
          by_cases hless : 2 * (x % B) < B
          · rw [if_pos hless]
            exact heither _ (.inl rfl)
          · by_cases htie : 2 * (x % B) = B
            · rw [if_neg hless, if_pos htie]
              exact heither _ (by omega)
            · rw [if_neg hless, if_neg htie]
              exact heither _ (.inr rfl)
      | false => exact .inl ⟨rfl, hlow.mpr rfl⟩
  | false =>
      cases high with
      | true => exact .inr ⟨rfl, hhigh.mpr rfl⟩
      | false => exact ⟨fun h => Bool.noConfusion (hlow.mp h), fun h => Bool.noConfusion (hhigh.mp h)⟩

/-- A point that is found is in the interval. -/
theorem gridPoint?_between (h : gridPoint? m q k narrow n = some D) :
    let A := (scale 1 (q - 2) (n - 1 - k)).num
    let B := (scale 1 (q - 2) (n - 1 - k)).den
    4 * (m * A) ≤ D * B + below narrow * A ∧ D * B ≤ 4 * (m * A) + 2 * A ∧
      (m % 2 = 1 → 4 * (m * A) < D * B + below narrow * A ∧ D * B < 4 * (m * A) + 2 * A) := by
  intro A B
  have hA : 0 < A := scale_num_pos _ _
  have hB : 0 < B := scale_den_pos _ _ _
  have hreach : 0 < below narrow * A := by
    cases narrow <;> simp [below, hA]
  have hcases := gridPoint?_cases m q k narrow n
  rw [h] at hcases
  dsimp only at hcases
  have hdiv := Nat.div_add_mod (4 * (m * A)) B
  have hmod := Nat.mod_lt (4 * (m * A)) hB
  change D = 4 * (m * A) / B ∧ Within m (4 * (m * A) % B) (below narrow * A) ∨
    D = 4 * (m * A) / B + 1 ∧ Within m (B - 4 * (m * A) % B) (2 * A) at hcases
  rw [Within, Within] at hcases
  generalize 4 * (m * A) = x at *
  generalize below narrow * A = w at *
  generalize x % B = r at *
  rcases hcases with ⟨rfl, hin⟩ | ⟨rfl, hin⟩
  · rw [Nat.mul_comm B] at hdiv
    omega
  · rw [Nat.mul_comm B] at hdiv
    rw [Nat.add_mul, Nat.one_mul]
    omega

/-- On a fine grid there is a point in the interval. -/
theorem gridPoint?_fine
    (hfine : (scale 1 (q - 2) (n - 1 - k)).den < (below narrow + 2) * (scale 1 (q - 2) (n - 1 - k)).num) :
    gridPoint? m q k narrow n ≠ none := by
  intro hnone
  have hcases := gridPoint?_cases m q k narrow n
  rw [hnone] at hcases
  dsimp only at hcases
  rw [Within, Within] at hcases
  have hmod := Nat.mod_lt (4 * (m * (scale 1 (q - 2) (n - 1 - k)).num))
    (scale_den_pos 1 (q - 2) (n - 1 - k))
  rw [Nat.add_mul] at hfine
  generalize 4 * (m * (scale 1 (q - 2) (n - 1 - k)).num) % (scale 1 (q - 2) (n - 1 - k)).den = r at *
  omega

end Grid

/-- The search ends on a grid with a point, if the last grid that it looks at has one. -/
theorem firstGrid_found (m : Nat) (q k : Int) (narrow : Bool) : ∀ (fuel n : Nat),
    gridPoint? m q k narrow (n + fuel) ≠ none →
    gridPoint? m q k narrow (firstGrid m q k narrow fuel n).2 =
      some (firstGrid m q k narrow fuel n).1
  | 0, n, h => by
      obtain ⟨D, hD⟩ := Option.ne_none_iff_exists'.mp h
      rw [Nat.add_zero] at hD
      rw [firstGrid, hD]
      rfl
  | fuel + 1, n, h => by
      rw [firstGrid]
      cases hD : gridPoint? m q k narrow n with
      | some D => exact hD
      | none =>
          refine firstGrid_found m q k narrow fuel (n + 1) ?_
          rwa [Nat.add_assoc, Nat.add_comm 1]

/-! ## The digits of a double -/

section Digits

variable {e : Fin 2047} {f : Fin 4503599627370496}

theorem below_eq_reach (e : Fin 2047) (f : Fin 4503599627370496) :
    below (f.val == 0 && e.val > 1) = reach e f := by
  rw [below, reach]

/-- A number with many digits before the point on the grid lies among points that are near. -/
theorem scale_ge {j : Nat} (h : (10 : ℚ) ^ k ≤ m * 2 ^ q) :
    10 ^ j * (scale 1 (q - 2) (j - k)).den ≤ 4 * (m * (scale 1 (q - 2) (j - k)).num) := by
  have hvalue := scale_value 1 (q - 2) (j - k)
  generalize scale 1 (q - 2) (j - k) = x at *
  have hden : (0 : ℚ) ≤ 10 ^ ((j : ℤ) - k) * x.den := mul_nonneg (ten_zpow_pos _).le x.den.cast_nonneg
  have hsplit : (10 : ℚ) ^ (j : ℤ) = 10 ^ k * 10 ^ ((j : ℤ) - k) := by
    rw [← zpow_add₀ (by norm_num), add_sub_cancel]
  have hquarter : (2 : ℚ) ^ q = 2 ^ (q - 2) * 4 := by
    rw [zpow_sub₀ (by norm_num)]
    norm_num
  have hle : (10 : ℚ) ^ (j : ℤ) * x.den ≤ 4 * (m * x.num) := by
    calc (10 : ℚ) ^ (j : ℤ) * x.den = 10 ^ k * (10 ^ ((j : ℤ) - k) * x.den) := by rw [hsplit]; ring
      _ ≤ m * 2 ^ q * (10 ^ ((j : ℤ) - k) * x.den) := mul_le_mul_of_nonneg_right h hden
      _ = 4 * (m * x.num) := by rw [hvalue, hquarter, Nat.cast_one]; ring
  rw [zpow_natCast] at hle
  exact_mod_cast hle

/-- Seventeen digits always suffice. -/
theorem gridPoint?_last (hpos : 0 < significand e f) :
    gridPoint? (significand e f) (shift e - 1074)
      (leadingExponent (significand e f) (shift e - 1074)) (f.val == 0 && e.val > 1) 17 ≠ none := by
  have hm := significand_lt e f
  have he := e.isLt
  have hlog : Nat.log2 (significand e f) ≤ 52 := by
    have := (Nat.log2_lt (by omega)).mpr hm
    omega
  have hshift : shift e ≤ 2045 := by
    rw [shift]
    omega
  have hlead := leadingExponent_le (m := significand e f) (q := shift e - 1074) (by omega) hlog
    (by omega)
  have hmany := scale_ge (j := 16) hlead
  -- the significand has too few digits for the interval to be narrower than the grid
  have hfew : 4 * significand e f < (reach e f + 2) * 10 ^ 16 := by
    rw [reach]
    split
    · next hnarrow =>
      have hf : f.val = 0 := by
        simp only [Bool.and_eq_true, beq_iff_eq] at hnarrow
        exact hnarrow.1
      have hsig : significand e f ≤ 2 ^ 52 := by
        rw [significand, hf]
        split
        · exact Nat.zero_le _
        · exact Nat.le_refl _
      omega
    · omega
  refine gridPoint?_fine ?_
  rw [below_eq_reach]
  have hexp : (((17 : ℕ) : ℤ) - 1 - leadingExponent (significand e f) (shift e - 1074)) =
      ((16 : ℕ) : ℤ) - leadingExponent (significand e f) (shift e - 1074) := by omega
  rw [hexp]
  have hnum := scale_num_pos (shift e - 1074 - 2)
    ((16 : ℕ) - leadingExponent (significand e f) (shift e - 1074))
  generalize scale 1 _ _ = x at *
  by_contra hwide
  have hwide : 10 ^ 16 * ((reach e f + 2) * x.num) ≤ 10 ^ 16 * x.den :=
    Nat.mul_le_mul_left _ (Nat.le_of_not_lt hwide)
  have hstep : (reach e f + 2) * 10 ^ 16 * x.num ≤ 4 * significand e f * x.num := by
    calc (reach e f + 2) * 10 ^ 16 * x.num = 10 ^ 16 * ((reach e f + 2) * x.num) := by ring
      _ ≤ 10 ^ 16 * x.den := hwide
      _ ≤ 4 * (significand e f * x.num) := hmany
      _ = 4 * significand e f * x.num := by ring
  exact absurd hstep (Nat.not_le.mpr (Nat.mul_lt_mul_of_pos_right hfew hnum))

/-- A point in the interval on a grid, as a number. -/
theorem rounds_of_gridPoint (h : gridPoint? (significand e f) (shift e - 1074) k
    (f.val == 0 && e.val > 1) n = some D) : Rounds e f (D * 10 ^ (k + 1 - n)) := by
  obtain ⟨hlow, hhigh, hodd⟩ := gridPoint?_between h
  rw [below_eq_reach] at hlow hodd
  have hvalue := scale_value 1 (shift e - 1074 - 2) (n - 1 - k)
  have hden := scale_den_pos 1 (shift e - 1074 - 2) (n - 1 - k)
  have hquarter : (2 : ℚ) ^ ((shift e : ℤ) - 1074 - 2) = quarter e := by
    rw [quarter]
    congr 1
    ring
  have hcancel : (10 : ℚ) ^ (k + 1 - n) * 10 ^ ((n : ℤ) - 1 - k) = 1 := by
    rw [← zpow_add₀ (by norm_num), show k + 1 - n + ((n : ℤ) - 1 - k) = 0 by ring, zpow_zero]
  generalize scale 1 (shift e - 1074 - 2) (n - 1 - k) = x at *
  rw [hquarter, Nat.cast_one, one_mul] at hvalue
  -- both sides of each comparison are measured in points of the grid
  have hscale : (0 : ℚ) < 10 ^ ((n : ℤ) - 1 - k) * x.den :=
    mul_pos (ten_zpow_pos _) (by exact_mod_cast hden)
  have hend : ∀ c : ℚ, c * quarter e * (10 ^ ((n : ℤ) - 1 - k) * x.den) = c * x.num := by
    intro c
    rw [hvalue]
    ring
  have hpoint : (D : ℚ) * 10 ^ (k + 1 - n) * (10 ^ ((n : ℤ) - 1 - k) * x.den) = D * x.den := by
    linear_combination (D * x.den : ℚ) * hcancel
  have hlow : (4 * (significand e f * x.num) : ℚ) ≤ D * x.den + reach e f * x.num := by
    exact_mod_cast hlow
  have hhigh : (D * x.den : ℚ) ≤ 4 * (significand e f * x.num) + 2 * x.num := by
    exact_mod_cast hhigh
  refine ⟨le_of_mul_le_mul_right ?_ hscale, le_of_mul_le_mul_right ?_ hscale, fun h => ?_⟩
  · rw [hend, hpoint]
    linarith
  · rw [hend, hpoint]
    linarith
  · obtain ⟨hl, hr⟩ := hodd h
    have hl : (4 * (significand e f * x.num) : ℚ) < D * x.den + reach e f * x.num := by
      exact_mod_cast hl
    have hr : (D * x.den : ℚ) < 4 * (significand e f * x.num) + 2 * x.num := by
      exact_mod_cast hr
    refine ⟨lt_of_mul_lt_mul_right ?_ hscale.le, lt_of_mul_lt_mul_right ?_ hscale.le⟩
    · rw [hend, hpoint]
      linarith
    · rw [hend, hpoint]
      linarith

theorem dropTrailingZeros_append (ds : List Char) :
    ∃ j, ds = dropTrailingZeros ds ++ List.replicate j '0' := by
  have hsplit := List.takeWhile_append_dropWhile (p := (· == '0')) (l := ds.reverse)
  have hzeros : ds.reverse.takeWhile (· == '0') =
      List.replicate (ds.reverse.takeWhile (· == '0')).length '0' := by
    refine List.eq_replicate_of_mem fun c hc => ?_
    simpa using List.mem_takeWhile_imp hc
  refine ⟨(ds.reverse.takeWhile (· == '0')).length, ?_⟩
  rw [dropTrailingZeros, ← List.reverse_replicate, ← hzeros, ← List.reverse_append, hsplit,
    List.reverse_reverse]

/-- What the search finds, and how it is written. -/
theorem shortest_found (hpos : 0 < significand e f) : ∃ D n j k,
    gridPoint? (significand e f) (shift e - 1074) k (f.val == 0 && e.val > 1) n = some D ∧
    Nat.toDigits 10 D = (shortest e f).digits ++ List.replicate j '0' ∧
    (shortest e f).exponent = k + ((Nat.toDigits 10 D).length - n) := by
  have hfound := firstGrid_found (significand e f) (shift e - 1074)
    (leadingExponent (significand e f) (shift e - 1074)) (f.val == 0 && e.val > 1) 16 1
    (gridPoint?_last hpos)
  obtain ⟨j, hj⟩ := dropTrailingZeros_append (Nat.toDigits 10 (firstGrid (significand e f)
    (shift e - 1074) (leadingExponent (significand e f) (shift e - 1074))
    (f.val == 0 && e.val > 1) 16 1).1)
  exact ⟨_, _, j, _, hfound, hj, rfl⟩

/-- **The shortest digits are in the interval of the double.** -/
theorem shortest_rounds (hpos : 0 < significand e f) : Rounds e f (shortest e f).value := by
  obtain ⟨D, n, j, k, hfound, hdigits, hexponent⟩ := shortest_found hpos
  have hvalue : (D : ℚ) = Nat.ofDigitChars 10 (shortest e f).digits 0 * 10 ^ (j : ℤ) := by
    have hD : D = 10 ^ j * Nat.ofDigitChars 10 (shortest e f).digits 0 := by
      rw [← Nat.ofDigitChars_replicate_zero, ← Nat.ofDigitChars_append, ← hdigits,
        Nat.ofDigitChars_ten_toDigits]
    rw [hD, zpow_natCast]
    push_cast
    ring
  have hrounds := rounds_of_gridPoint hfound
  rw [hvalue, mul_assoc, ← zpow_add₀ (by norm_num)] at hrounds
  rw [Decimal.value, hexponent, hdigits, List.length_append, List.length_replicate]
  convert hrounds using 3
  push_cast
  ring

/-- The first digit of a positive number is not zero. -/
theorem head_toDigits : ∀ {n : Nat}, 0 < n → ∀ ds, Nat.toDigits 10 n ≠ '0' :: ds := by
  intro n
  induction n using Nat.strong_induction_on with
  | _ n ih =>
      intro hn ds hds
      rw [Nat.toDigits_eq_if (by norm_num)] at hds
      split at hds
      · have := (List.cons.inj hds).1
        rw [Nat.digitChar_eq_zero] at this
        omega
      · have hdiv := ih (n / 10) (by omega) (by omega)
        cases hq : Nat.toDigits 10 (n / 10) with
        | nil => exact absurd hq Nat.toDigits_ne_nil
        | cons c rest =>
            rw [hq] at hds hdiv
            obtain ⟨rfl, -⟩ := List.cons.inj hds
            exact hdiv rest rfl

/-- The shortest digits are digits, and the first is not zero. -/
theorem shortest_digits (hpos : 0 < significand e f) :
    (∀ c ∈ (shortest e f).digits, c.isDigit = true) ∧
      ∃ c rest, (shortest e f).digits = c :: rest ∧ c ≠ '0' := by
  obtain ⟨D, n, j, k, hfound, hdigits, -⟩ := shortest_found hpos
  have hD : 0 < D := by
    by_contra hzero
    obtain rfl : D = 0 := by omega
    have hlow := (rounds_of_gridPoint hfound).ge hpos
    rw [Nat.cast_zero, zero_mul] at hlow
    exact absurd hlow (not_le.mpr (two_zpow_pos _))
  constructor
  · intro c hc
    refine Nat.isDigit_of_mem_toDigits (b := 10) (n := D) (by norm_num) (by norm_num) ?_
    rw [hdigits]
    exact List.mem_append_left _ hc
  · cases hds : (shortest e f).digits with
    | nil =>
        rw [hds, List.nil_append] at hdigits
        cases j with
        | zero => exact absurd hdigits Nat.toDigits_ne_nil
        | succ j => exact absurd hdigits (head_toDigits hD _)
    | cons c rest =>
        refine ⟨c, rest, rfl, ?_⟩
        rintro rfl
        rw [hds, List.cons_append] at hdigits
        exact head_toDigits hD _ hdigits

end Digits

end Binary64

end StoryServer
