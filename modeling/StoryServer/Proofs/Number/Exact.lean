import Mathlib.Data.EReal.Inv
import StoryServer.Proofs.Number.Nearest

/-!
# The value of a double

Every double but the not-a-number has a value among the extended reals (`value?`), and doubles are
ordered as their values are (`blt_iff`).  A double times a power of two is exact, as long as the
product is in the range of doubles (`value?_mul_two_pow`): only the exponent changes, and where
it cannot, below the normal numbers, there is room in the significand.
-/

namespace StoryServer

namespace Binary64

/-- The value of a double.  A not-a-number has none. -/
noncomputable def value? : Binary64 → Option EReal
  | .nan => none
  | .infinite negative => some (if negative then ⊥ else ⊤)
  | .finite n e f => some (((scaled (.finite n e f) : ℝ) / (unit : ℝ) : ℝ) : EReal)

theorem unit_pos : 0 < unit := by
  unfold unit
  -- the power is never computed
  generalize 1074 = n
  exact Nat.two_pow_pos n

/-- The values of finite doubles are ordered as these are in units. -/
theorem coe_div_unit_lt {a b : Int} :
    (((a : ℝ) / (unit : ℝ) : ℝ) : EReal) < (((b : ℝ) / (unit : ℝ) : ℝ) : EReal) ↔ a < b := by
  have hunit : (0 : ℝ) < unit := Nat.cast_pos.mpr unit_pos
  rw [EReal.coe_lt_coe_iff, div_lt_div_iff_of_pos_right hunit, Int.cast_lt]

theorem exists_lt {v w : EReal} :
    (∃ a b, some v = some a ∧ some w = some b ∧ a < b) ↔ v < w := by
  constructor
  · rintro ⟨a, b, hv, hw, h⟩
    rwa [Option.some.inj hv, Option.some.inj hw]
  · intro h
    exact ⟨v, w, rfl, rfl, h⟩

/-- Doubles are ordered as their values are. -/
theorem blt_iff {x y : Binary64} :
    x.blt y = true ↔ ∃ a b, x.value? = some a ∧ y.value? = some b ∧ a < b := by
  cases x with
  | nan => exact ⟨nofun, fun ⟨_, _, h, _⟩ => nomatch h⟩
  | infinite n =>
      cases y with
      | nan => exact ⟨by cases n <;> nofun, fun ⟨_, _, _, h, _⟩ => nomatch h⟩
      | infinite n' =>
          refine Iff.trans ?_ exists_lt.symm
          cases n <;> cases n' <;> simp [blt]
      | finite n' e f =>
          refine Iff.trans ?_ exists_lt.symm
          cases n with
          | false => exact ⟨nofun, fun h => absurd h not_top_lt⟩
          | true => exact ⟨fun _ => EReal.bot_lt_coe _, fun _ => rfl⟩
  | finite n e f =>
      cases y with
      | nan => exact ⟨nofun, fun ⟨_, _, _, h, _⟩ => nomatch h⟩
      | infinite n' =>
          refine Iff.trans ?_ exists_lt.symm
          cases n' with
          | false => exact ⟨fun _ => EReal.coe_lt_top _, fun _ => rfl⟩
          | true => exact ⟨nofun, fun h => absurd h not_lt_bot⟩
      | finite n' e' f' =>
          exact decide_eq_true_iff.trans (coe_div_unit_lt.symm.trans exists_lt.symm)

theorem blt_iff_of_value {x y : Binary64} {v w : EReal} (hx : x.value? = some v)
    (hy : y.value? = some w) : x.blt y = true ↔ v < w := by
  rw [blt_iff, hx, hy]
  exact exists_lt

theorem value?_eq_none {x : Binary64} : x.value? = none ↔ x = .nan := by
  cases x with
  | nan => exact ⟨fun _ => rfl, fun _ => rfl⟩
  | infinite n => cases n <;> exact ⟨nofun, nofun⟩
  | finite n e f => exact ⟨nofun, nofun⟩

/-! ## Powers of two -/

theorem significand_long {m p : Nat} (hlow : 2 ^ 52 ≤ m) (hhigh : m < 2 ^ 53) (hp : p + 1 < 2047) :
    ∃ e f, significand e f = m ∧ shift e = p := by
  refine ⟨⟨p + 1, hp⟩, ⟨m - 2 ^ 52, by omega⟩, ?_, rfl⟩
  rw [significand, if_neg (Nat.succ_ne_zero p), Nat.pow_eq]
  exact Nat.add_sub_cancel' hlow

theorem significand_short {m : Nat} (h : m < 2 ^ 52) : ∃ e f, significand e f = m ∧ shift e = 0 :=
  ⟨0, ⟨m, by omega⟩, rfl, rfl⟩

/-- The least power of two beyond the range of doubles, in units of `2^-1074`. -/
def beyond : Nat := Nat.pow 2 2098

theorem lt_of_pow_lt_beyond {k : Nat} (h : 2 ^ k < beyond) : k < 2098 := by
  unfold beyond at h
  -- the power is never computed
  generalize 2098 = n at h ⊢
  exact (Nat.pow_lt_pow_iff_right (by decide)).mp h

/-- A significand times a power of two is that of a double: a short one is doubled until it is long
or there is no power left. -/
theorem exists_significand : ∀ (p : Nat) {m : Nat}, m < 2 ^ 53 → m * 2 ^ p < beyond →
    ∃ e f, significand e f * 2 ^ shift e = m * 2 ^ p := by
  intro p
  induction p with
  | zero =>
      intro m hm _
      obtain ⟨e, f, hsig, hshift⟩ : ∃ e f, significand e f = m ∧ shift e = 0 := by
        by_cases hshort : m < 2 ^ 52
        · exact significand_short hshort
        · exact significand_long (Nat.le_of_not_lt hshort) hm (by decide)
      exact ⟨e, f, by rw [hsig, hshift]⟩
  | succ p ih =>
      intro m hm hp
      have hdouble : m * 2 ^ (p + 1) = 2 * m * 2 ^ p := by rw [Nat.pow_succ]; ring
      by_cases hshort : m < 2 ^ 52
      · rw [hdouble] at hp ⊢
        exact ih (by omega) hp
      · have hlong : 2 ^ 52 ≤ m := Nat.le_of_not_lt hshort
        have hsize : 52 + (p + 1) < 2098 := by
          refine lt_of_pow_lt_beyond (Nat.lt_of_le_of_lt ?_ hp)
          rw [Nat.pow_add]
          exact Nat.mul_le_mul_right _ hlong
        obtain ⟨e, f, hsig, hshift⟩ := significand_long hlong hm (p := p + 1) (by omega)
        exact ⟨e, f, by rw [hsig, hshift]⟩

/-- A quotient that is a double is not rounded. -/
theorem nearest_exact (negative : Bool) {e : Fin 2047} {f : Fin 4503599627370496} {num den : Nat}
    (hden : 0 < den) (h : num = den * (significand e f * 2 ^ shift e)) :
    nearest negative num den = .finite negative e f := by
  have hpos : 0 < den * 2 ^ shift e := Nat.mul_pos hden (Nat.two_pow_pos _)
  have hnum : num = den * 2 ^ shift e * significand e f := by rw [h]; ring
  have hreach : 0 < reach e f * (den * 2 ^ shift e) := by
    refine Nat.mul_pos ?_ hpos
    unfold reach
    split <;> decide
  exact nearest_eq negative rfl hden (by omega) (by omega) fun _ => ⟨by omega, by omega⟩

theorem two_pow_unit (i : Nat) : 2 ^ i * unit = 2 ^ (i + 1074) := by
  unfold unit
  -- the power is never computed
  generalize 1074 = n
  exact (Nat.pow_add 2 i n).symm

theorem two_pow_lt_beyond {k : Nat} (h : k < 2098) : 2 ^ k < beyond := by
  unfold beyond
  generalize 2098 = n at h ⊢
  exact Nat.pow_lt_pow_right (by decide) h

theorem magnitude_finite (n : Bool) (e : Fin 2047) (f : Fin 4503599627370496) :
    magnitude (.finite n e f) = significand e f * 2 ^ shift e := rfl

/-- A power of two in the range of doubles. -/
theorem ofInt_two_pow {i : Nat} (hi : i < 1024) :
    ∃ e f, ofInt (Nat.pow 2 i : Nat) = .finite false e f ∧
      magnitude (.finite false e f) = 2 ^ i * unit := by
  have hbound : 1 * 2 ^ (i + 1074) < beyond := by
    rw [Nat.one_mul]
    exact two_pow_lt_beyond (by omega)
  obtain ⟨e, f, h⟩ := exists_significand (i + 1074) (by decide) hbound
  rw [Nat.one_mul, ← two_pow_unit] at h
  have hsign : decide ((Nat.pow 2 i : Nat) < (0 : Int)) = false := by simp
  have hnum : ((Nat.pow 2 i : Nat) : Int).natAbs * unit = 1 * (significand e f * 2 ^ shift e) := by
    rw [h, Nat.one_mul, Int.natAbs_natCast, Nat.pow_eq]
  exact ⟨e, f, by rw [ofInt, hsign, nearest_exact false Nat.one_pos hnum],
    (magnitude_finite false e f).trans h⟩

theorem mul_finite (n n' : Bool) (e e' : Fin 2047) (f f' : Fin 4503599627370496) :
    mul (.finite n e f) (.finite n' e' f') =
      nearest (n != n') (magnitude (.finite n e f) * magnitude (.finite n' e' f')) unit := by
  unfold mul
  rfl

/-- A finite double times a power of two, in the range of doubles. -/
theorem mul_two_pow {n : Bool} {e : Fin 2047} {f : Fin 4503599627370496} {i : Nat} (hi : i < 1024)
    (h : magnitude (.finite n e f) * 2 ^ i < beyond) :
    ∃ e' f', mul (.finite n e f) (ofInt (Nat.pow 2 i : Nat)) = .finite n e' f' ∧
      magnitude (.finite n e' f') = magnitude (.finite n e f) * 2 ^ i := by
  obtain ⟨e₂, f₂, hpower, hmagnitude⟩ := ofInt_two_pow hi
  have hproduct : significand e f * 2 ^ (shift e + i) = magnitude (.finite n e f) * 2 ^ i := by
    rw [Nat.pow_add, ← Nat.mul_assoc, magnitude_finite]
  obtain ⟨e', f', hexact⟩ := exists_significand (shift e + i) (significand_lt e f) (hproduct ▸ h)
  rw [hproduct] at hexact
  have hnum : magnitude (.finite n e f) * magnitude (.finite false e₂ f₂) =
      unit * (significand e' f' * 2 ^ shift e') :=
    calc magnitude (.finite n e f) * magnitude (.finite false e₂ f₂)
      _ = magnitude (.finite n e f) * (2 ^ i * unit) := congrArg _ hmagnitude
      _ = unit * (magnitude (.finite n e f) * 2 ^ i) := by rw [← Nat.mul_assoc, Nat.mul_comm]
      _ = unit * (significand e' f' * 2 ^ shift e') := congrArg _ hexact.symm
  refine ⟨e', f', ?_, (magnitude_finite n e' f').trans hexact⟩
  rw [hpower, mul_finite, nearest_exact _ unit_pos hnum, Bool.bne_false]

theorem isZero_of_magnitude {n : Bool} {e : Fin 2047} {f : Fin 4503599627370496}
    (h : magnitude (.finite n e f) ≠ 0) : isZero (.finite n e f) = false := by
  cases hzero : isZero (.finite n e f) with
  | false => rfl
  | true =>
      obtain ⟨he, hf⟩ : e.val = 0 ∧ f.val = 0 := by simpa [isZero] using hzero
      rw [magnitude_finite, significand, if_pos he, hf, Nat.zero_mul] at h
      exact absurd rfl h

theorem scaled_finite (n : Bool) (e : Fin 2047) (f : Fin 4503599627370496) :
    scaled (.finite n e f) =
      if n then -(magnitude (.finite n e f) : Int) else magnitude (.finite n e f) := rfl

/-- In the range of doubles a product with a power of two is exact. -/
theorem value?_mul_two_pow {x : Binary64} {i : Nat} (hi : i < 1024)
    (h : x.magnitude * 2 ^ i < beyond) :
    (x.mul (ofInt (Nat.pow 2 i : Nat))).value? = x.value?.map fun v => v * (2 : EReal) ^ i := by
  have htwo : (2 : EReal) ^ i = ((2 ^ i : ℝ) : EReal) := (EReal.coe_pow 2 i).symm
  have hpos : (0 : ℝ) < 2 ^ i := by positivity
  rw [htwo]
  cases x with
  | nan => rfl
  | infinite n =>
      obtain ⟨e, f, hpower, hmagnitude⟩ := ofInt_two_pow hi
      have hne : magnitude (.finite false e f) ≠ 0 := by
        rw [hmagnitude]
        exact (Nat.mul_pos (Nat.two_pow_pos i) unit_pos).ne'
      have hzero : isZero (.finite false e f) = false := isZero_of_magnitude hne
      have hmul : mul (.infinite n) (.finite false e f) = .infinite n := by
        unfold mul
        dsimp only
        rw [hzero, isNegative, isNegative, Bool.bne_false]
        rfl
      rw [hpower, hmul]
      cases n with
      | false => exact congrArg some (EReal.top_mul_coe_of_pos hpos).symm
      | true => exact congrArg some (EReal.bot_mul_coe_of_pos hpos).symm
  | finite n e f =>
      obtain ⟨e', f', hmul, hmagnitude⟩ := mul_two_pow hi h
      have hscaled : (scaled (.finite n e' f') : ℝ) = scaled (.finite n e f) * 2 ^ i := by
        rw [scaled_finite, scaled_finite, hmagnitude]
        cases n <;> simp
      rw [hmul, value?, value?, hscaled, Option.map_some, ← EReal.coe_mul, mul_div_right_comm]

end Binary64

end StoryServer
