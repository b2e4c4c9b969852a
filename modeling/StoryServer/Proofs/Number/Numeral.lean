import Mathlib.Data.List.TakeWhile
import Mathlib.Tactic.FieldSimp
import StoryServer.Number.Literal
import StoryServer.Proofs.Number.Shortest

/-!
# Numerals

A `Numeral` is a number in text by its pieces: a sign, the digits before and after the point,
and an exponent.  It is read as the double nearest to its value (`readDouble_numeral`).

Every finite double is written as a numeral whose value is the value of its shortest digits,
and so it is read back (`Layout.text_numeral`).
-/

namespace StoryServer

/-- A number in text. -/
structure Numeral where
  negative : Bool
  whole : List Char
  /-- The digits after the point; without any there is no point. -/
  fraction : List Char := []
  /-- The sign and the digits of the exponent, if there is one. -/
  exponent : Option (Bool × List Char) := none

namespace Numeral

/-- The point and what follows it. -/
def fractionChars (x : Numeral) : List Char :=
  match x.fraction with
  | [] => []
  | ds => '.' :: ds

theorem fractionChars_nil {x : Numeral} (h : x.fraction = []) : x.fractionChars = [] := by
  rw [fractionChars, h]

theorem fractionChars_cons {x : Numeral} (h : x.fraction ≠ []) :
    x.fractionChars = '.' :: x.fraction := by
  rw [fractionChars]
  split
  · next hnil => exact absurd hnil h
  · rfl

def exponentChars (x : Numeral) : List Char :=
  match x.exponent with
  | none => []
  | some (negative, ds) => 'e' :: (if negative then '-' else '+') :: ds

/-- The text without its sign. -/
def body (x : Numeral) : List Char := x.whole ++ (x.fractionChars ++ x.exponentChars)

def chars (x : Numeral) : List Char := (if x.negative then ['-'] else []) ++ x.body

/-- All digits as one number. -/
def digits (x : Numeral) : Nat := Nat.ofDigitChars 10 (x.whole ++ x.fraction) 0

/-- The power of ten for the last digit. -/
def scale (x : Numeral) : Int :=
  (match x.exponent with
    | none => 0
    | some (negative, ds) =>
      let n := Nat.ofDigitChars 10 ds 0
      if negative then -(n : Int) else n) - x.fraction.length

/-- A numeral with digits where digits should be and no zero in front. -/
structure Proper (x : Numeral) : Prop where
  whole : ∃ c rest, x.whole = c :: rest ∧ (c = '0' → rest = [])
  wholeDigits : ∀ c ∈ x.whole, c.isDigit = true
  fractionDigits : ∀ c ∈ x.fraction, c.isDigit = true
  exponentDigits : ∀ p, x.exponent = some p → p.2 ≠ [] ∧ ∀ c ∈ p.2, c.isDigit = true

end Numeral

/-! ## Digits -/

namespace Number

theorem digit_toNat {c : Char} (h : c.isDigit = true) : 48 ≤ c.toNat ∧ c.toNat ≤ 57 := by
  simp only [Char.isDigit, ge_iff_le, Bool.and_eq_true, decide_eq_true_eq] at h
  exact ⟨h.1, h.2⟩

theorem digitValue?_digit {c : Char} (h : c.isDigit = true) :
    digitValue? c.toNat = some (c.toNat - 48) := by
  obtain ⟨hlow, hhigh⟩ := digit_toNat h
  rw [digitValue?, digitZeros, List.find?_cons_of_pos]
  · rfl
  · simp only [Bool.and_eq_true, decide_eq_true_eq]
    omega

theorem ofDigits_map (ds : List Char) :
    ofDigits (ds.map fun c => c.toNat - 48) = Nat.ofDigitChars 10 ds 0 := by
  rw [ofDigits, Nat.ofDigitChars_eq_foldl, List.foldl_map]
  rfl

/-- Where a run of digits ends. -/
def Halts (s : List Char) : Prop := ∀ c ∈ s.head?, digitValue? c.toNat = none ∧ c ≠ '_'

theorem digitRun_digits {tail : List Char} (ht : Halts tail) : ∀ {ds : List Char},
    (∀ c ∈ ds, c.isDigit = true) → ∀ b,
      digitRun b (ds ++ tail) = (ds.map fun c => c.toNat - 48, tail)
  | [], _, b => by
      cases tail with
      | nil => rfl
      | cons c rest =>
          obtain ⟨hvalue, hunderscore⟩ := ht c rfl
          have hbeq : (c == '_') = false := beq_eq_false_iff_ne.mpr hunderscore
          rw [List.nil_append]
          unfold digitRun
          simp only [hvalue, hbeq, Bool.and_false, List.map_nil]
  | c :: ds, h, b => by
      have hrest := digitRun_digits ht (fun d hd => h d (List.mem_cons_of_mem c hd)) true
      rw [List.cons_append]
      unfold digitRun
      simp only [digitValue?_digit (h c List.mem_cons_self), hrest, List.map_cons]

/-! ## Reading -/

theorem halts_point (rest : List Char) : Halts ('.' :: rest) := by
  intro c hc
  obtain rfl : '.' = c := Option.some.inj hc
  decide

theorem halts_exponent (rest : List Char) : Halts ('e' :: rest) := by
  intro c hc
  obtain rfl : 'e' = c := Option.some.inj hc
  decide

theorem halts_nil : Halts [] := fun _ h => nomatch h

variable {x : Numeral}

theorem halts_exponentChars (x : Numeral) : Halts x.exponentChars := by
  rw [Numeral.exponentChars]
  split
  · exact halts_nil
  · exact halts_exponent _

theorem exponent?_numeral (h : x.Proper) :
    exponent? x.exponentChars = some (x.scale + x.fraction.length) := by
  rw [Numeral.exponentChars, Numeral.scale, Int.sub_add_cancel]
  cases hx : x.exponent with
  | none => rfl
  | some p =>
      obtain ⟨negative, ds⟩ := p
      obtain ⟨hne, hds⟩ := h.exponentDigits _ hx
      have hrun := digitRun_digits halts_nil hds false
      rw [List.append_nil] at hrun
      obtain ⟨d, rest, rfl⟩ := List.exists_cons_of_ne_nil hne
      rw [List.map_cons] at hrun
      cases negative with
      | true =>
          simp only [exponent?, sign, hrun, beq_self_eq_true, Bool.true_or, if_true]
          exact congrArg (fun n : ℕ => some (-(n : Int))) (ofDigits_map (d :: rest))
      | false =>
          simp only [exponent?, sign, hrun, beq_self_eq_true, Bool.true_or, if_true,
            Bool.false_eq_true, if_false]
          exact congrArg (fun n : ℕ => some (n : Int)) (ofDigits_map (d :: rest))

section Decimal

variable {s more tail : List Char} {w f : List Nat} (negative : Bool)

theorem decimal?_of_point (hw : digitRun false s = (w, '.' :: more)) (hne : w ≠ [])
    (hf : digitRun false more = (f, tail)) : decimal? negative s =
      (exponent? tail).map fun e => Binary64.ofDecimal negative (ofDigits (w ++ f)) (e - f.length) := by
  obtain ⟨d, ds, rfl⟩ := List.exists_cons_of_ne_nil hne
  rw [decimal?, hw]
  simp only [hf, List.isEmpty_cons, Bool.false_and, Bool.false_eq_true, if_false]

theorem decimal?_of_whole (hw : digitRun false s = (w, tail)) (hne : w ≠ [])
    (htail : ∀ more, tail ≠ '.' :: more) : decimal? negative s =
      (exponent? tail).map fun e => Binary64.ofDecimal negative (ofDigits w) e := by
  obtain ⟨d, ds, rfl⟩ := List.exists_cons_of_ne_nil hne
  rw [decimal?, hw]
  dsimp only
  split
  · exact absurd rfl (htail _)
  · simp only [List.isEmpty_cons, Bool.false_and, Bool.false_eq_true, if_false, List.append_nil,
      List.length_nil, Int.ofNat_zero, Int.sub_zero]

theorem decimal?_numeral (h : x.Proper) :
    decimal? negative x.body = some (Binary64.ofDecimal negative x.digits x.scale) := by
  obtain ⟨c, rest, hwhole, -⟩ := h.whole
  have hne : x.whole.map (fun c => c.toNat - 48) ≠ [] := by
    rw [hwhole]
    exact List.cons_ne_nil _ _
  have hexponent := exponent?_numeral h
  have hdigits : ofDigits (x.whole.map (fun c => c.toNat - 48) ++
      x.fraction.map (fun c => c.toNat - 48)) = x.digits := by
    rw [← List.map_append, ofDigits_map]
    rfl
  rw [Numeral.body]
  by_cases hf : x.fraction = []
  · rw [Numeral.fractionChars_nil hf, List.nil_append]
    rw [hf, List.map_nil, List.append_nil] at hdigits
    rw [hf, List.length_nil, Int.ofNat_zero, Int.add_zero] at hexponent
    have hrun := digitRun_digits (halts_exponentChars x) h.wholeDigits false
    refine (decimal?_of_whole negative hrun hne fun more hmore => ?_).trans ?_
    · rw [Numeral.exponentChars] at hmore
      split at hmore <;> cases hmore
    · rw [hexponent, hdigits, Option.map_some]
  · rw [Numeral.fractionChars_cons hf]
    have hrun := digitRun_digits (halts_point (x.fraction ++ x.exponentChars)) h.wholeDigits false
    have hrun' := digitRun_digits (halts_exponentChars x) h.fractionDigits false
    refine (decimal?_of_point negative hrun hne hrun').trans ?_
    rw [hexponent, hdigits, Option.map_some, List.length_map, Int.add_sub_cancel]

end Decimal

theorem trimBy_of_all {p : Char → Bool} {s : List Char} (h : ∀ c ∈ s, p c = false) :
    Text.trimBy p s = s := by
  have hstart : ∀ {s : List Char}, (∀ c ∈ s, p c = false) → s.dropWhile p = s := by
    intro s h
    cases s with
    | nil => rfl
    | cons c rest =>
        rw [List.dropWhile_cons_of_neg]
        simp [h c List.mem_cons_self]
  rw [Text.trimBy, Text.trimStartBy, hstart h, Text.trimEndBy, hstart, List.reverse_reverse]
  intro c hc
  exact h c (List.mem_reverse.mp hc)

/-- What a numeral consists of. -/
theorem mem_chars (h : x.Proper) {c : Char} (hc : c ∈ x.chars) :
    c.isDigit = true ∨ c ∈ ['-', '+', '.', 'e'] := by
  rw [Numeral.chars, Numeral.body, List.mem_append, List.mem_append, List.mem_append] at hc
  rcases hc with hc | hc | hc | hc
  · split at hc
    · obtain rfl := List.mem_singleton.mp hc
      exact .inr (by decide)
    · cases hc
  · exact .inl (h.wholeDigits c hc)
  · by_cases hf : x.fraction = []
    · rw [Numeral.fractionChars_nil hf] at hc
      cases hc
    · rw [Numeral.fractionChars_cons hf] at hc
      rcases List.mem_cons.mp hc with rfl | hc
      · exact .inr (by decide)
      · exact .inl (h.fractionDigits c hc)
  · rw [Numeral.exponentChars] at hc
    cases hx : x.exponent with
    | none => rw [hx] at hc; cases hc
    | some p =>
        rw [hx] at hc
        rcases List.mem_cons.mp hc with rfl | hc
        · exact .inr (by decide)
        · rcases List.mem_cons.mp hc with rfl | hc
          · exact .inr (by split <;> decide)
          · exact .inl ((h.exponentDigits p hx).2 c hc)

theorem not_blank_digit {c : Char} (h : c.isDigit = true) : isNumberBlank c = false := by
  obtain ⟨hlow, hhigh⟩ := digit_toNat h
  have hblank : isBlank c = false := by
    simp only [isBlank, Bool.or_eq_false_iff, Bool.and_eq_false_iff, decide_eq_false_iff_not,
      beq_eq_false_iff_ne]
    omega
  rw [isNumberBlank, hblank, Bool.false_and]

/-- No word begins with a digit. -/
theorem isWord_digit {word : String} {first : Char} {letters : List Char}
    (hw : word.toList = first :: letters) (hfirst : first.isDigit = false) {c : Char}
    (h : c.isDigit = true) (rest : List Char) : isWord word (c :: rest) = false := by
  rw [isWord, hw, List.map_cons]
  have hlower : c.toLower = c := by
    obtain ⟨hlow, hhigh⟩ := digit_toNat h
    refine dif_neg ?_
    rintro ⟨hcapital, -⟩
    have hcapital : 65 ≤ c.toNat := UInt32.le_iff_toNat_le.mp hcapital
    omega
  rw [hlower]
  refine beq_eq_false_iff_ne.mpr fun heq => ?_
  rw [(List.cons.inj heq).1, hfirst] at h
  cases h

theorem not_blank_mark : ∀ c ∈ ['-', '+', '.', 'e', 'E'], isNumberBlank c = false := by
  simp only [List.forall_mem_cons]
  exact ⟨rfl, rfl, rfl, rfl, rfl, fun _ h => nomatch h⟩

/-- A text that begins with a digit, behind a minus or not, is read as decimals. -/
theorem readDouble_decimal (negative : Bool) {c : Char} (hc : c.isDigit = true) {rest : List Char}
    (hrest : ∀ d ∈ rest, d.isDigit = true ∨ d ∈ ['-', '+', '.', 'e', 'E']) :
    readDouble (String.ofList ((if negative then ['-'] else []) ++ c :: rest)) =
      match decimal? negative (c :: rest) with
      | some x => .ok x
      | none => .error (.notDouble
          (String.ofList ((if negative then ['-'] else []) ++ c :: rest))) := by
  have htrim : Text.trimBy isNumberBlank ((if negative then ['-'] else []) ++ c :: rest) =
      (if negative then ['-'] else []) ++ c :: rest := by
    refine trimBy_of_all fun d hd => ?_
    rcases List.mem_append.mp hd with hd | hd
    · split at hd
      · obtain rfl := List.mem_singleton.mp hd
        rfl
      · cases hd
    · rcases List.mem_cons.mp hd with rfl | hd
      · exact not_blank_digit hc
      · exact (hrest d hd).elim not_blank_digit (not_blank_mark d)
  have hsign : sign ((if negative then ['-'] else []) ++ c :: rest) = (negative, c :: rest) := by
    cases negative with
    | true => rfl
    | false =>
        have hminus : c ≠ '-' := by rintro rfl; cases hc
        have hplus : c ≠ '+' := by rintro rfl; cases hc
        simp only [Bool.false_eq_true, if_false, List.nil_append]
        unfold sign
        split
        · next heq => exact absurd (List.cons.inj heq).1 hminus
        · next heq => exact absurd (List.cons.inj heq).1 hplus
        · rfl
  have hword : ∀ (word : String) {first : Char} {letters : List Char},
      word.toList = first :: letters → first.isDigit = false → isWord word (c :: rest) = false :=
    fun word _ _ hw hfirst => isWord_digit hw hfirst hc rest
  rw [readDouble, String.toList_ofList, htrim, hsign]
  dsimp only
  rw [hword "inf" rfl rfl, hword "infinity" rfl rfl, hword "nan" rfl rfl]
  rfl

theorem readDouble_numeral (h : x.Proper) : readDouble (String.ofList x.chars) =
    .ok (Binary64.ofDecimal x.negative x.digits x.scale) := by
  obtain ⟨c, rest, hwhole, -⟩ := h.whole
  have hc : c.isDigit = true := h.wholeDigits c (hwhole ▸ List.mem_cons_self)
  have hbody : x.body = c :: (rest ++ (x.fractionChars ++ x.exponentChars)) := by
    rw [Numeral.body, hwhole, List.cons_append]
  have hdecimal := decimal?_numeral x.negative h
  have hmarks : ∀ d ∈ rest ++ (x.fractionChars ++ x.exponentChars),
      d.isDigit = true ∨ d ∈ ['-', '+', '.', 'e', 'E'] := by
    intro d hd
    have hmem : d ∈ x.chars := by
      rw [Numeral.chars, hbody]
      exact List.mem_append_right _ (List.mem_cons_of_mem c hd)
    refine (mem_chars h hmem).imp_right fun hd => ?_
    exact List.mem_append_left ['E'] hd
  rw [hbody] at hdecimal
  rw [Numeral.chars, hbody, readDouble_decimal x.negative hc hmarks, hdecimal]

end Number

/-! ## Writing -/

namespace Layout

open Number

variable {d : Decimal}

/-- Digits that a decimal can have. -/
def Digits (ds : List Char) : Prop :=
  (∀ c ∈ ds, c.isDigit = true) ∧ ∃ c rest, ds = c :: rest ∧ c ≠ '0'

/-- A numeral that says the same as a decimal and cannot be taken for a whole number. -/
structure Spells (x : Numeral) (negative : Bool) (d : Decimal) : Prop where
  proper : x.Proper
  negative : x.negative = negative
  value : (x.digits * 10 ^ x.scale : ℚ) = d.value
  broken : x.fraction ≠ [] ∨ x.exponent ≠ none

theorem isDigit_zeros {n : Nat} : ∀ c ∈ List.replicate n '0', c.isDigit = true := by
  intro c hc
  obtain rfl := List.eq_of_mem_replicate hc
  rfl

/-- Zeros at the end are made up for by the exponent. -/
theorem value_of_digits {n j : Nat} {k : Int} (hn : n = 10 ^ j * Nat.ofDigitChars 10 d.digits 0)
    (hk : k = d.exponent - (d.digits.length - 1) - j) : (n * 10 ^ k : ℚ) = d.value := by
  have hshift : (10 : ℚ) ^ k = 10 ^ (d.exponent - (d.digits.length - 1)) / 10 ^ (j : ℤ) := by
    rw [hk, zpow_sub₀ (by norm_num)]
  rw [Decimal.value, hshift, hn, zpow_natCast]
  push_cast
  field_simp

/-- Positional notation. -/
theorem positional_spelled {l : Layout} (hl : l.keepPoint = true) (h : Digits d.digits)
    (negative : Bool) : ∃ x : Numeral, Spells x negative d ∧ x.body = l.positional d := by
  obtain ⟨hdigits, c, rest, hcons, hc⟩ := h
  have hlength : 0 < d.digits.length := by
    rw [hcons]
    exact Nat.succ_pos _
  have hne : d.digits ≠ [] := List.length_pos_iff.mp hlength
  rw [positional, hl]
  dsimp only
  split
  · -- all digits stand after the point
    next hsmall =>
    have hfraction : List.replicate (d.exponent.natAbs - 1) '0' ++ d.digits ≠ [] := by simp [hne]
    refine ⟨⟨negative, ['0'], List.replicate (d.exponent.natAbs - 1) '0' ++ d.digits, none⟩,
      ⟨⟨⟨'0', [], rfl, fun _ => rfl⟩, by simp, fun c hc => ?_, fun p hp => nomatch hp⟩, rfl, ?_,
        .inl hfraction⟩, ?_⟩
    · exact (List.mem_append.mp hc).elim (isDigit_zeros c) (hdigits c)
    · refine value_of_digits (j := 0) ?_ ?_
      · rw [Numeral.digits, Nat.ofDigitChars_append, Nat.ofDigitChars_append,
          Nat.ofDigitChars_replicate_zero]
        simp [Nat.ofDigitChars_cons]
      · rw [Numeral.scale, List.length_append, List.length_replicate]
        dsimp only
        omega
    · rw [Numeral.body, Numeral.fractionChars_cons hfraction, Numeral.exponentChars, List.append_nil]
      rfl
  · split
    · -- zeros fill up the whole part
      next hlarge hfits =>
      refine ⟨⟨negative, d.digits ++ List.replicate (d.exponent.natAbs + 1 - d.digits.length) '0',
          ['0'], none⟩,
        ⟨⟨⟨c, _, by rw [hcons]; rfl, fun hzero => absurd hzero hc⟩, fun c hc => ?_, by simp,
          fun p hp => nomatch hp⟩, rfl, ?_, .inl (List.cons_ne_nil _ _)⟩, ?_⟩
      · exact (List.mem_append.mp hc).elim (hdigits c) (isDigit_zeros c)
      · refine value_of_digits (j := d.exponent.natAbs + 1 - d.digits.length + 1) ?_ ?_
        · rw [Numeral.digits, Nat.ofDigitChars_append, Nat.ofDigitChars_append,
            Nat.ofDigitChars_replicate_zero, Nat.pow_succ]
          simp only [Nat.ofDigitChars_cons, Nat.ofDigitChars_nil, Nat.sub_self, Nat.add_zero]
          ring
        · rw [Numeral.scale]
          simp only [List.length_singleton]
          omega
      · rw [Numeral.body, Numeral.fractionChars_cons (List.cons_ne_nil _ _), Numeral.exponentChars,
          List.append_nil]
        rfl
    · next hlarge hlong =>
      have hfraction : d.digits.drop (d.exponent.natAbs + 1) ≠ [] := by
        rw [ne_eq, List.drop_eq_nil_iff]
        omega
      refine ⟨⟨negative, d.digits.take (d.exponent.natAbs + 1),
          d.digits.drop (d.exponent.natAbs + 1), none⟩,
        ⟨⟨⟨c, rest.take d.exponent.natAbs, by rw [hcons]; rfl, fun hzero => absurd hzero hc⟩,
          fun c hc => hdigits c (List.mem_of_mem_take hc),
          fun c hc => hdigits c (List.mem_of_mem_drop hc), fun p hp => nomatch hp⟩, rfl, ?_,
          .inl hfraction⟩, ?_⟩
      · refine value_of_digits (j := 0) ?_ ?_
        · rw [Numeral.digits, List.take_append_drop, Nat.pow_zero, Nat.one_mul]
        · rw [Numeral.scale, List.length_drop]
          dsimp only
          omega
      · rw [Numeral.body, Numeral.fractionChars_cons hfraction, Numeral.exponentChars,
          List.append_nil]

theorem ofDigitChars_padLeft (n : Nat) (ds : List Char) :
    Nat.ofDigitChars 10 (padLeft n ds) 0 = Nat.ofDigitChars 10 ds 0 := by
  rw [padLeft, Nat.ofDigitChars_append, Nat.ofDigitChars_replicate_zero, Nat.mul_zero]

theorem isDigit_padLeft {n : Nat} {ds : List Char} (h : ∀ c ∈ ds, c.isDigit = true) :
    ∀ c ∈ padLeft n ds, c.isDigit = true :=
  fun c hc => (List.mem_append.mp hc).elim (isDigit_zeros c) (h c)

/-- Notation with an exponent. -/
theorem scientific_spelled (l : Layout) (h : Digits d.digits) (negative : Bool) :
    ∃ x : Numeral, Spells x negative d ∧ x.body = l.scientific d := by
  obtain ⟨hdigits, c, rest, hcons, hc⟩ := h
  have hexponent : ∀ c ∈ Nat.toDigits 10 d.exponent.natAbs, c.isDigit = true := fun c hc =>
    Nat.isDigit_of_mem_toDigits (by norm_num) (by norm_num) hc
  refine ⟨⟨negative, [c], rest, some (decide (d.exponent < 0),
      padLeft l.exponentDigits (Nat.toDigits 10 d.exponent.natAbs))⟩,
    ⟨⟨⟨c, [], rfl, fun _ => rfl⟩, fun a ha => ?_, fun a ha => ?_, fun p hp => ?_⟩, rfl, ?_,
      .inr (by simp)⟩, ?_⟩
  · obtain rfl := List.mem_singleton.mp ha
    exact hdigits a (hcons ▸ List.mem_cons_self)
  · exact hdigits a (hcons ▸ List.mem_cons_of_mem c ha)
  · obtain rfl := Option.some.inj hp
    refine ⟨?_, isDigit_padLeft hexponent⟩
    simp [padLeft]
  · refine value_of_digits (j := 0) ?_ ?_
    · rw [Numeral.digits, hcons, Nat.pow_zero, Nat.one_mul]
      rfl
    · rw [Numeral.scale]
      simp only [ofDigitChars_padLeft, Nat.ofDigitChars_ten_toDigits, decide_eq_true_eq, hcons,
        List.length_cons]
      split <;> omega
  · rw [Numeral.body, Numeral.exponentChars, scientific, hcons]
    cases rest with
    | nil => by_cases hneg : d.exponent < 0 <;> simp [Numeral.fractionChars, hneg]
    | cons a rest => by_cases hneg : d.exponent < 0 <;> simp [Numeral.fractionChars, hneg]

/-- **A finite double is written as a numeral that is read as the double.** -/
theorem text_numeral {l : Layout} (hl : l.keepPoint = true) (hz : l.signedZero = true)
    (n : Bool) (e : Fin 2047) (f : Fin 4503599627370496) : ∃ x : Numeral, x.Proper ∧
      (x.fraction ≠ [] ∨ x.exponent ≠ none) ∧ x.chars = l.text (.finite n e f) ∧
      Binary64.ofDecimal x.negative x.digits x.scale = .finite n e f := by
  rw [text]
  dsimp only
  cases hzero : Binary64.isZero (.finite n e f) with
  | true =>
      simp only [Binary64.isZero, Bool.and_eq_true, beq_iff_eq] at hzero
      obtain ⟨he, hf⟩ := hzero
      obtain rfl : e = 0 := Fin.ext he
      obtain rfl : f = 0 := Fin.ext hf
      refine ⟨⟨n, ['0'], ['0'], none⟩, ⟨⟨'0', [], rfl, fun _ => rfl⟩, by simp, by simp,
        fun p hp => by cases hp⟩, .inl (List.cons_ne_nil _ _), ?_, ?_⟩
      · rw [hl, hz, Numeral.chars]
        cases n <;> rfl
      · exact if_pos rfl
  | false =>
      have hpos : 0 < Binary64.significand e f := by
        simp only [Binary64.isZero, Bool.and_eq_false_iff, beq_eq_false_iff_ne] at hzero
        rw [Binary64.significand]
        split
        · omega
        · exact Nat.add_pos_left (Nat.two_pow_pos 52) _
      have hspelled : ∃ x : Numeral, Spells x n (Binary64.shortest e f) ∧
          x.body = if l.positionalFrom ≤ (Binary64.shortest e f).exponent ∧
              (Binary64.shortest e f).exponent < l.positionalBelow then l.positional (Binary64.shortest e f)
            else l.scientific (Binary64.shortest e f) := by
        split
        · exact positional_spelled hl (Binary64.shortest_digits hpos) n
        · exact scientific_spelled l (Binary64.shortest_digits hpos) n
      obtain ⟨x, ⟨hproper, rfl, hvalue, hbroken⟩, hbody⟩ := hspelled
      refine ⟨x, hproper, hbroken, ?_, Binary64.ofDecimal_of_rounds x.negative
        (Binary64.shortest_rounds hpos) hpos hvalue.symm⟩
      rw [Numeral.chars, hbody]
      rfl

end Layout

end StoryServer
