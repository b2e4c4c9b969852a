import StoryServer.Json.Printer
import StoryServer.Json.Reader
import StoryServer.Proofs.Number.Numeral

/-!
# Reading what was written: texts and numbers

The parts of a JSON text that hold no other values.  What a style writes for a text or a number
is read as the same, whatever comes after it; a number needs an end, which in a JSON text is a
comma, a closing bracket or the end of the text (`Closes`).

Where a rest stands in the whole matters to complaints only, so the statements leave the
position after a token open.
-/

namespace StoryServer

namespace Json

/-! ## Escapes -/

theorem hexDigit?_digitChar {n : Nat} (h : n < 16) : hexDigit? n.digitChar = some n := by
  revert n
  decide

theorem hex_digits {n : Nat} (h : n < 65536) : Text.hex 4 n =
    [(n / 4096).digitChar, (n / 256 % 16).digitChar, (n / 16 % 16).digitChar, (n % 16).digitChar] := by
  have hstep : ∀ k, Nat.toDigits 16 k =
      if k < 16 then [k.digitChar] else Nat.toDigits 16 (k / 16) ++ [(k % 16).digitChar] :=
    fun k => Nat.toDigits_eq_if (by norm_num)
  have hzero : '0' = Nat.digitChar 0 := rfl
  rw [Text.hex, hstep n]
  split
  · rw [show n / 4096 = 0 by omega, show n / 256 % 16 = 0 by omega, show n / 16 % 16 = 0 by omega,
      show n % 16 = n by omega]
    rfl
  · rw [hstep (n / 16)]
    split
    · rw [show n / 4096 = 0 by omega, show n / 256 % 16 = 0 by omega, show n / 16 % 16 = n / 16 by omega]
      rfl
    · rw [hstep (n / 16 / 16)]
      split
      · rw [show n / 4096 = 0 by omega, show n / 256 % 16 = n / 16 / 16 by omega]
        rfl
      · rw [hstep (n / 16 / 16 / 16), if_pos (by omega), show n / 16 / 16 / 16 = n / 4096 by omega,
          show n / 16 / 16 % 16 = n / 256 % 16 by omega]
        rfl

theorem hex4?_hex {n : Nat} (h : n < 65536) (c : Char) (rest : List Char) :
    hex4? (Text.hex 4 n ++ c :: rest) = some n := by
  rw [hex_digits h]
  simp only [List.cons_append, List.nil_append, hex4?, hexDigit?_digitChar (show n / 4096 < 16 by omega),
    hexDigit?_digitChar (show n / 256 % 16 < 16 by omega),
    hexDigit?_digitChar (show n / 16 % 16 < 16 by omega),
    hexDigit?_digitChar (show n % 16 < 16 by omega), Option.pure_def, Option.bind_eq_bind,
    Option.bind_some, Option.some.injEq]
  omega

theorem drop_hex {n : Nat} (h : n < 65536) (rest : List Char) :
    (Text.hex 4 n ++ rest).drop 4 = rest := by
  rw [hex_digits h]
  rfl

/-! ## Texts -/

section Texts

variable {start fuel pos : Nat} {acc : List Char}

theorem toNat_valid (c : Char) : c.toNat < 0xD800 ∨ 0xDFFF < c.toNat ∧ c.toNat < 0x110000 := c.valid

/-- An escape of a character on the basic plane. -/
theorem stringFrom_unicode {c : Char} (h : c.toNat < 0x10000) (d : Char) (rest : List Char) :
    stringFrom start (fuel + 1) (unicodeEscape c.toNat ++ d :: rest) pos acc =
      stringFrom start fuel (d :: rest) (pos + 6) (c :: acc) := by
  have hvalid := toNat_valid c
  rw [unicodeEscape, List.cons_append, List.cons_append, stringFrom, hex4?_hex h, drop_hex h]
  dsimp only
  rw [if_neg (by omega), if_neg (by omega), Char.ofNat_toNat]

/-- A character beyond it is written in two halves. -/
theorem utf16Escape_pair {n : Nat} (h : ¬ n < 0x10000) (hn : n < 0x110000) : ∃ high low,
    (0xD800 ≤ high ∧ high ≤ 0xDBFF) ∧ (0xDC00 ≤ low ∧ low ≤ 0xDFFF) ∧
    0x10000 + (high - 0xD800) * 0x400 + (low - 0xDC00) = n ∧
    utf16Escape n = unicodeEscape high ++ unicodeEscape low := by
  refine ⟨0xD800 + (n - 0x10000) / 0x400, 0xDC00 + (n - 0x10000) % 0x400, ?_, ?_, ?_, if_neg h⟩ <;> omega

theorem lowSurrogate?_escape {low : Nat} (h : 0xDC00 ≤ low ∧ low ≤ 0xDFFF) (d : Char)
    (rest : List Char) : lowSurrogate? (unicodeEscape low ++ d :: rest) = some (some low) := by
  have hlow : low < 65536 := by omega
  have hlength : ¬ (Text.hex 4 low ++ d :: rest).length < 5 := by
    rw [hex_digits hlow]
    simp
  rw [unicodeEscape, List.cons_append, List.cons_append, lowSurrogate?, if_neg hlength,
    hex4?_hex hlow]
  dsimp only
  rw [if_pos h]

theorem stringFrom_pair {high low : Nat} (hhigh : 0xD800 ≤ high ∧ high ≤ 0xDBFF)
    (hlow : 0xDC00 ≤ low ∧ low ≤ 0xDFFF) (d : Char) (rest : List Char) :
    stringFrom start (fuel + 1) (unicodeEscape high ++ (unicodeEscape low ++ d :: rest)) pos acc =
      stringFrom start fuel (d :: rest) (pos + 12)
        (Char.ofNat (0x10000 + (high - 0xD800) * 0x400 + (low - 0xDC00)) :: acc) := by
  have hhigh' : high < 65536 := by omega
  have hlow' : low < 65536 := by omega
  have hread : hex4? (Text.hex 4 high ++ (unicodeEscape low ++ d :: rest)) = some high :=
    hex4?_hex hhigh' '\\' _
  have hafter : (Text.hex 4 high ++ (unicodeEscape low ++ d :: rest)).drop 10 = d :: rest := by
    rw [hex_digits hhigh', unicodeEscape, hex_digits hlow']
    rfl
  rw [unicodeEscape, List.cons_append, List.cons_append, stringFrom, hread]
  dsimp only
  rw [if_pos hhigh, drop_hex hhigh', lowSurrogate?_escape hlow]
  dsimp only
  rw [hafter]

/-- A character that stands for itself. -/
theorem stringFrom_plain {c : Char} (hquote : c ≠ '"') (hescape : c ≠ '\\') (h : 0x20 ≤ c.toNat)
    (rest : List Char) : stringFrom start (fuel + 1) (c :: rest) pos acc =
      stringFrom start fuel rest (pos + 1) (c :: acc) := by
  rw [stringFrom]
  · exact if_neg (by omega)
  · exact hquote
  · exact fun heq _ => hescape heq
  · exact fun _ heq _ => hescape heq
  · exact fun _ _ heq _ => hescape heq

/-- A written character is read in one step. -/
theorem stringFrom_charText (asciiOnly : Bool) (c d : Char) (rest : List Char)
    (start fuel pos : Nat) (acc : List Char) : ∃ p,
    stringFrom start (fuel + 1) (charText asciiOnly c ++ d :: rest) pos acc =
      stringFrom start fuel (d :: rest) p (c :: acc) := by
  unfold charText
  split
  · exact ⟨_, rfl⟩
  · exact ⟨_, rfl⟩
  · exact ⟨_, rfl⟩
  · exact ⟨_, rfl⟩
  · exact ⟨_, rfl⟩
  · exact ⟨_, rfl⟩
  · exact ⟨_, rfl⟩
  · next hquote hescape _ _ _ _ _ =>
    split
    · exact ⟨_, stringFrom_unicode (by omega) d rest⟩
    · split
      · by_cases hplane : c.toNat < 0x10000
        · rw [utf16Escape, if_pos hplane]
          exact ⟨_, stringFrom_unicode hplane d rest⟩
        · have hvalid := toNat_valid c
          obtain ⟨high, low, hhigh, hlow, hc, hpair⟩ := utf16Escape_pair hplane (by omega)
          rw [hpair, List.append_assoc, stringFrom_pair hhigh hlow, hc, Char.ofNat_toNat]
          exact ⟨_, rfl⟩
      · exact ⟨_, stringFrom_plain hquote hescape (by omega) _⟩

theorem stringFrom_chars (asciiOnly : Bool) (tail : List Char) (start : Nat) : ∀ (s : List Char)
    (fuel pos : Nat) (acc : List Char), s.length < fuel → ∃ p,
    stringFrom start fuel (s.flatMap (charText asciiOnly) ++ '"' :: tail) pos acc =
      .ok (String.ofList (acc.reverse ++ s), ⟨tail, p⟩)
  | [], fuel + 1, pos, acc, _ => ⟨pos + 1, by rw [List.append_nil]; rfl⟩
  | c :: s, fuel + 1, pos, acc, h => by
      obtain ⟨d, rest, hrest⟩ : ∃ d rest, s.flatMap (charText asciiOnly) ++ '"' :: tail = d :: rest :=
        List.exists_cons_of_ne_nil (by simp)
      obtain ⟨p, hp⟩ := stringFrom_charText asciiOnly c d rest start fuel pos acc
      obtain ⟨p', hp'⟩ :=
        stringFrom_chars asciiOnly tail start s fuel p (c :: acc) (Nat.lt_of_succ_lt_succ h)
      refine ⟨p', ?_⟩
      rw [List.flatMap_cons, List.append_assoc, hrest, hp, ← hrest, hp', List.reverse_cons,
        List.append_assoc, List.singleton_append]

theorem charText_ne_nil (asciiOnly : Bool) (c : Char) : charText asciiOnly c ≠ [] := by
  unfold charText
  split
  · exact List.cons_ne_nil _ _
  · exact List.cons_ne_nil _ _
  · exact List.cons_ne_nil _ _
  · exact List.cons_ne_nil _ _
  · exact List.cons_ne_nil _ _
  · exact List.cons_ne_nil _ _
  · exact List.cons_ne_nil _ _
  · split
    · exact List.cons_ne_nil _ _
    · split
      · unfold utf16Escape
        split <;> exact List.cons_ne_nil _ _
      · exact List.cons_ne_nil _ _

theorem length_le_written (asciiOnly : Bool) : ∀ s : List Char,
    s.length ≤ (s.flatMap (charText asciiOnly)).length
  | [] => Nat.le_refl 0
  | c :: s => by
      have hc := List.length_pos_iff.mpr (charText_ne_nil asciiOnly c)
      have hs := length_le_written asciiOnly s
      rw [List.flatMap_cons, List.length_append, List.length_cons]
      omega

/-- **A written text is read back.** -/
theorem readString_stringChars (asciiOnly : Bool) (s : String) (tail : List Char) (pos : Nat) :
    ∃ p, readString (Rest.drop ⟨stringChars asciiOnly s ++ tail, pos⟩ 1) = .ok (s, ⟨tail, p⟩) := by
  have hfuel : s.toList.length <
      (s.toList.flatMap (charText asciiOnly) ++ '"' :: tail).length + 1 := by
    have hwritten := length_le_written asciiOnly s.toList
    rw [List.length_append]
    omega
  obtain ⟨p, hp⟩ := stringFrom_chars asciiOnly tail (pos + 1 - 1) s.toList _ (pos + 1) [] hfuel
  refine ⟨p, ?_⟩
  rw [List.reverse_nil, List.nil_append, String.ofList_toList] at hp
  rw [readString, stringChars, List.cons_append, List.append_assoc, List.singleton_append]
  exact hp

end Texts

/-! ## Numbers -/

theorem Rest.drop_written (s tail : List Char) (pos : Nat) :
    Rest.drop ⟨s ++ tail, pos⟩ s.length = ⟨tail, pos + s.length⟩ := by
  rw [Rest.drop, List.drop_left]

section Numbers

variable {x : Numeral} {tail : List Char}

/-- Where a number ends: before what closes an item or a member, or at the end. -/
def Closes (tail : List Char) : Prop := ∀ c ∈ tail.head?, c = ',' ∨ c = ']' ∨ c = '}'

theorem closes_nil : Closes [] := fun _ h => nomatch h

theorem closes_cons {c : Char} (h : c = ',' ∨ c = ']' ∨ c = '}') (rest : List Char) :
    Closes (c :: rest) := by
  intro d hd
  obtain rfl := Option.some.inj hd
  exact h

/-- Digits are taken up to something else. -/
theorem takeWhile_digits {ds rest : List Char} (hds : ∀ c ∈ ds, c.isDigit = true)
    (hrest : ∀ c ∈ rest.head?, c.isDigit = false) : (ds ++ rest).takeWhile isAsciiDigit = ds := by
  have hstop : rest.takeWhile isAsciiDigit = [] := by
    cases rest with
    | nil => rfl
    | cons c more =>
        have hc : isAsciiDigit c = false := hrest c rfl
        rw [List.takeWhile_cons, hc]
        rfl
  have hds : ∀ c ∈ ds, isAsciiDigit c = true := hds
  rw [List.takeWhile_append_of_pos hds, hstop, List.append_nil]

theorem Closes.not_digit (h : Closes tail) : ∀ c ∈ tail.head?, c.isDigit = false := by
  intro c hc
  rcases h c hc with rfl | rfl | rfl <;> rfl

theorem exponentPart_closes (h : Closes tail) : exponentPart tail = [] := by
  cases tail with
  | nil => rfl
  | cons c rest => rcases h c rfl with rfl | rfl | rfl <;> rfl

theorem exponentPart_numeral (h : x.Proper) (ht : Closes tail) :
    exponentPart (x.exponentChars ++ tail) = x.exponentChars := by
  rw [Numeral.exponentChars]
  cases hx : x.exponent with
  | none => exact exponentPart_closes ht
  | some p =>
      obtain ⟨negative, ds⟩ := p
      obtain ⟨hne, hds⟩ := h.exponentDigits _ hx
      have htake : (ds ++ tail).takeWhile isAsciiDigit = ds := takeWhile_digits hds ht.not_digit
      obtain ⟨d, rest, rfl⟩ := List.exists_cons_of_ne_nil hne
      rw [List.cons_append] at htake
      cases negative <;> simp [exponentPart, htake]

theorem exponentChars_not_digit (ht : Closes tail) :
    ∀ c ∈ (x.exponentChars ++ tail).head?, c.isDigit = false := by
  rw [Numeral.exponentChars]
  cases x.exponent with
  | none => exact ht.not_digit
  | some p =>
      intro c hc
      obtain rfl := Option.some.inj hc
      rfl

theorem fractionPart_numeral (h : x.Proper) (ht : Closes tail) :
    fractionPart (x.fractionChars ++ (x.exponentChars ++ tail)) = x.fractionChars := by
  by_cases hf : x.fraction = []
  · rw [Numeral.fractionChars_nil hf, Numeral.exponentChars]
    cases x.exponent with
    | none =>
        cases tail with
        | nil => rfl
        | cons c rest => rcases ht c rfl with rfl | rfl | rfl <;> rfl
    | some p => rfl
  · have htake := takeWhile_digits h.fractionDigits (exponentChars_not_digit (x := x) ht)
    rw [Numeral.fractionChars_cons hf, List.cons_append, fractionPart, htake]
    split
    · next hnil => exact absurd hnil hf
    · rfl

theorem wholePart_numeral (h : x.Proper) (ht : Closes tail) : wholePart (x.body ++ tail) = x.whole := by
  have hstop : ∀ c ∈ (x.fractionChars ++ (x.exponentChars ++ tail)).head?, c.isDigit = false := by
    by_cases hf : x.fraction = []
    · rw [Numeral.fractionChars_nil hf]
      exact exponentChars_not_digit ht
    · rw [Numeral.fractionChars_cons hf]
      intro c hc
      obtain rfl := Option.some.inj hc
      rfl
  obtain ⟨c, rest, hwhole, hzero⟩ := h.whole
  have htake := takeWhile_digits h.wholeDigits hstop
  rw [Numeral.body, List.append_assoc, List.append_assoc, hwhole, List.cons_append]
  rw [hwhole, List.cons_append] at htake
  by_cases hc : c = '0'
  · obtain rfl := hc
    rw [hzero rfl, wholePart]
  · rw [wholePart]
    · exact htake
    · exact fun _ heq => hc (List.cons.inj heq).1

/-- The sign stands apart. -/
theorem signed_numeral (h : x.Proper) (tail : List Char) :
    (match x.chars ++ tail with
      | '-' :: rest => (['-'], rest)
      | s => ([], s)) = (if x.negative then ['-'] else [], x.body ++ tail) := by
  rw [Numeral.chars]
  cases x.negative with
  | true => rfl
  | false =>
      obtain ⟨c, rest, hwhole, -⟩ := h.whole
      have hc : c ≠ '-' := by
        rintro rfl
        cases h.wholeDigits '-' (hwhole ▸ List.mem_cons_self)
      rw [if_neg Bool.false_ne_true, List.nil_append]
      split
      · next heq =>
        rw [Numeral.body, hwhole] at heq
        exact absurd (List.cons.inj heq).1 hc
      · rfl

/-- **A numeral before what closes it is read**: as a whole number when it is nothing but
digits, otherwise as a double. -/
theorem readNumber_numeral (h : x.Proper) (ht : Closes tail) (pos : Nat) :
    readNumber .lenient ⟨x.chars ++ tail, pos⟩ =
      if x.fraction = [] ∧ x.exponent = none then
        if x.whole.length > digitLimit then .error (.number (.tooManyDigits x.whole.length))
        else .ok (.int (wholeNumber x.negative x.whole), ⟨tail, pos + x.chars.length⟩)
      else .ok (.float (Binary64.ofDecimal x.negative x.digits x.scale), ⟨tail, pos + x.chars.length⟩) := by
  obtain ⟨first, more, hwhole, -⟩ := h.whole
  have hbody : x.body ++ tail = x.whole ++ (x.fractionChars ++ (x.exponentChars ++ tail)) := by
    rw [Numeral.body, List.append_assoc, List.append_assoc]
  have hchars : (if x.negative then ['-'] else []) ++ x.whole ++ x.fractionChars ++ x.exponentChars =
      x.chars := by
    rw [Numeral.chars, Numeral.body, List.append_assoc, List.append_assoc]
  have hshape : (x.fractionChars.isEmpty && x.exponentChars.isEmpty) =
      decide (x.fraction = [] ∧ x.exponent = none) := by
    rw [Numeral.fractionChars, Numeral.exponentChars]
    cases x.fraction <;> cases x.exponent <;> rfl
  have hminus : (!(if x.negative then ['-'] else []).isEmpty) = x.negative := by
    cases x.negative <;> rfl
  unfold readNumber
  split
  next minus body heq =>
  obtain ⟨rfl, rfl⟩ := Prod.mk.inj ((signed_numeral h tail).symm.trans heq)
  rw [wholePart_numeral h ht]
  split
  · next hnil => cases hwhole.symm.trans hnil
  · dsimp only
    rw [hbody, List.drop_left, fractionPart_numeral h ht, List.drop_left, exponentPart_numeral h ht,
      hchars, Number.readDouble_numeral h, Rest.drop_written, hshape, hminus]
    simp only [decide_eq_true_eq, Dialect.lenient, Bool.true_and]

/-- A whole number as a numeral. -/
def ofWhole (n : Int) : Numeral := ⟨decide (n < 0), Nat.toDigits 10 n.natAbs, [], none⟩

theorem ofWhole_proper (n : Int) : (ofWhole n).Proper where
  whole := by
    obtain ⟨c, rest, hwhole⟩ := List.exists_cons_of_ne_nil (Nat.toDigits_ne_nil (b := 10) (n := n.natAbs))
    refine ⟨c, rest, hwhole, fun hc => ?_⟩
    obtain rfl := hc
    rcases Nat.eq_zero_or_pos n.natAbs with hzero | hpos
    · rw [hzero] at hwhole
      exact ((List.cons.inj hwhole).2).symm
    · exact absurd hwhole (Binary64.head_toDigits hpos rest)
  wholeDigits c hc := Nat.isDigit_of_mem_toDigits (by norm_num) (by norm_num) hc
  fractionDigits c hc := nomatch hc
  exponentDigits p hp := nomatch hp

theorem chars_ofWhole (n : Int) : (ofWhole n).chars = intChars n := by
  by_cases hn : n < 0 <;>
    simp [ofWhole, Numeral.chars, Numeral.body, Numeral.fractionChars, Numeral.exponentChars, intChars, hn]

theorem wholeNumber_digits (n : Int) : wholeNumber (decide (n < 0)) (Nat.toDigits 10 n.natAbs) = n := by
  have hvalue : Number.ofDigits ((Nat.toDigits 10 n.natAbs).map fun c => c.toNat - 48) = n.natAbs := by
    rw [Number.ofDigits_map, Nat.ofDigitChars_ten_toDigits]
  rw [wholeNumber, hvalue]
  simp only [decide_eq_true_eq]
  split <;> omega

/-- **A written whole number is read back**, unless it is too long to be read. -/
theorem readNumber_int {n : Int} (hn : (Nat.toDigits 10 n.natAbs).length ≤ digitLimit)
    (ht : Closes tail) (pos : Nat) : ∃ p,
    readNumber .lenient ⟨intChars n ++ tail, pos⟩ = .ok (.int n, ⟨tail, p⟩) := by
  have hn : ¬ (ofWhole n).whole.length > digitLimit := Nat.not_lt.mpr hn
  have hvalue : wholeNumber (ofWhole n).negative (ofWhole n).whole = n := wholeNumber_digits n
  have hread := readNumber_numeral (ofWhole_proper n) ht pos
  rw [if_pos ⟨rfl, rfl⟩, if_neg hn, hvalue, chars_ofWhole] at hread
  exact ⟨_, hread⟩

/-- **A written double is read back.** -/
theorem readNumber_float (n : Bool) (e : Fin 2047) (f : Fin 4503599627370496) (ht : Closes tail)
    (pos : Nat) : ∃ p, readNumber .lenient ⟨floatLayout.text (.finite n e f) ++ tail, pos⟩ =
      .ok (.float (.finite n e f), ⟨tail, p⟩) := by
  obtain ⟨x, hproper, hbroken, hchars, hvalue⟩ :=
    Layout.text_numeral (l := floatLayout) rfl rfl n e f
  have hread := readNumber_numeral hproper ht pos
  rw [if_neg (fun h => hbroken.elim (absurd h.1) (absurd h.2)), hvalue, hchars] at hread
  exact ⟨_, hread⟩

/-- A numeral is no word. -/
theorem word?_numeral (h : x.Proper) (tail : List Char) (pos : Nat) :
    word? .lenient ⟨x.chars ++ tail, pos⟩ = none := by
  obtain ⟨c, rest, hwhole, -⟩ := h.whole
  have hc : ∀ d : Char, d.isDigit = false → (d == c) = false := by
    intro d hd
    refine beq_eq_false_iff_ne.mpr fun heq => ?_
    rw [heq, h.wholeDigits c (hwhole ▸ List.mem_cons_self)] at hd
    cases hd
  rw [Numeral.chars, Numeral.body, hwhole]
  cases x.negative <;>
    simp [word?, words, Dialect.lenient, standardWords, nonFiniteWords, List.isPrefixOf, hc]

end Numbers

end Json

end StoryServer
