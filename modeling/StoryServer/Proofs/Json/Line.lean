import StoryServer.Fault
import StoryServer.Json.Spelled
import StoryServer.Proofs.Json.Token

/-!
# A value on one line

JSON text has no control characters but those of its separators: in texts they are escaped, and
numbers have none.  So a value that is written between two line feeds is one line.
-/

namespace StoryServer

namespace Json

open Number

/-- A text without control characters. -/
def Printed (s : List Char) : Prop := ∀ c ∈ s, 0x20 ≤ c.toNat

instance (s : List Char) : Decidable (Printed s) := List.decidableBAll _ s

theorem Printed.append {s t : List Char} (hs : Printed s) (ht : Printed t) : Printed (s ++ t) :=
  List.forall_mem_append.mpr ⟨hs, ht⟩

theorem Printed.cons {c : Char} {s : List Char} (hc : 0x20 ≤ c.toNat) (hs : Printed s) :
    Printed (c :: s) := List.forall_mem_cons.mpr ⟨hc, hs⟩

theorem printed_nil : Printed [] := nofun

/-- A text without control characters has no line feed, so that it does not end a line. -/
theorem Printed.no_lineFeed {s : List Char} (h : Printed s) : '\n' ∉ s := fun hmem =>
  absurd (h '\n' hmem) (by decide)

theorem Printed.no_carriageReturn {s : List Char} (h : Printed s) : '\r' ∉ s := fun hmem =>
  absurd (h '\r' hmem) (by decide)

/-! ## Texts -/

theorem printed_unicodeEscape {n : Nat} (h : n < 0x10000) : Printed (unicodeEscape n) := by
  have hdigit : ∀ {k : Nat}, k < 16 → 0x20 ≤ k.digitChar.toNat := by decide
  rw [unicodeEscape, hex_digits h]
  exact .cons (by decide) (.cons (by decide) (.cons (hdigit (by omega)) (.cons (hdigit (by omega))
    (.cons (hdigit (by omega)) (.cons (hdigit (by omega)) printed_nil)))))

/-- A character beyond the first plane is escaped as two halves. -/
theorem printed_utf16Escape (c : Char) : Printed (utf16Escape c.toNat) := by
  by_cases h : c.toNat < 0x10000
  · rw [utf16Escape, if_pos h]
    exact printed_unicodeEscape h
  · have hvalid := toNat_valid c
    obtain ⟨high, low, hhigh, hlow, -, hpair⟩ := utf16Escape_pair h (by omega)
    rw [hpair]
    exact (printed_unicodeEscape (by omega)).append (printed_unicodeEscape (by omega))

/-- Control characters are escaped, whether or not all others are kept. -/
theorem printed_charText (asciiOnly : Bool) (c : Char) : Printed (charText asciiOnly c) := by
  unfold charText
  split
  -- the characters that have an escape of their own
  any_goals decide
  split
  · exact printed_unicodeEscape (by omega)
  · split
    · exact printed_utf16Escape c
    · exact .cons (by omega) printed_nil

/-- A quoted text has no control characters, whatever the text has. -/
theorem printed_stringChars (asciiOnly : Bool) (s : String) : Printed (stringChars asciiOnly s) := by
  refine .cons (by decide) (.append (fun c hc => ?_) (.cons (by decide) printed_nil))
  obtain ⟨d, -, hd⟩ := List.mem_flatMap.mp hc
  exact printed_charText asciiOnly d c hd

/-! ## Numbers -/

/-- A numeral has only digits and the marks of a number. -/
theorem printed_numeral {x : Numeral} (h : x.Proper) : Printed x.chars := by
  intro c hc
  rcases mem_chars h hc with hdigit | hmark
  · have := digit_toNat hdigit
    omega
  · have hmarks : Printed ['-', '+', '.', 'e'] := by decide
    exact hmarks c hmark

theorem printed_of_digits {ds : List Char} (h : ∀ c ∈ ds, c.isDigit = true) : Printed ds := by
  intro c hc
  have := digit_toNat (h c hc)
  omega

theorem printed_toDigits (n : Nat) : Printed (Nat.toDigits 10 n) :=
  printed_of_digits fun _ hc => Nat.isDigit_of_mem_toDigits (by norm_num) (by norm_num) hc

theorem printed_zeros (n : Nat) : Printed (List.replicate n '0') := printed_of_digits Layout.isDigit_zeros

theorem printed_padLeft (n : Nat) {ds : List Char} (h : Printed ds) : Printed (Layout.padLeft n ds) :=
  (printed_zeros _).append h

/-- The digits of a double are decimal digits, of which some zeros are dropped. -/
theorem printed_shortest (e : Fin 2047) (f : Fin 4503599627370496) :
    Printed (Binary64.shortest e f).digits := by
  intro c hc
  rw [Binary64.shortest] at hc
  dsimp only at hc
  rw [Binary64.dropTrailingZeros, List.mem_reverse] at hc
  exact printed_toDigits _ c (List.mem_reverse.mp ((List.dropWhile_sublist _).subset hc))

/-- A number that is written out: its digits, with zeros and a point where needed. -/
theorem printed_positional (l : Layout) {d : Decimal} (h : Printed d.digits) :
    Printed (l.positional d) := by
  have hpoint : Printed (if l.keepPoint then ['.', '0'] else []) := by
    split <;> decide
  rw [Layout.positional]
  dsimp only
  split
  · exact .cons (by decide) (.cons (by decide) ((printed_zeros _).append h))
  · split
    · exact (h.append (printed_zeros _)).append hpoint
    · exact .append (fun c hc => h c (List.mem_of_mem_take hc))
        (.cons (by decide) fun c hc => h c (List.mem_of_mem_drop hc))

/-- A number with an exponent: a digit, the others behind a point, and the exponent. -/
theorem printed_scientific (l : Layout) {d : Decimal} (h : Printed d.digits) :
    Printed (l.scientific d) := by
  refine .append ?_ (.cons (by decide) (.cons ?_ (printed_padLeft _ (printed_toDigits _))))
  · split
    · decide
    · rename_i c hd
      exact hd ▸ h
    · rename_i c rest _ hd
      obtain ⟨hc, hrest⟩ := List.forall_mem_cons.mp (hd ▸ h)
      exact .cons hc (.cons (by decide) hrest)
  · split <;> decide

/-- A layout whose words have no control characters. -/
structure Plain (l : Layout) : Prop where
  nan : Printed l.nan.toList
  infinity : Printed l.infinity.toList
  negativeInfinity : Printed l.negativeInfinity.toList

/-- A double is one of the words of its layout, or is written out, or has an exponent. -/
theorem printed_double {l : Layout} (hl : Plain l) (x : Binary64) : Printed (l.text x) := by
  have hsign : ∀ signed : Bool, Printed (if signed then ['-'] else []) := by decide
  cases x with
  | nan => exact hl.nan
  | infinite negative =>
      cases negative with
      | true => exact hl.negativeInfinity
      | false => exact hl.infinity
  | finite negative e f =>
      have hdigits := printed_shortest e f
      rw [Layout.text]
      split
      · refine (hsign _).append (.cons (by decide) ?_)
        split <;> decide
      · refine (hsign _).append ?_
        split
        · exact printed_positional l hdigits
        · exact printed_scientific l hdigits

/-! ## Values -/

/-- A style whose separators and words have no control characters. -/
structure Flat (style : JsonStyle) : Prop where
  items : Printed style.itemSeparator.toList
  keys : Printed style.keySeparator.toList
  doubles : Plain style.layout

theorem floatLayout_plain : Plain floatLayout := ⟨by decide, by decide, by decide⟩

/-- The style of saved states and of commands is flat. -/
theorem ascii_flat : Flat .ascii where
  items := by decide
  keys := by decide
  doubles := floatLayout_plain

theorem spaced_flat : Flat .spaced where
  items := by decide
  keys := by decide
  doubles := floatLayout_plain

theorem terse_flat : Flat terse where
  items := by decide
  keys := by decide
  doubles := ⟨by decide, by decide, by decide⟩

/-- Parts without control characters, joined by a separator without any. -/
theorem printed_joinChars {sep : List Char} (hsep : Printed sep) : ∀ {parts : List (List Char)},
    (∀ s ∈ parts, Printed s) → Printed (joinChars sep parts)
  | [], _ => printed_nil
  | [s], h => h s List.mem_cons_self
  | s :: t :: rest, h => by
      obtain ⟨hs, hrest⟩ := List.forall_mem_cons.mp h
      exact (hs.append hsep).append (printed_joinChars hsep hrest)

/-- What is written has no control characters. -/
theorem printed_chars {style : JsonStyle} (hs : Flat style) (v : Json) : Printed (chars style v) := by
  induction v using byParts with
  | null => exact (by decide : Printed "null".toList)
  | bool b =>
      cases b with
      | true => exact (by decide : Printed "true".toList)
      | false => exact (by decide : Printed "false".toList)
  | int n =>
      rw [chars, ← chars_ofWhole]
      exact printed_numeral (ofWhole_proper n)
  | float x =>
      rw [chars]
      exact printed_double hs.doubles x
  | str s => exact printed_stringChars _ s
  | arr items ih =>
      rw [chars, itemsChars_eq]
      refine .cons (by decide) (.append (printed_joinChars hs.items fun s h => ?_)
        (.cons (by decide) printed_nil))
      obtain ⟨v, hv, rfl⟩ := List.mem_map.mp h
      exact ih v hv
  | obj fields ih =>
      rw [chars, fieldsChars_eq]
      refine .cons (by decide) (.append (printed_joinChars hs.items fun s h => ?_)
        (.cons (by decide) printed_nil))
      -- sorted or not, the members are those that were written
      obtain ⟨q, hq, rfl⟩ := List.mem_map.mp h
      have hwritten : q ∈ fields.map fun p => (p.1, memberChars style p) := by
        split at hq
        · exact (List.mergeSort_perm _ _).mem_iff.mp hq
        · exact hq
      obtain ⟨p, hp, rfl⟩ := List.mem_map.mp hwritten
      exact ((printed_stringChars _ p.1).append hs.keys).append (ih p hp)

end Json

/-- What is written is one line. -/
theorem no_lineFeed_of_writeJson {style : JsonStyle} (hs : Json.Flat style) {v : Json} {text : String}
    (h : writeJson style v = .ok text) : '\n' ∉ text.toList := by
  rw [(writeJson_eq_ok.mp h).2, Json.text, String.toList_ofList]
  exact (Json.printed_chars hs v).no_lineFeed

end StoryServer
