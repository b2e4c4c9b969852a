import StoryServer.Proofs.Json.RoundTrip

/-!
# Texts by the letter of the standard

`Standard` is the grammar of RFC 8259, and no reader stands behind it.  What is written of a value
is a text of the grammar exactly if all doubles in the value are finite (`standard_chars_iff`).

*Finite values.*  The text of a value follows the grammar part by part (`derives_chars`).

*Other values.*  The words for doubles that are not finite begin with `N` or `I`, behind a minus or
not.  In a text of the grammar neither letter stands outside the strings (`clean_derives`), and
what is written of a value holds one of them there if a double in the value is not finite
(`clean_chars`).
-/

namespace StoryServer

namespace Json

/-! ## The grammar -/

namespace Grammar

/-- White space. -/
def Blank (s : List Char) : Prop := ∀ c ∈ s, c ∈ [' ', '\t', '\n', '\r']

/-- A character of a string, as it is or escaped. -/
inductive Character : List Char → Prop
  | unescaped {c : Char} (hcontrol : 0x20 ≤ c.toNat) (hquote : c ≠ '"') (hescape : c ≠ '\\') :
      Character [c]
  | escape {c : Char} (h : c ∈ ['"', '\\', '/', 'b', 'f', 'n', 'r', 't']) : Character ['\\', c]
  | unicode {ds : List Char} (hlength : ds.length = 4)
      (h : ∀ d ∈ ds, d ∈ "0123456789abcdefABCDEF".toList) : Character ('\\' :: 'u' :: ds)

/-- A string behind its opening quote. -/
inductive Closing : List Char → Prop
  | quote : Closing ['"']
  | character {s rest : List Char} (h : Character s) (hrest : Closing rest) : Closing (s ++ rest)

inductive Quoted : List Char → Prop
  | mk {s : List Char} (h : Closing s) : Quoted ('"' :: s)

def Digits (s : List Char) : Prop := s ≠ [] ∧ ∀ c ∈ s, c.isDigit = true

inductive Whole : List Char → Prop
  | zero : Whole ['0']
  | digits {c : Char} {ds : List Char} (hc : c ≠ '0') (h : Digits (c :: ds)) : Whole (c :: ds)

inductive Fraction : List Char → Prop
  | absent : Fraction []
  | present {ds : List Char} (h : Digits ds) : Fraction ('.' :: ds)

inductive Exponent : List Char → Prop
  | absent : Exponent []
  | present {e : Char} {sign ds : List Char} (he : e = 'e' ∨ e = 'E')
      (hsign : sign ∈ [[], ['+'], ['-']]) (h : Digits ds) : Exponent (e :: (sign ++ ds))

inductive Number : List Char → Prop
  | mk {sign whole fraction exponent : List Char} (hsign : sign ∈ [[], ['-']]) (hw : Whole whole)
      (hf : Fraction fraction) (he : Exponent exponent) :
      Number (sign ++ (whole ++ (fraction ++ exponent)))

/-- What a text is made of. -/
inductive Part where
  | value
  /-- A key and its value. -/
  | member
  /-- Such parts, at least one, with commas between them. -/
  | list (part : Part)

/-- The texts of a part. -/
inductive Derives : Part → List Char → Prop
  | null : Derives .value "null".toList
  | true : Derives .value "true".toList
  | false : Derives .value "false".toList
  | number {s : List Char} (h : Number s) : Derives .value s
  | string {s : List Char} (h : Quoted s) : Derives .value s
  | emptyArray {w : List Char} (hw : Blank w) : Derives .value ('[' :: (w ++ [']']))
  | array {s : List Char} (h : Derives (.list .value) s) : Derives .value ('[' :: (s ++ [']']))
  | emptyObject {w : List Char} (hw : Blank w) : Derives .value ('\x7b' :: (w ++ ['\x7d']))
  | object {s : List Char} (h : Derives (.list .member) s) :
      Derives .value ('\x7b' :: (s ++ ['\x7d']))
  | member {key w w' s : List Char} (hk : Quoted key) (hw : Blank w) (hw' : Blank w')
      (h : Derives .value s) : Derives .member (key ++ (w ++ ':' :: (w' ++ s)))
  | last {part : Part} {w s w' : List Char} (hw : Blank w) (h : Derives part s) (hw' : Blank w') :
      Derives (.list part) (w ++ (s ++ w'))
  | more {part : Part} {w s w' rest : List Char} (hw : Blank w) (h : Derives part s)
      (hw' : Blank w') (hrest : Derives (.list part) rest) :
      Derives (.list part) (w ++ (s ++ (w' ++ ',' :: rest)))

end Grammar

open Grammar

/-- A text by the standard. -/
inductive Standard : List Char → Prop
  | mk {w s w' : List Char} (hw : Blank w) (h : Derives .value s) (hw' : Blank w') :
      Standard (w ++ (s ++ w'))

/-- All doubles in the value are finite. -/
inductive Finite : Json → Prop
  | null : Finite .null
  | bool (b : Bool) : Finite (.bool b)
  | int (n : Int) : Finite (.int n)
  | float (n : Bool) (e : Fin 2047) (f : Fin 4503599627370496) : Finite (.float (.finite n e f))
  | str (s : String) : Finite (.str s)
  | arr {items : List Json} (h : ∀ v ∈ items, Finite v) : Finite (.arr items)
  | obj {fields : Fields} (h : ∀ p ∈ fields, Finite p.2) : Finite (.obj fields)

theorem finite_arr {items : List Json} : Finite (.arr items) ↔ ∀ v ∈ items, Finite v :=
  ⟨fun h => by cases h; assumption, .arr⟩

theorem finite_obj {fields : Fields} : Finite (.obj fields) ↔ ∀ p ∈ fields, Finite p.2 :=
  ⟨fun h => by cases h; assumption, .obj⟩

/-! ## What is written -/

namespace Grammar

theorem blank_nil : Blank [] := fun _ h => absurd h List.not_mem_nil

theorem blank_of_spaces {s : List Char} (h : ∀ c ∈ s, isSpace c = true) : Blank s := by
  intro c hc
  have hspace := h c hc
  simp only [isSpace, Bool.or_eq_true, beq_iff_eq] at hspace
  simpa [or_assoc] using hspace

/-! ### Strings -/

theorem character_unicodeEscape {n : Nat} (h : n < 0x10000) : Character (unicodeEscape n) := by
  have hdigit : ∀ {k : Nat}, k < 16 → k.digitChar ∈ "0123456789abcdefABCDEF".toList := by decide
  rw [unicodeEscape]
  refine .unicode ?_ ?_
  · rw [hex_digits h]
    rfl
  · rw [hex_digits h]
    simp only [List.forall_mem_cons]
    exact ⟨hdigit (by omega), hdigit (by omega), hdigit (by omega), hdigit (by omega),
      fun _ h => absurd h List.not_mem_nil⟩

/-- A character that is written stands before the rest of a string. -/
theorem closing_charText (asciiOnly : Bool) (c : Char) {rest : List Char} (h : Closing rest) :
    Closing (charText asciiOnly c ++ rest) := by
  unfold charText
  split
  · exact .character (.escape (by decide)) h
  · exact .character (.escape (by decide)) h
  · exact .character (.escape (by decide)) h
  · exact .character (.escape (by decide)) h
  · exact .character (.escape (by decide)) h
  · exact .character (.escape (by decide)) h
  · exact .character (.escape (by decide)) h
  · next hquote hescape _ _ _ _ _ =>
    split
    · exact .character (character_unicodeEscape (by omega)) h
    · split
      · by_cases hplane : c.toNat < 0x10000
        · rw [utf16Escape, if_pos hplane]
          exact .character (character_unicodeEscape hplane) h
        · have hvalid := toNat_valid c
          obtain ⟨high, low, hhigh, hlow, -, hpair⟩ := utf16Escape_pair hplane (by omega)
          rw [hpair, List.append_assoc]
          exact .character (character_unicodeEscape (by omega))
            (.character (character_unicodeEscape (by omega)) h)
      · exact .character (.unescaped (by omega) hquote hescape) h

theorem quoted_stringChars (asciiOnly : Bool) (s : String) : Quoted (stringChars asciiOnly s) := by
  refine .mk ?_
  induction s.toList with
  | nil => exact .quote
  | cons c rest ih =>
      rw [List.flatMap_cons, List.append_assoc]
      exact closing_charText asciiOnly c ih

/-! ### Numbers -/

theorem number_numeral {x : Numeral} (h : x.Proper) : Number x.chars := by
  rw [Numeral.chars, Numeral.body]
  refine .mk ?_ ?_ ?_ ?_
  · cases x.negative <;> simp
  · obtain ⟨c, rest, hwhole, hzero⟩ := h.whole
    by_cases hc : c = '0'
    · rw [hwhole, hzero hc, hc]
      exact .zero
    · rw [hwhole]
      exact .digits hc ⟨List.cons_ne_nil _ _, hwhole ▸ h.wholeDigits⟩
  · by_cases hf : x.fraction = []
    · rw [Numeral.fractionChars_nil hf]
      exact .absent
    · rw [Numeral.fractionChars_cons hf]
      exact .present ⟨hf, h.fractionDigits⟩
  · rw [Numeral.exponentChars]
    cases hx : x.exponent with
    | none => exact .absent
    | some p =>
        have hsign : [if p.1 then '-' else '+'] ∈ [[], ['+'], ['-']] := by cases p.1 <;> simp
        exact .present (.inl rfl) hsign (h.exponentDigits p hx)

/-! ### Values -/

section Values

variable {style : JsonStyle}

theorem membersChars_eq (style : JsonStyle) (fields : Fields) : membersChars style fields =
    joinChars style.itemSeparator.toList (fields.map (memberChars style)) := by
  rw [membersChars, fieldsChars_eq, List.map_map]
  rfl

/-- Parts with a comma and blanks between them. -/
theorem derives_joinChars {α : Type} {part : Part} {f : α → List Char} {blanks : List Char}
    (hblanks : Blank blanks) {xs : List α} (hne : xs ≠ []) (h : ∀ x ∈ xs, Derives part (f x))
    {w : List Char} (hw : Blank w) :
    Derives (.list part) (w ++ joinChars (',' :: blanks) (xs.map f)) := by
  induction xs generalizing w with
  | nil => exact absurd rfl hne
  | cons x rest ih =>
      obtain ⟨hx, hrest⟩ := List.forall_mem_cons.mp h
      by_cases hlast : rest = []
      · subst hlast
        have hone := Derives.last hw hx blank_nil
        rwa [List.append_nil] at hone
      · have hmore := Derives.more hw hx blank_nil (ih hlast hrest hblanks)
        rw [List.map_cons, joinChars_more _ _ (by simpa using hlast)]
        exact hmore

/-- **The text of a finite value follows the grammar.** -/
theorem derives_chars (hs : Readable style) {v : Json} (h : Finite v) :
    Derives .value (chars style v) := by
  obtain ⟨blanks, hsep, hblanks⟩ := hs.items
  obtain ⟨blanks', hkey, hblanks'⟩ := hs.keys
  have hblanks := blank_of_spaces hblanks
  have hblanks' := blank_of_spaces hblanks'
  induction v using byParts with
  | null => exact .null
  | bool b =>
      cases b with
      | true => exact .true
      | false => exact .false
  | int n =>
      rw [chars, ← chars_ofWhole]
      exact .number (number_numeral (ofWhole_proper n))
  | float x =>
      cases h with
      | float n e f =>
          obtain ⟨x, hproper, -, hchars, -⟩ := Layout.text_numeral (l := floatLayout) rfl rfl n e f
          rw [chars, hs.doubles, ← hchars]
          exact .number (number_numeral hproper)
  | str s => exact .string (quoted_stringChars _ s)
  | arr items ih =>
      have hitems := finite_arr.mp h
      rw [chars, itemsChars_eq, hsep]
      by_cases hne : items = []
      · subst hne
        exact .emptyArray blank_nil
      · exact .array (derives_joinChars hblanks hne (fun v hv => ih v hv (hitems v hv)) blank_nil)
  | obj fields ih =>
      have hfields := finite_obj.mp h
      rw [chars_obj hs, membersChars_eq, hsep]
      by_cases hne : fields = []
      · subst hne
        exact .emptyObject blank_nil
      · refine .object (derives_joinChars hblanks hne (fun p hp => ?_) blank_nil)
        rw [memberChars, hkey, List.append_assoc]
        exact .member (quoted_stringChars _ p.1) blank_nil hblanks' (ih p hp (hfields p hp))

end Values

/-! ## What stands outside strings -/

/-- The characters of a text outside its strings; the flag tells whether the text begins inside
one. -/
def outside : Bool → List Char → List Char
  | _, [] => []
  | false, c :: rest => if c = '"' then outside true rest else c :: outside false rest
  | true, ['\\'] => []
  | true, '\\' :: _ :: rest => outside true rest
  | true, c :: rest => if c = '"' then outside false rest else outside true rest

/-- No word for a double that is not finite stands outside the strings of a text. -/
def Clean (s : List Char) : Prop := ∀ c ∈ outside false s, c ≠ 'N' ∧ c ≠ 'I'

/-- Characters that belong to no such word and open no string. -/
def Mild (s : List Char) : Prop := ∀ c ∈ s, c ≠ '"' ∧ c ≠ 'N' ∧ c ≠ 'I'

instance (s : List Char) : Decidable (Mild s) := List.decidableBAll _ s

theorem outside_append {s : List Char} (h : '"' ∉ s) (rest : List Char) :
    outside false (s ++ rest) = s ++ outside false rest := by
  induction s with
  | nil => rfl
  | cons c s ih =>
      obtain ⟨hc, hs⟩ : '"' ≠ c ∧ '"' ∉ s := by simpa using h
      rw [List.cons_append, outside, if_neg (Ne.symm hc), ih hs, List.cons_append]

theorem clean_append {s : List Char} (h : '"' ∉ s) {rest : List Char} :
    Clean (s ++ rest) ↔ (∀ c ∈ s, c ≠ 'N' ∧ c ≠ 'I') ∧ Clean rest := by
  rw [Clean, outside_append h, List.forall_mem_append, Clean]

theorem Mild.clean {s : List Char} (h : Mild s) {rest : List Char} :
    Clean (s ++ rest) ↔ Clean rest := by
  rw [clean_append fun hmem => (h '"' hmem).1 rfl]
  exact and_iff_right fun c hc => (h c hc).2

theorem clean_cons {c : Char} (h : Mild [c]) {rest : List Char} : Clean (c :: rest) ↔ Clean rest :=
  h.clean

theorem Mild.append {s t : List Char} (hs : Mild s) (ht : Mild t) : Mild (s ++ t) :=
  List.forall_mem_append.mpr ⟨hs, ht⟩

/-! ### Strings -/

/-- Characters that stand for themselves inside a string. -/
theorem outside_inside {s : List Char} (h : ∀ c ∈ s, c ≠ '"' ∧ c ≠ '\\') (rest : List Char) :
    outside true (s ++ rest) = outside true rest := by
  induction s with
  | nil => rfl
  | cons c s ih =>
      obtain ⟨⟨hquote, hescape⟩, hs⟩ := List.forall_mem_cons.mp h
      rw [List.cons_append, outside, if_neg hquote, ih hs]
      · exact fun heq _ => hescape heq
      · exact fun _ _ heq _ => hescape heq

theorem outside_character {s : List Char} (h : Character s) (rest : List Char) :
    outside true (s ++ rest) = outside true rest := by
  cases h with
  | unescaped hcontrol hquote hescape =>
      exact outside_inside (List.forall_mem_singleton.mpr ⟨hquote, hescape⟩) rest
  | escape h => rfl
  | @unicode ds hlength h =>
      have hhex : ("0123456789abcdefABCDEF".toList.all fun d => d != '"' && d != '\\') = true := by
        decide
      have hplain : ∀ d ∈ ds, d ≠ '"' ∧ d ≠ '\\' := fun d hd => by
        simpa using List.all_eq_true.mp hhex d (h d hd)
      exact outside_inside hplain rest

theorem clean_quoted {s : List Char} (h : Quoted s) {rest : List Char} :
    Clean (s ++ rest) ↔ Clean rest := by
  obtain ⟨hclosing⟩ := h
  have houtside {s : List Char} (h : Closing s) :
      outside true (s ++ rest) = outside false rest := by
    induction h with
    | quote => rfl
    | character h _ ih => rw [List.append_assoc, outside_character h, ih]
  rw [Clean, List.cons_append, outside, if_pos rfl, houtside hclosing, Clean]

/-! ### Texts of the grammar -/

theorem Blank.mild {s : List Char} (h : Blank s) : Mild s := by
  have hblank : Mild [' ', '\t', '\n', '\r'] := by decide
  exact fun c hc => hblank c (h c hc)

theorem Digits.mild {s : List Char} (h : Digits s) : Mild s := by
  intro c hc
  have hdigit := h.2 c hc
  refine ⟨?_, ?_, ?_⟩ <;> rintro rfl <;> cases hdigit

theorem Number.mild {s : List Char} (h : Number s) : Mild s := by
  obtain ⟨hsign, hw, hf, he⟩ := h
  have hsigns : ∀ s ∈ [[], ['-']], Mild s := by decide
  refine (hsigns _ hsign).append (.append ?_ (.append ?_ ?_))
  · cases hw with
    | zero => decide
    | digits _ h => exact h.mild
  · cases hf with
    | absent => decide
    | present h => exact Mild.append (s := ['.']) (by decide) h.mild
  · cases he with
    | absent => decide
    | @present e sign ds he hsign h =>
        have hsigns : ∀ s ∈ [[], ['+'], ['-']], Mild s := by decide
        have hletter : Mild [e] := by
          rcases he with rfl | rfl <;> decide
        exact hletter.append ((hsigns _ hsign).append h.mild)

/-- **In a text of the grammar no word for a double that is not finite stands outside strings.** -/
theorem clean_derives {part : Part} {s : List Char} (h : Derives part s) {rest : List Char} :
    Clean (s ++ rest) ↔ Clean rest := by
  induction h generalizing rest with
  | null | true | false => exact Mild.clean (by decide)
  | number h => exact h.mild.clean
  | string h => exact clean_quoted h
  | emptyArray hw =>
      rw [List.cons_append, List.append_assoc, List.singleton_append,
        clean_cons (c := '[') (by decide), hw.mild.clean, clean_cons (c := ']') (by decide)]
  | array _ ih =>
      rw [List.cons_append, List.append_assoc, List.singleton_append,
        clean_cons (c := '[') (by decide), ih, clean_cons (c := ']') (by decide)]
  | emptyObject hw =>
      rw [List.cons_append, List.append_assoc, List.singleton_append,
        clean_cons (c := '\x7b') (by decide), hw.mild.clean, clean_cons (c := '\x7d') (by decide)]
  | object _ ih =>
      rw [List.cons_append, List.append_assoc, List.singleton_append,
        clean_cons (c := '\x7b') (by decide), ih, clean_cons (c := '\x7d') (by decide)]
  | member hk hw hw' _ ih =>
      rw [List.append_assoc, List.append_assoc, List.cons_append, List.append_assoc,
        clean_quoted hk, hw.mild.clean, clean_cons (c := ':') (by decide), hw'.mild.clean, ih]
  | last hw _ hw' ih =>
      rw [List.append_assoc, List.append_assoc, hw.mild.clean, ih, hw'.mild.clean]
  | more hw _ hw' _ ih ihrest =>
      rw [List.append_assoc, List.append_assoc, List.append_assoc, List.cons_append,
        hw.mild.clean, ih, hw'.mild.clean, clean_cons (c := ',') (by decide), ihrest]

theorem clean_standard {s : List Char} (h : Standard s) : Clean s := by
  cases h with
  | @mk w s w' hw h hw' =>
      rw [hw.mild.clean, clean_derives h, ← List.append_nil w', hw'.mild.clean]
      exact fun _ h => absurd h List.not_mem_nil

/-! ### Texts of values -/

section Values

variable {style : JsonStyle}

theorem clean_joinChars {α : Type} {f : α → List Char} {φ : α → Prop} {sep : List Char}
    (hsep : Mild sep) {xs : List α}
    (h : ∀ x ∈ xs, ∀ rest, Clean (f x ++ rest) ↔ φ x ∧ Clean rest) (rest : List Char) :
    Clean (joinChars sep (xs.map f) ++ rest) ↔ (∀ x ∈ xs, φ x) ∧ Clean rest := by
  induction xs with
  | nil => simp [joinChars]
  | cons x others ih =>
      obtain ⟨hx, hothers⟩ := List.forall_mem_cons.mp h
      rw [List.forall_mem_cons]
      by_cases hlast : others = []
      · subst hlast
        rw [List.map_singleton, joinChars, hx]
        simp
      · rw [List.map_cons, joinChars_more _ _ (by simpa using hlast), List.append_assoc,
          List.append_assoc, hx, hsep.clean, ih hothers, and_assoc]

/-- **The text of a value is clean if the value is finite, and only then.** -/
theorem clean_chars (hs : Readable style) (v : Json) (rest : List Char) :
    Clean (chars style v ++ rest) ↔ Finite v ∧ Clean rest := by
  obtain ⟨blanks, hsep, hblanks⟩ := hs.items
  obtain ⟨blanks', hkey, hblanks'⟩ := hs.keys
  have hcomma : Mild (',' :: blanks) := Mild.append (s := [',']) (by decide) (blank_of_spaces hblanks).mild
  have hcolon : Mild (':' :: blanks') :=
    Mild.append (s := [':']) (by decide) (blank_of_spaces hblanks').mild
  -- a value without doubles that are not finite is written by the grammar
  have hfinite {v : Json} (h : Finite v) (rest : List Char) :
      Clean (chars style v ++ rest) ↔ Finite v ∧ Clean rest := by
    rw [clean_derives (derives_chars hs h), and_iff_right h]
  induction v using byParts generalizing rest with
  | null => exact hfinite .null rest
  | bool b => exact hfinite (.bool b) rest
  | int n => exact hfinite (.int n) rest
  | str s => exact hfinite (.str s) rest
  | float x =>
      have hnot {x : Binary64} (hx : '"' ∉ floatLayout.text x)
          (hword : 'N' ∈ floatLayout.text x ∨ 'I' ∈ floatLayout.text x) (hf : ¬ Finite (.float x)) :
          Clean (chars style (.float x) ++ rest) ↔ Finite (.float x) ∧ Clean rest := by
        rw [chars, hs.doubles, clean_append hx]
        refine iff_of_false (fun h => ?_) fun h => hf h.1
        rcases hword with hN | hI
        · exact (h.1 'N' hN).1 rfl
        · exact (h.1 'I' hI).2 rfl
      cases x with
      | nan => exact hnot (by decide) (.inl (by decide)) nofun
      | infinite n => cases n <;> exact hnot (by decide) (.inr (by decide)) nofun
      | finite n e f => exact hfinite (.float n e f) rest
  | arr items ih =>
      rw [chars, itemsChars_eq, hsep, List.cons_append, List.append_assoc, List.singleton_append,
        clean_cons (c := '[') (by decide), clean_joinChars hcomma ih,
        clean_cons (c := ']') (by decide), finite_arr]
  | obj fields ih =>
      have hmember (p : String × Json) (hp : p ∈ fields) (rest : List Char) :
          Clean (memberChars style p ++ rest) ↔ Finite p.2 ∧ Clean rest := by
        rw [memberChars, hkey, List.append_assoc, List.append_assoc,
          clean_quoted (quoted_stringChars _ p.1), hcolon.clean]
        exact ih p hp rest
      rw [chars_obj hs, membersChars_eq, hsep, List.cons_append, List.append_assoc,
        List.singleton_append, clean_cons (c := '\x7b') (by decide), clean_joinChars hcomma hmember,
        clean_cons (c := '\x7d') (by decide), finite_obj]

end Values

end Grammar

/-- **The text of a value is one by the standard exactly if all doubles in the value are finite.** -/
theorem standard_chars_iff {style : JsonStyle} (hs : Readable style) (v : Json) :
    Standard (chars style v) ↔ Finite v := by
  constructor
  · intro h
    have hclean := clean_standard h
    rw [← List.append_nil (chars style v), clean_chars hs v []] at hclean
    exact hclean.1
  · intro h
    have hstandard := Standard.mk blank_nil (derives_chars hs h) blank_nil
    rwa [List.nil_append, List.append_nil] at hstandard

end Json

end StoryServer
