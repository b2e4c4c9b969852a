import StoryServer.Fault
import StoryServer.Proofs.Json.Token

/-!
# What is written is read back

A text of a value, in a style whose separators and doubles are those of JSON, is read as the
value again: `readValue_chars`, and `parse_text` for a text that holds nothing else.  An object
that names a key twice is read with the key once, so the keys of objects have to be distinct
(`Distinct`); all values that the reader makes are like that (`distinct_of_parse`).
-/

namespace StoryServer

namespace Json

/-! ## Distinct keys -/

mutual

/-- Whether the objects in a value have each key once. -/
def Distinct : Json → Prop
  | .arr items => DistinctItems items
  | .obj fields => (fields.map (·.1)).Nodup ∧ DistinctFields fields
  | _ => True

def DistinctItems : List Json → Prop
  | [] => True
  | v :: rest => Distinct v ∧ DistinctItems rest

def DistinctFields : List (String × Json) → Prop
  | [] => True
  | (_, v) :: rest => Distinct v ∧ DistinctFields rest

end

theorem distinctItems_iff {items : List Json} : DistinctItems items ↔ ∀ v ∈ items, Distinct v := by
  induction items with
  | nil => simp [DistinctItems]
  | cons v rest ih => simp [DistinctItems, ih]

theorem distinctFields_iff {fields : Fields} : DistinctFields fields ↔ ∀ p ∈ fields, Distinct p.2 := by
  induction fields with
  | nil => simp [DistinctFields]
  | cons p rest ih => simp [DistinctFields, ih]

end Json

namespace Fields

open Json

theorem put_of_not_mem : ∀ {fields : Fields} {key : String}, key ∉ fields.map (·.1) →
    ∀ value, fields.put key value = fields ++ [(key, value)]
  | [], _, _, _ => rfl
  | (k, v) :: rest, key, h, value => by
      have hkey : ¬ (k == key) = true := fun heq => h (beq_iff_eq.mp heq ▸ List.mem_cons_self)
      have hrest : key ∉ rest.map (·.1) := fun hmem => h (List.mem_cons_of_mem k hmem)
      rw [put, if_neg hkey, put_of_not_mem hrest, List.cons_append]

theorem keys_put : ∀ (fields : Fields) (key : String) (value : Json),
    (fields.put key value).map (·.1) = fields.map (·.1) ∨
      key ∉ fields.map (·.1) ∧ (fields.put key value).map (·.1) = fields.map (·.1) ++ [key]
  | [], _, _ => .inr ⟨List.not_mem_nil, rfl⟩
  | (k, v) :: rest, key, value => by
      by_cases hkey : (k == key) = true
      · rw [put, if_pos hkey]
        exact .inl rfl
      · rw [put, if_neg hkey]
        rcases keys_put rest key value with hsame | ⟨hnew, hlast⟩
        · exact .inl (congrArg (k :: ·) hsame)
        · refine .inr ⟨fun hmem => ?_, congrArg (k :: ·) hlast⟩
          rcases List.mem_cons.mp hmem with heq | hmem
          · exact hkey (beq_iff_eq.mpr heq.symm)
          · exact hnew hmem

theorem mem_put : ∀ {fields : Fields} {key : String} {value : Json} {p : String × Json},
    p ∈ fields.put key value → p ∈ fields ∨ p.2 = value
  | [], _, _, p, h => .inr (by rw [List.mem_singleton.mp h])
  | (k, v) :: rest, key, value, p, h => by
      rw [put] at h
      split at h
      · rcases List.mem_cons.mp h with rfl | hmem
        · exact .inr rfl
        · exact .inl (List.mem_cons_of_mem _ hmem)
      · rcases List.mem_cons.mp h with rfl | hmem
        · exact .inl List.mem_cons_self
        · exact (mem_put hmem).imp_left (List.mem_cons_of_mem _)

theorem distinct_put {fields : Fields} (h : Distinct (.obj fields)) (key : String) {value : Json}
    (hv : Distinct value) : Distinct (.obj (fields.put key value)) := by
  rw [Distinct, distinctFields_iff] at h ⊢
  refine ⟨?_, fun p hp => ?_⟩
  · rcases keys_put fields key value with hsame | ⟨hnew, hlast⟩
    · rw [hsame]
      exact h.1
    · rw [hlast, List.nodup_append]
      exact ⟨h.1, List.nodup_singleton _, fun a ha b hb heq =>
        hnew (List.mem_singleton.mp hb ▸ heq ▸ ha)⟩
  · rcases mem_put hp with hmem | heq
    · exact h.2 p hmem
    · exact heq ▸ hv

theorem distinct_ofPairs {pairs : List (String × Json)} (h : DistinctFields pairs) :
    Distinct (.obj (ofPairs pairs)) := by
  have hall : ∀ (pairs : List (String × Json)) (fields : Fields), DistinctFields pairs →
      Distinct (.obj fields) →
      Distinct (.obj (pairs.foldl (fun fields p => Fields.put fields p.1 p.2) fields)) := by
    intro pairs
    induction pairs with
    | nil => exact fun _ _ hfields => hfields
    | cons p rest ih => exact fun _ h hfields => ih _ h.2 (distinct_put hfields _ h.1)
  exact hall pairs [] h ⟨List.nodup_nil, trivial⟩

/-- Pairs with distinct keys are an object as they stand. -/
theorem ofPairs_of_nodup {pairs : List (String × Json)} (h : (pairs.map (·.1)).Nodup) :
    ofPairs pairs = pairs := by
  have hall : ∀ (pairs before : List (String × Json)), ((before ++ pairs).map (·.1)).Nodup →
      pairs.foldl (fun fields p => Fields.put fields p.1 p.2) before = before ++ pairs := by
    intro pairs
    induction pairs with
    | nil => exact fun before _ => (List.append_nil before).symm
    | cons p rest ih =>
        intro before hnodup
        have hnew : p.1 ∉ before.map (·.1) := by
          rw [List.map_append, List.nodup_append] at hnodup
          exact fun hmem => hnodup.2.2 p.1 hmem p.1 List.mem_cons_self rfl
        rw [List.foldl_cons, put_of_not_mem hnew, ih, List.append_assoc, List.singleton_append]
        rwa [List.append_assoc, List.singleton_append]
  exact hall pairs [] h

end Fields

namespace Json

/-! ## Styles -/

/-- A style whose texts are JSON texts with the members in order. -/
structure Readable (style : JsonStyle) : Prop where
  items : ∃ blanks, style.itemSeparator.toList = ',' :: blanks ∧ ∀ c ∈ blanks, isSpace c = true
  keys : ∃ blanks, style.keySeparator.toList = ':' :: blanks ∧ ∀ c ∈ blanks, isSpace c = true
  unsorted : style.sorted = false
  doubles : style.layout = floatLayout

theorem ascii_readable : Readable .ascii where
  items := ⟨[' '], rfl, List.forall_mem_singleton.mpr rfl⟩
  keys := ⟨[' '], rfl, List.forall_mem_singleton.mpr rfl⟩
  unsorted := rfl
  doubles := rfl

theorem spaced_readable : Readable .spaced where
  items := ascii_readable.items
  keys := ascii_readable.keys
  unsorted := rfl
  doubles := rfl

theorem skip_head {c : Char} (h : isSpace c = false) (rest : List Char) (pos : Nat) :
    Rest.skip ⟨c :: rest, pos⟩ = ⟨c :: rest, pos⟩ := by
  rw [Rest.skip, List.takeWhile_cons, h]
  rfl

theorem skip_blanks {blanks : List Char} (hblanks : ∀ c ∈ blanks, isSpace c = true) {c : Char}
    (h : isSpace c = false) (rest : List Char) (pos : Nat) :
    Rest.skip ⟨blanks ++ c :: rest, pos⟩ = ⟨c :: rest, pos + blanks.length⟩ := by
  have htake : (blanks ++ c :: rest).takeWhile isSpace = blanks := by
    rw [List.takeWhile_append_of_pos hblanks, List.takeWhile_cons, h]
    exact List.append_nil blanks
  rw [Rest.skip, htake, Rest.drop_written]

section Values

variable {style : JsonStyle}

/-- The first character of a value can be told from blanks, from a closing bracket and from a
byte order mark. -/
def Opens (s : List Char) : Prop :=
  ∃ c rest, s = c :: rest ∧ isSpace c = false ∧ c ≠ ']' ∧ c ≠ '}' ∧ c ≠ '\uFEFF'

theorem first_numeral {x : Numeral} (h : x.Proper) :
    ∃ c rest, x.chars = c :: rest ∧ (c = '-' ∨ c.isDigit = true) := by
  obtain ⟨c, rest, hwhole, -⟩ := h.whole
  have hc : c.isDigit = true := h.wholeDigits c (hwhole ▸ List.mem_cons_self)
  rw [Numeral.chars, Numeral.body, hwhole]
  cases x.negative with
  | true => exact ⟨'-', _, rfl, .inl rfl⟩
  | false => exact ⟨c, _, rfl, .inr hc⟩

/-- A number begins with no other sign than a minus. -/
theorem first_ne {c d : Char} (h : c = '-' ∨ c.isDigit = true) (hd : d.isDigit = false)
    (hminus : d ≠ '-') : c ≠ d := by
  rintro rfl
  rcases h with h | h
  · exact hminus h
  · cases hd.symm.trans h

theorem opens_numeral {x : Numeral} (h : x.Proper) : Opens x.chars := by
  obtain ⟨c, rest, hchars, hc⟩ := first_numeral h
  have hne : ∀ d : Char, d.isDigit = false → d ≠ '-' → c ≠ d := fun d => first_ne hc
  refine ⟨c, rest, hchars, ?_, hne ']' rfl (by decide), hne '}' rfl (by decide),
    hne '\uFEFF' rfl (by decide)⟩
  simp only [isSpace, Bool.or_eq_false_iff, beq_eq_false_iff_ne]
  exact ⟨⟨⟨hne ' ' rfl (by decide), hne '\t' rfl (by decide)⟩, hne '\n' rfl (by decide)⟩,
    hne '\r' rfl (by decide)⟩

theorem opens_chars (hs : Readable style) (v : Json) : Opens (chars style v) := by
  cases v with
  | null => exact ⟨'n', _, rfl, rfl, by decide⟩
  | bool b =>
      cases b with
      | true => exact ⟨'t', _, rfl, rfl, by decide⟩
      | false => exact ⟨'f', _, rfl, rfl, by decide⟩
  | int n =>
      rw [chars, ← chars_ofWhole]
      exact opens_numeral (ofWhole_proper n)
  | float x =>
      rw [chars, hs.doubles]
      cases x with
      | nan => exact ⟨'N', _, rfl, rfl, by decide⟩
      | infinite negative =>
          cases negative with
          | true => exact ⟨'-', _, rfl, rfl, by decide⟩
          | false => exact ⟨'I', _, rfl, rfl, by decide⟩
      | finite n e f =>
          obtain ⟨x, hproper, -, hchars, -⟩ := Layout.text_numeral (l := floatLayout) rfl rfl n e f
          rw [← hchars]
          exact opens_numeral hproper
  | str s => exact ⟨'"', _, rfl, rfl, by decide⟩
  | arr items => exact ⟨'[', _, rfl, rfl, by decide⟩
  | obj fields => exact ⟨'\x7b', _, rfl, rfl, by decide⟩

/-! ## Values -/

/-- What a value begins with decides how it is read; a number or a word begins with none of
the three. -/
theorem readValue_plain {c : Char} (hquote : c ≠ '"') (hbracket : c ≠ '[') (hbrace : c ≠ '\x7b')
    (fuel : Nat) (rest : List Char) (pos : Nat) :
    readValue .lenient (fuel + 1) ⟨c :: rest, pos⟩ =
      match word? .lenient ⟨c :: rest, pos⟩ with
      | some found => .ok found
      | none => readNumber .lenient ⟨c :: rest, pos⟩ := by
  unfold readValue
  dsimp only
  split
  · next heq => exact absurd (List.cons.inj heq).1 hquote
  · next heq => exact absurd (List.cons.inj heq).1 hbracket
  · next heq => exact absurd (List.cons.inj heq).1 hbrace
  · rfl

theorem readValue_string {fuel pos : Nat} {asciiOnly : Bool} {s : String} {tail : List Char} {r : Rest}
    (h : readString (Rest.drop ⟨stringChars asciiOnly s ++ tail, pos⟩ 1) = .ok (s, r)) :
    readValue .lenient (fuel + 1) ⟨stringChars asciiOnly s ++ tail, pos⟩ = .ok (.str s, r) := by
  rw [readValue, h]
  rfl

/-- A value that does not begin with a bracket takes no room. -/
theorem readValue_within {c : Char} (hbracket : c ≠ '[') (hbrace : c ≠ '\x7b') (room fuel : Nat)
    (rest : List Char) (pos : Nat) :
    readValue (.within room) fuel ⟨c :: rest, pos⟩ = readValue .lenient fuel ⟨c :: rest, pos⟩ := by
  cases fuel with
  | zero => rfl
  | succ fuel =>
      unfold readValue
      dsimp only
      split
      · rfl
      · next heq => exact absurd (List.cons.inj heq).1 hbracket
      · next heq => exact absurd (List.cons.inj heq).1 hbrace
      · rfl

theorem readValue_numeral {x : Numeral} (h : x.Proper) (fuel : Nat) (tail : List Char) (pos : Nat) :
    readValue .lenient (fuel + 1) ⟨x.chars ++ tail, pos⟩ = readNumber .lenient ⟨x.chars ++ tail, pos⟩ := by
  have hword := word?_numeral h tail pos
  obtain ⟨c, rest, hchars, hc⟩ := first_numeral h
  rw [hchars, List.cons_append] at hword ⊢
  rw [readValue_plain (first_ne hc rfl (by decide)) (first_ne hc rfl (by decide))
    (first_ne hc rfl (by decide)), hword]

/-- There is always room for another level. -/
theorem inner?_lenient : Dialect.lenient.inner? = some .lenient := rfl

/-! ## Items and members -/

section Steps

variable {fuel p q : Nat} {r r' : Rest} {v : Json} {items : List Json} {rest tail : List Char}

theorem readItems_last (hv : readValue .lenient fuel r = .ok (v, ⟨']' :: tail, p⟩)) :
    readItems .lenient (fuel + 1) r = .ok ([v], ⟨tail, p + 1⟩) := by
  rw [readItems, hv]
  simp only [bind, Except.bind, skip_head (show isSpace ']' = false from rfl)]
  rfl

theorem readItems_more (hv : readValue .lenient fuel r = .ok (v, ⟨',' :: rest, p⟩))
    (hrest : readItems .lenient fuel (Rest.skip ⟨rest, p + 1⟩) = .ok (items, r')) :
    readItems .lenient (fuel + 1) r = .ok (v :: items, r') := by
  rw [readItems, hv]
  simp only [bind, Except.bind, skip_head (show isSpace ',' = false from rfl)]
  rw [show Rest.drop ⟨',' :: rest, p⟩ 1 = ⟨rest, p + 1⟩ from rfl, hrest]
  rfl

variable {key : String} {members : List (String × Json)} {after more : List Char}

theorem readMembers_last (hr : r.chars = '"' :: more)
    (hkey : readString (r.drop 1) = .ok (key, ⟨':' :: after, p⟩))
    (hv : readValue .lenient fuel (Rest.skip ⟨after, p + 1⟩) = .ok (v, ⟨'}' :: tail, q⟩)) :
    readMembers .lenient (fuel + 1) r = .ok ([(key, v)], ⟨tail, q + 1⟩) := by
  rw [readMembers, hr, hkey]
  simp only [bind, Except.bind, skip_head (show isSpace ':' = false from rfl)]
  rw [show Rest.drop ⟨':' :: after, p⟩ 1 = ⟨after, p + 1⟩ from rfl, hv]
  simp only [skip_head (show isSpace '}' = false from rfl)]
  rfl

theorem readMembers_more (hr : r.chars = '"' :: more)
    (hkey : readString (r.drop 1) = .ok (key, ⟨':' :: after, p⟩))
    (hv : readValue .lenient fuel (Rest.skip ⟨after, p + 1⟩) = .ok (v, ⟨',' :: rest, q⟩))
    (hrest : readMembers .lenient fuel (Rest.skip ⟨rest, q + 1⟩) = .ok (members, r')) :
    readMembers .lenient (fuel + 1) r = .ok ((key, v) :: members, r') := by
  rw [readMembers, hr, hkey]
  simp only [bind, Except.bind, skip_head (show isSpace ':' = false from rfl)]
  rw [show Rest.drop ⟨':' :: after, p⟩ 1 = ⟨after, p + 1⟩ from rfl, hv]
  simp only [skip_head (show isSpace ',' = false from rfl)]
  rw [show Rest.drop ⟨',' :: rest, q⟩ 1 = ⟨rest, q + 1⟩ from rfl, hrest]
  rfl

/-- An array with items. -/
theorem readValue_items (h : Opens rest)
    (hread : readItems .lenient fuel ⟨rest, p + 1⟩ = .ok (items, r')) :
    readValue .lenient (fuel + 1) ⟨'[' :: rest, p⟩ = .ok (.arr items, r') := by
  obtain ⟨c, more, rfl, hspace, hbracket, -⟩ := h
  rw [readValue]
  dsimp only
  rw [show Rest.drop ⟨'[' :: c :: more, p⟩ 1 = ⟨c :: more, p + 1⟩ from rfl, skip_head hspace]
  split
  · next heq => exact absurd (List.cons.inj heq).1 (by decide)
  · rw [inner?_lenient]
    dsimp only
    split
    · next heq => exact absurd (List.cons.inj heq).1 hbracket
    · rw [hread]
      rfl
  · next heq => exact absurd (List.cons.inj heq).1 (by decide)
  · next hne _ => exact absurd rfl (hne _)

/-- An object with members. -/
theorem readValue_members (h : Opens rest)
    (hread : readMembers .lenient fuel ⟨rest, p + 1⟩ = .ok (members, r')) :
    readValue .lenient (fuel + 1) ⟨'\x7b' :: rest, p⟩ = .ok (.obj (Fields.ofPairs members), r') := by
  obtain ⟨c, more, rfl, hspace, -, hbrace, -⟩ := h
  rw [readValue]
  dsimp only
  rw [show Rest.drop ⟨'\x7b' :: c :: more, p⟩ 1 = ⟨c :: more, p + 1⟩ from rfl, skip_head hspace]
  split
  · next heq => exact absurd (List.cons.inj heq).1 (by decide)
  · next heq => exact absurd (List.cons.inj heq).1 (by decide)
  · rw [inner?_lenient]
    dsimp only
    split
    · next heq => exact absurd (List.cons.inj heq).1 hbrace
    · rw [hread]
      rfl
  · next hne => exact absurd rfl (hne _)

end Steps

theorem Opens.append {s : List Char} (h : Opens s) (t : List Char) : Opens (s ++ t) := by
  obtain ⟨c, rest, rfl, hc⟩ := h
  exact ⟨c, rest ++ t, rfl, hc⟩

theorem Opens.length_pos {s : List Char} (h : Opens s) : 0 < s.length := by
  obtain ⟨c, rest, rfl, -⟩ := h
  exact Nat.succ_pos _

theorem opens_string (asciiOnly : Bool) (s : String) (t : List Char) :
    Opens (stringChars asciiOnly s ++ t) := ⟨'"', _, rfl, rfl, by decide⟩

theorem Opens.skip_blanks {blanks s : List Char} (hblanks : ∀ c ∈ blanks, isSpace c = true)
    (h : Opens s) (pos : Nat) : Rest.skip ⟨blanks ++ s, pos⟩ = ⟨s, pos + blanks.length⟩ := by
  obtain ⟨c, rest, rfl, hspace, -⟩ := h
  exact Json.skip_blanks hblanks hspace rest pos

/-- Items are joined one by one. -/
theorem joinChars_more (sep s : List Char) {rest : List (List Char)} (h : rest ≠ []) :
    joinChars sep (s :: rest) = s ++ (sep ++ joinChars sep rest) := by
  obtain ⟨t, rest, rfl⟩ := List.exists_cons_of_ne_nil h
  exact List.append_assoc _ _ _

/-- The characters of items begin with those of the first. -/
theorem joinChars_cons (sep s : List Char) (rest : List (List Char)) : ∃ more,
    joinChars sep (s :: rest) = s ++ more := by
  cases rest with
  | nil => exact ⟨[], (List.append_nil s).symm⟩
  | cons t rest => exact ⟨sep ++ joinChars sep (t :: rest), List.append_assoc _ _ _⟩

theorem itemsChars_ne_nil (style : JsonStyle) {items : List Json} (h : items ≠ []) :
    itemsChars style items ≠ [] := by
  obtain ⟨v, rest, rfl⟩ := List.exists_cons_of_ne_nil h
  exact List.cons_ne_nil _ _

theorem opens_items (hs : Readable style) {items : List Json} (h : items ≠ []) (t : List Char) :
    Opens (joinChars style.itemSeparator.toList (itemsChars style items) ++ t) := by
  obtain ⟨v, rest, rfl⟩ := List.exists_cons_of_ne_nil h
  obtain ⟨more, hmore⟩ :=
    joinChars_cons style.itemSeparator.toList (chars style v) (itemsChars style rest)
  rw [itemsChars, hmore, List.append_assoc]
  exact (opens_chars hs v).append _

/-- The characters of the members of an object, in order. -/
def membersChars (style : JsonStyle) (fields : Fields) : List Char :=
  joinChars style.itemSeparator.toList ((fieldsChars style fields).map (·.2))

theorem membersChars_last (k : String) (v : Json) : membersChars style [(k, v)] =
    stringChars style.asciiOnly k ++ style.keySeparator.toList ++ chars style v := rfl

theorem membersChars_more (k : String) (v : Json) {rest : Fields} (h : rest ≠ []) :
    membersChars style ((k, v) :: rest) =
      stringChars style.asciiOnly k ++ style.keySeparator.toList ++ chars style v ++
        (style.itemSeparator.toList ++ membersChars style rest) := by
  obtain ⟨p, rest, rfl⟩ := List.exists_cons_of_ne_nil h
  exact joinChars_more _ _ (List.cons_ne_nil _ _)

theorem opens_members {fields : Fields} (h : fields ≠ []) (t : List Char) :
    Opens (membersChars style fields ++ t) := by
  obtain ⟨⟨k, v⟩, rest, rfl⟩ := List.exists_cons_of_ne_nil h
  obtain ⟨more, hmore⟩ := joinChars_cons style.itemSeparator.toList
    (stringChars style.asciiOnly k ++ style.keySeparator.toList ++ chars style v)
    ((fieldsChars style rest).map (·.2))
  rw [membersChars, fieldsChars, List.map_cons, hmore, List.append_assoc, List.append_assoc,
    List.append_assoc]
  exact opens_string _ _ _

theorem chars_obj (hs : Readable style) (fields : Fields) :
    chars style (.obj fields) = '\x7b' :: (membersChars style fields ++ ['}']) := by
  rw [chars, hs.unsorted]
  rfl

/-! ## Values with other values in them -/

mutual

/-- **A written value is read back**, before whatever closes it. -/
theorem readValue_chars (hs : Readable style) : ∀ v : Json, Distinct v → defect? style v = none →
    ∀ (fuel : Nat) {tail : List Char}, (chars style v).length ≤ fuel + 1 → Closes tail →
    ∀ pos, ∃ p, readValue .lenient (fuel + 1) ⟨chars style v ++ tail, pos⟩ = .ok (v, ⟨tail, p⟩)
  | .null, _, _, fuel, tail, _, _, pos => ⟨pos + 4, by
      exact readValue_plain (by decide) (by decide) (by decide) fuel _ pos⟩
  | .bool b, _, _, fuel, tail, _, _, pos => by
      cases b <;> exact ⟨_, readValue_plain (by decide) (by decide) (by decide) fuel _ pos⟩
  | .int n, _, hw, fuel, tail, _, ht, pos => by
      have hn : (Nat.toDigits 10 n.natAbs).length ≤ digitLimit := by
        by_contra hlong
        rw [defect?, if_pos (Nat.not_le.mp hlong)] at hw
        cases hw
      obtain ⟨p, hp⟩ := readNumber_int hn ht pos
      refine ⟨p, ?_⟩
      rw [chars, ← chars_ofWhole, readValue_numeral (ofWhole_proper n), chars_ofWhole, hp]
  | .float .nan, _, _, fuel, tail, _, _, pos => by
      rw [chars, hs.doubles]
      exact ⟨_, readValue_plain (by decide) (by decide) (by decide) fuel _ pos⟩
  | .float (.infinite n), _, _, fuel, tail, _, _, pos => by
      rw [chars, hs.doubles]
      cases n <;> exact ⟨_, readValue_plain (by decide) (by decide) (by decide) fuel _ pos⟩
  | .float (.finite n e f), _, _, fuel, tail, _, ht, pos => by
      obtain ⟨x, hproper, -, hchars, -⟩ := Layout.text_numeral (l := floatLayout) rfl rfl n e f
      obtain ⟨p, hp⟩ := readNumber_float n e f ht pos
      refine ⟨p, ?_⟩
      rw [chars, hs.doubles, ← hchars, readValue_numeral hproper, hchars, hp]
  | .str s, _, _, fuel, tail, _, _, pos => by
      obtain ⟨p, hp⟩ := readString_stringChars style.asciiOnly s tail pos
      refine ⟨p, ?_⟩
      rw [chars, readValue_string hp]
  | .arr items, hd, hw, fuel, tail, hlength, _, pos => by
      by_cases hitems : items = []
      · subst hitems
        exact ⟨_, rfl⟩
      · have hchars : chars style (.arr items) ++ tail = '[' ::
            (joinChars style.itemSeparator.toList (itemsChars style items) ++ ']' :: tail) := by
          rw [chars, List.cons_append, List.append_assoc, List.singleton_append]
        rw [chars, List.length_cons, List.length_append, List.length_singleton] at hlength
        obtain ⟨fuel, rfl⟩ := Nat.exists_eq_add_one_of_ne_zero (show fuel ≠ 0 by omega)
        obtain ⟨p, hp⟩ := readItems_chars hs items hitems hd hw fuel tail (by omega) (pos + 1)
        exact ⟨p, hchars ▸ readValue_items (opens_items hs hitems _) hp⟩
  | .obj fields, hd, hw, fuel, tail, hlength, _, pos => by
      by_cases hfields : fields = []
      · subst hfields
        rw [chars_obj hs]
        exact ⟨_, rfl⟩
      · have hchars : chars style (.obj fields) ++ tail =
            '\x7b' :: (membersChars style fields ++ '}' :: tail) := by
          rw [chars_obj hs, List.cons_append, List.append_assoc, List.singleton_append]
        rw [chars_obj hs, List.length_cons, List.length_append, List.length_singleton] at hlength
        obtain ⟨fuel, rfl⟩ := Nat.exists_eq_add_one_of_ne_zero (show fuel ≠ 0 by omega)
        obtain ⟨p, hp⟩ := readMembers_chars hs fields hfields hd.2 hw fuel tail (by omega)
          (pos + 1)
        have hread := readValue_members (opens_members hfields _) hp
        rw [Fields.ofPairs_of_nodup hd.1] at hread
        exact ⟨p, hchars ▸ hread⟩

theorem readItems_chars (hs : Readable style) : ∀ items : List Json, items ≠ [] →
    DistinctItems items → itemsDefect? style items = none → ∀ (fuel : Nat) (tail : List Char),
    (joinChars style.itemSeparator.toList (itemsChars style items)).length ≤ fuel → ∀ pos, ∃ p,
    readItems .lenient (fuel + 1)
        ⟨joinChars style.itemSeparator.toList (itemsChars style items) ++ ']' :: tail, pos⟩ =
      .ok (items, ⟨tail, p⟩)
  | [], h, _, _, _, _, _, _ => absurd rfl h
  | v :: rest, _, hd, hw, fuel, tail, hlength, pos => by
      obtain ⟨hv, hwrest⟩ := Option.or_eq_none_iff.mp hw
      obtain ⟨blanks, hsep, hblanks⟩ := hs.items
      have hfirst := (opens_chars hs v).length_pos
      by_cases hrest : rest = []
      · subst hrest
        have hlength : (chars style v).length ≤ fuel := hlength
        obtain ⟨fuel, rfl⟩ := Nat.exists_eq_add_one_of_ne_zero (show fuel ≠ 0 by omega)
        obtain ⟨p, hp⟩ := readValue_chars hs v hd.1 hv fuel hlength
          (closes_cons (.inr (.inl rfl)) tail) pos
        exact ⟨p + 1, readItems_last hp⟩
      · have hjoin := joinChars_more style.itemSeparator.toList (chars style v)
          (itemsChars_ne_nil style hrest)
        rw [itemsChars, hjoin, List.length_append, List.length_append, hsep, List.length_cons] at hlength
        obtain ⟨fuel, rfl⟩ := Nat.exists_eq_add_one_of_ne_zero (show fuel ≠ 0 by omega)
        rw [itemsChars, hjoin, hsep, List.append_assoc, List.cons_append, List.cons_append,
          List.append_assoc]
        obtain ⟨p, hp⟩ := readValue_chars hs v hd.1 hv fuel (by omega)
          (closes_cons (.inl rfl) _) pos
        obtain ⟨q, hq⟩ := readItems_chars hs rest hrest hd.2 hwrest fuel tail
          (by rw [hsep]; omega) (p + 1 + blanks.length)
        have hopens := opens_items hs hrest (']' :: tail)
        rw [hsep] at hq hopens
        refine ⟨q, readItems_more hp ?_⟩
        rw [hopens.skip_blanks hblanks, hq]

theorem readMembers_chars (hs : Readable style) : ∀ fields : Fields, fields ≠ [] →
    DistinctFields fields → fieldsDefect? style fields = none → ∀ (fuel : Nat) (tail : List Char),
    (membersChars style fields).length ≤ fuel → ∀ pos, ∃ p,
    readMembers .lenient (fuel + 1) ⟨membersChars style fields ++ '}' :: tail, pos⟩ =
      .ok (fields, ⟨tail, p⟩)
  | [], h, _, _, _, _, _, _ => absurd rfl h
  | (k, v) :: rest, _, hd, hw, fuel, tail, hlength, pos => by
      obtain ⟨hv, hwrest⟩ := Option.or_eq_none_iff.mp hw
      obtain ⟨blanks, hsep, hblanks⟩ := hs.items
      obtain ⟨blanks', hkey, hblanks'⟩ := hs.keys
      have hfirst := (opens_chars hs v).length_pos
      by_cases hrest : rest = []
      · subst hrest
        rw [membersChars_last, hkey, List.length_append] at hlength
        obtain ⟨fuel, rfl⟩ := Nat.exists_eq_add_one_of_ne_zero (show fuel ≠ 0 by omega)
        rw [membersChars_last, hkey, List.append_assoc, List.append_assoc, List.cons_append]
        obtain ⟨o, ho⟩ := readString_stringChars style.asciiOnly k
          (':' :: (blanks' ++ (chars style v ++ '}' :: tail))) pos
        obtain ⟨p, hp⟩ := readValue_chars hs v hd.1 hv fuel (by omega)
          (closes_cons (.inr (.inr rfl)) tail) (o + 1 + blanks'.length)
        refine ⟨p + 1, readMembers_last rfl ho ?_⟩
        rw [((opens_chars hs v).append _).skip_blanks hblanks', hp]
      · rw [membersChars_more k v hrest, hkey, hsep] at hlength
        simp only [List.length_append, List.length_cons] at hlength
        obtain ⟨fuel, rfl⟩ := Nat.exists_eq_add_one_of_ne_zero (show fuel ≠ 0 by omega)
        have htext : membersChars style ((k, v) :: rest) ++ '}' :: tail =
            stringChars style.asciiOnly k ++ ':' :: (blanks' ++ (chars style v ++
              ',' :: (blanks ++ (membersChars style rest ++ '}' :: tail)))) := by
          rw [membersChars_more k v hrest, hkey, hsep]
          simp only [List.append_assoc, List.cons_append]
        rw [htext]
        obtain ⟨o, ho⟩ := readString_stringChars style.asciiOnly k _ pos
        obtain ⟨p, hp⟩ := readValue_chars hs v hd.1 hv fuel (by omega)
          (closes_cons (.inl rfl) (blanks ++ (membersChars style rest ++ '}' :: tail)))
          (o + 1 + blanks'.length)
        obtain ⟨q, hq⟩ := readMembers_chars hs rest hrest hd.2 hwrest fuel tail
          (by omega) (p + 1 + blanks.length)
        rw [← ((opens_chars hs v).append _).skip_blanks hblanks'] at hp
        rw [← (opens_members hrest _).skip_blanks hblanks] at hq
        exact ⟨q, readMembers_more rfl ho hp hq⟩

end

/-- **The text of a value is read as the value.** -/
theorem parse_text (hs : Readable style) {v : Json} (hd : Distinct v) (hw : defect? style v = none) :
    parse (text style v) = .ok v := by
  obtain ⟨c, rest, hchars, hspace, -, -, hmark⟩ := opens_chars hs v
  have hlength : (chars style v).length ≤ 2 * (chars style v).length + 1 + 1 := by omega
  obtain ⟨p, hp⟩ := readValue_chars hs v hd hw _ hlength closes_nil 0
  have hskip : Rest.skip ⟨chars style v, 0⟩ = ⟨chars style v, 0⟩ := by
    rw [hchars]
    exact skip_head hspace rest 0
  have hall : parseAll .lenient (chars style v) = .ok v := by
    rw [List.append_nil] at hp
    rw [parseAll, hskip, hp]
    rfl
  rw [parse, parseText, text, String.toList_ofList]
  split
  · next heq =>
    rw [hchars] at heq
    exact absurd (List.cons.inj heq).1 hmark
  · exact hall

end Values

/-! ## What the reader makes -/

section Made

variable {d : Dialect}

theorem distinct_of_word {r r' : Rest} {v : Json} (h : word? d r = some (v, r')) : Distinct v := by
  obtain ⟨w, hw, heq⟩ := Option.map_eq_some_iff.mp h
  have hall : ∀ w ∈ standardWords ++ nonFiniteWords, Distinct w.2 := by
    simp [standardWords, nonFiniteWords, Distinct]
  have hmem : w ∈ standardWords ++ nonFiniteWords := by
    have hmem := List.mem_of_find?_eq_some hw
    rw [words] at hmem
    split at hmem
    · exact hmem
    · exact List.mem_append_left _ hmem
  exact (Prod.mk.inj heq).1 ▸ hall w hmem

theorem distinct_of_number {r r' : Rest} {v : Json} (h : readNumber d r = .ok (v, r')) :
    Distinct v := by
  unfold readNumber at h
  split at h
  split at h
  · cases h
  · dsimp only at h
    split at h
    · split at h
      · cases h
      · cases h
        trivial
    · split at h
      · cases h
        trivial
      · cases h

theorem distinct_of_read : ∀ (fuel : Nat) (d : Dialect),
    (∀ r v r', readValue d fuel r = .ok (v, r') → Distinct v) ∧
    (∀ r items r', readItems d fuel r = .ok (items, r') → DistinctItems items) ∧
    (∀ r members r', readMembers d fuel r = .ok (members, r') → DistinctFields members)
  | 0, _ => ⟨fun _ _ _ h => (nomatch h), fun _ _ _ h => (nomatch h), fun _ _ _ h => nomatch h⟩
  | fuel + 1, d => by
      obtain ⟨hvalue, hitems, hmembers⟩ := distinct_of_read fuel d
      refine ⟨fun r v r' h => ?_, fun r items r' h => ?_, fun r members r' h => ?_⟩
      · unfold readValue at h
        split at h
        · -- a text
          obtain ⟨⟨s, rest⟩, -, h⟩ := bind_eq_ok.mp h
          cases h
          trivial
        · -- an array
          split at h
          · cases h
          · next inner _ =>
            dsimp only at h
            split at h
            · cases h
              trivial
            · obtain ⟨⟨items, rest⟩, hread, h⟩ := bind_eq_ok.mp h
              cases h
              exact (distinct_of_read fuel inner).2.1 _ _ _ hread
        · -- an object
          split at h
          · cases h
          · next inner _ =>
            dsimp only at h
            split at h
            · cases h
              exact ⟨List.nodup_nil, trivial⟩
            · obtain ⟨⟨pairs, rest⟩, hread, h⟩ := bind_eq_ok.mp h
              cases h
              exact Fields.distinct_ofPairs ((distinct_of_read fuel inner).2.2 _ _ _ hread)
        · split at h
          · next hword =>
            cases h
            exact distinct_of_word hword
          · exact distinct_of_number h
      · unfold readItems at h
        obtain ⟨⟨item, rest⟩, hread, h⟩ := bind_eq_ok.mp h
        dsimp only at h
        split at h
        · cases h
          exact ⟨hvalue _ _ _ hread, trivial⟩
        · obtain ⟨⟨others, rest'⟩, hothers, h⟩ := bind_eq_ok.mp h
          cases h
          exact ⟨hvalue _ _ _ hread, hitems _ _ _ hothers⟩
        · cases h
      · unfold readMembers at h
        split at h
        · obtain ⟨⟨key, rest⟩, -, h⟩ := bind_eq_ok.mp h
          dsimp only at h
          split at h
          · obtain ⟨⟨value, rest'⟩, hread, h⟩ := bind_eq_ok.mp h
            dsimp only at h
            split at h
            · cases h
              exact ⟨hvalue _ _ _ hread, trivial⟩
            · obtain ⟨⟨others, rest''⟩, hothers, h⟩ := bind_eq_ok.mp h
              cases h
              exact ⟨hvalue _ _ _ hread, hmembers _ _ _ hothers⟩
            · cases h
          · cases h
        · cases h

theorem distinct_of_parseAll {s : List Char} {v : Json} (h : parseAll d s = .ok v) :
    Distinct v := by
  rw [parseAll] at h
  obtain ⟨⟨w, rest⟩, hread, h⟩ := bind_eq_ok.mp h
  dsimp only at h
  split at h
  · cases h
    exact (distinct_of_read _ d).1 _ _ _ hread
  · cases h

/-- **The reader makes objects with distinct keys.** -/
theorem distinct_of_parseText {s : String} {v : Json} (h : parseText d s = .ok v) :
    Distinct v := by
  rw [parseText] at h
  split at h
  · cases h
  · exact distinct_of_parseAll h

end Made

end Json

/-- **A text that was written is read as what was written.** -/
theorem readJson_of_writeJson {style : JsonStyle} (hs : Json.Readable style) {v : Json} {text : String}
    (hd : v.Distinct) (h : writeJson style v = .ok text) : readJson text = .ok v := by
  obtain ⟨hw, rfl⟩ := writeJson_eq_ok.mp h
  rw [readJson, Json.parse_text hs hd hw]

theorem distinct_of_readJson {text : String} {v : Json} (h : readJson text = .ok v) : v.Distinct := by
  rw [readJson] at h
  split at h
  · next hparse =>
    cases h
    exact Json.distinct_of_parseText hparse
  · cases h
  · cases h
  · cases h

end StoryServer
