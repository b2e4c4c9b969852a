import Mathlib.Data.Nat.Digits.Defs
import StoryServer.Proofs.Json.RoundTrip

/-!
# What the reader refuses

A text is read as a value, or a place in it is complained of, or a whole number in it is refused
because it has too many digits, or a bracket in it because there is no room for another level.
Nothing else can happen: a number with a fraction or an exponent is always read
(`readDouble_written`), the digits that are refused stand in the text (`number_of_parseText`), and
a text that is too deep has more opening brackets than there is room for (`deep_of_parseText`).
The whole numbers of a value that was read are short enough to be written again, and its levels
fit into the room (`sound_of_parseText`).

`Reads` says all of this of any reader of a part, and the facts go through the values, items and
members together, by induction on the budget.
-/

namespace StoryServer

namespace Json

open Number

/-! ## Doubles -/

/-- What can stand between a whole part and an exponent. -/
inductive Fraction : List Char → Prop
  | absent : Fraction []
  | present {ds : List Char} (hds : ∀ c ∈ ds, c.isDigit = true) : Fraction ('.' :: ds)

/-- What can stand at the end of a number. -/
inductive Exponent : List Char → Prop
  | absent : Exponent []
  | present {e : Char} {sign ds : List Char} (he : e = 'e' ∨ e = 'E')
      (hsign : sign = [] ∨ sign = ['+'] ∨ sign = ['-']) (hne : ds ≠ [])
      (hds : ∀ c ∈ ds, c.isDigit = true) : Exponent (e :: (sign ++ ds))

theorem isDigit_taken {s : List Char} : ∀ c ∈ s.takeWhile isAsciiDigit, c.isDigit = true :=
  fun _ hc => List.mem_takeWhile_imp hc

theorem fraction_fractionPart (s : List Char) : Fraction (fractionPart s) := by
  unfold fractionPart
  split
  · split
    · exact .absent
    · exact .present isDigit_taken
  · exact .absent

theorem exponent_exponentPart (s : List Char) : Exponent (exponentPart s) := by
  cases s with
  | nil => exact .absent
  | cons e rest =>
      unfold exponentPart
      dsimp only
      split
      · rename_i he
        split
        · exact .absent
        · rename_i hne
          refine .present (by simpa using he) ?_ hne isDigit_taken
          split <;> simp
      · exact .absent

theorem Exponent.halts {s : List Char} (h : Exponent s) : Halts s := by
  cases h with
  | absent => exact halts_nil
  | present he =>
      intro c hc
      obtain rfl := Option.some.inj hc
      obtain rfl | rfl := he <;> decide

theorem Exponent.read {s : List Char} (h : Exponent s) : ∃ e, exponent? s = some e := by
  cases h with
  | absent => exact ⟨0, rfl⟩
  | @present e sign ds he hsign hne hds =>
      have hbeq : (e == 'e' || e == 'E') = true := by simpa using he
      obtain ⟨d, rest, rfl⟩ := List.exists_cons_of_ne_nil hne
      have hrun := digitRun_digits halts_nil hds false
      rw [List.append_nil, List.map_cons] at hrun
      have hd := hds d List.mem_cons_self
      have hsigned : ∃ negative, Number.sign (sign ++ d :: rest) = (negative, d :: rest) := by
        obtain rfl | rfl | rfl := hsign
        · refine ⟨false, ?_⟩
          unfold Number.sign
          split
          · next heq => cases (List.cons.inj heq).1; cases hd
          · next heq => cases (List.cons.inj heq).1; cases hd
          · rfl
        · exact ⟨false, rfl⟩
        · exact ⟨true, rfl⟩
      obtain ⟨negative, hsigned⟩ := hsigned
      simp only [exponent?, hbeq, if_true, hsigned, hrun]
      exact ⟨_, rfl⟩

theorem Exponent.mark {s : List Char} (h : Exponent s) :
    ∀ c ∈ s, c.isDigit = true ∨ c ∈ ['-', '+', '.', 'e', 'E'] := by
  cases h with
  | absent => exact fun _ h => nomatch h
  | present he hsign hne hds =>
      intro c hc
      rcases List.mem_cons.mp hc with rfl | hc
      · exact .inr (by obtain rfl | rfl := he <;> decide)
      · rcases List.mem_append.mp hc with hc | hc
        · refine .inr ?_
          obtain rfl | rfl | rfl := hsign
          · cases hc
          · obtain rfl := List.mem_singleton.mp hc
            decide
          · obtain rfl := List.mem_singleton.mp hc
            decide
        · exact .inl (hds c hc)

theorem Fraction.mark {s : List Char} (h : Fraction s) :
    ∀ c ∈ s, c.isDigit = true ∨ c ∈ ['-', '+', '.', 'e', 'E'] := by
  cases h with
  | absent => exact fun _ h => nomatch h
  | present hds =>
      intro c hc
      rcases List.mem_cons.mp hc with rfl | hc
      · exact .inr (by decide)
      · exact .inl (hds c hc)

theorem Exponent.not_point {s : List Char} (h : Exponent s) (more : List Char) :
    s ≠ '.' :: more := by
  cases h with
  | absent => exact nofun
  | present he =>
      intro heq
      obtain rfl | rfl := he <;> cases heq

/-- Digits with a fraction and an exponent are a double. -/
theorem readDouble_written (negative : Bool) {whole fraction exponent : List Char}
    (hne : whole ≠ []) (hw : ∀ c ∈ whole, c.isDigit = true) (hf : Fraction fraction)
    (he : Exponent exponent) : ∃ x, readDouble (String.ofList
      ((if negative then ['-'] else []) ++ (whole ++ (fraction ++ exponent)))) = .ok x := by
  have hdecimal : ∃ x, decimal? negative (whole ++ (fraction ++ exponent)) = some x := by
    obtain ⟨e, hread⟩ := he.read
    have hmap : whole.map (fun c => c.toNat - 48) ≠ [] := by simpa using hne
    cases hf with
    | absent =>
        have hrun := digitRun_digits he.halts hw false
        exact ⟨_, (decimal?_of_whole negative hrun hmap he.not_point).trans (by rw [hread]; rfl)⟩
    | @present ds hds =>
        have hrun := digitRun_digits (halts_point (ds ++ exponent)) hw false
        have hrun' := digitRun_digits he.halts hds false
        exact ⟨_, (decimal?_of_point negative hrun hmap hrun').trans (by rw [hread]; rfl)⟩
  obtain ⟨c, rest, rfl⟩ := List.exists_cons_of_ne_nil hne
  obtain ⟨x, hx⟩ := hdecimal
  refine ⟨x, ?_⟩
  rw [List.cons_append] at hx ⊢
  rw [readDouble_decimal negative (hw c List.mem_cons_self), hx]
  intro d hd
  rcases List.mem_append.mp hd with hd | hd
  · exact .inl (hw d (List.mem_cons_of_mem c hd))
  · exact (List.mem_append.mp hd).elim (hf.mark d) (he.mark d)

/-! ## Whole numbers -/

theorem wholePart_digits (s : List Char) : ∀ c ∈ wholePart s, c.isDigit = true := by
  unfold wholePart
  split
  · intro c hc
    obtain rfl := List.mem_singleton.mp hc
    rfl
  · exact isDigit_taken

theorem wholePart_begins (s : List Char) : wholePart s <+: s := by
  unfold wholePart
  split
  · exact ⟨_, rfl⟩
  · exact List.takeWhile_prefix _

theorem ofDigits_lt {ds : List Nat} (h : ∀ d ∈ ds, d < 10) : ofDigits ds < 10 ^ ds.length := by
  have hfold : ∀ (ds : List Nat) (n : Nat), (∀ d ∈ ds, d < 10) →
      ds.foldl (fun n d => 10 * n + d) n < (n + 1) * 10 ^ ds.length := by
    intro ds
    induction ds with
    | nil => intro n _; simp
    | cons d rest ih =>
        intro n hds
        have hd : d < 10 := hds d List.mem_cons_self
        have hrest := ih (10 * n + d) fun e he => hds e (List.mem_cons_of_mem d he)
        calc (d :: rest).foldl (fun n d => 10 * n + d) n
            < (10 * n + d + 1) * 10 ^ rest.length := hrest
          _ ≤ ((n + 1) * 10) * 10 ^ rest.length := Nat.mul_le_mul_right _ (by omega)
          _ = (n + 1) * 10 ^ (d :: rest).length := by rw [List.length_cons, Nat.pow_succ]; ring
  simpa [ofDigits] using hfold ds 0 h

/-- A whole number has no more digits than it was written with. -/
theorem digits_wholeNumber {ds : List Char} (negative : Bool) (hne : ds ≠ [])
    (h : ∀ c ∈ ds, c.isDigit = true) :
    (Nat.toDigits 10 (wholeNumber negative ds).natAbs).length ≤ ds.length := by
  have habs : (wholeNumber negative ds).natAbs = ofDigits (ds.map fun d => d.toNat - 0x30) := by
    rw [wholeNumber]
    split <;> simp
  have hlt : ofDigits (ds.map fun d => d.toNat - 0x30) < 10 ^ ds.length := by
    have hsmall : ∀ d ∈ ds.map fun d => d.toNat - 0x30, d < 10 := by
      intro d hd
      obtain ⟨c, hc, rfl⟩ := List.mem_map.mp hd
      have := digit_toNat (h c hc)
      omega
    simpa using ofDigits_lt hsmall
  rw [habs]
  exact Nat.toDigits_length 10 _ _ (List.length_pos_iff.mpr hne) hlt

/-! ## Readers -/

/-- A text holds this many digits in a row, more than a whole number may have. -/
def Overlong (s : List Char) (n : Nat) : Prop :=
  digitLimit < n ∧ ∃ ds, ds <:+: s ∧ ds.length = n ∧ ∀ c ∈ ds, c.isDigit = true

theorem Overlong.of_infix {s t : List Char} {n : Nat} (h : Overlong s n) (hs : s <:+: t) :
    Overlong t n := by
  obtain ⟨hn, ds, hds, hlength, hdigits⟩ := h
  exact ⟨hn, ds, hds.trans hs, hlength, hdigits⟩

/-- How many brackets are opened in a text, if those inside quotes are counted too. -/
def brackets (s : List Char) : Nat := s.countP fun c => c == '[' || c == '\x7b'

theorem brackets_of_suffix {s t : List Char} (h : s <:+ t) : brackets s ≤ brackets t :=
  h.sublist.countP_le

/-- The text opens more brackets than there is room for. -/
def Deep (room : Option Nat) (s : List Char) : Prop := ∃ n, room = some n ∧ n < brackets s

/-- What a reader of a part makes of a rest: what it should, and a rest that was there already;
or a complaint; or the refusal of digits that stand there, or of one bracket too many. -/
def Reads {α : Type} (room : Option Nat) (P : α → Prop) (r : Rest) :
    Except ReadDefect (α × Rest) → Prop
  | .ok (a, rest) => P a ∧ rest.chars <:+ r.chars
  | .error (.syntaxAt _ _) => True
  | .error (.number d) => ∃ n, d = .tooManyDigits n ∧ Overlong r.chars n
  | .error (.tooDeep _) => Deep room r.chars

section Reads

variable {α β : Type} {P : α → Prop} {Q : β → Prop} {r r' : Rest} {room : Option Nat}

theorem Reads.of_suffix {x : Except ReadDefect (α × Rest)} (h : r'.chars <:+ r.chars)
    (hx : Reads room P r' x) : Reads room P r x := by
  match x, hx with
  | .ok _, ⟨ha, hrest⟩ => exact ⟨ha, hrest.trans h⟩
  | .error (.syntaxAt _ _), _ => trivial
  | .error (.number _), ⟨n, hd, hn⟩ => exact ⟨n, hd, hn.of_infix h.isInfix⟩
  | .error (.tooDeep _), ⟨n, hroom, hn⟩ => exact ⟨n, hroom, hn.trans_le (brackets_of_suffix h)⟩

theorem Reads.bind {x : Except ReadDefect (α × Rest)}
    {next : α × Rest → Except ReadDefect (β × Rest)} (hx : Reads room P r x)
    (hnext : ∀ a rest, P a → Reads room Q rest (next (a, rest))) : Reads room Q r (x >>= next) := by
  match x, hx with
  | .ok (a, rest), ⟨ha, hrest⟩ => exact .of_suffix hrest (hnext a rest ha)
  | .error (.syntaxAt _ _), _ => trivial
  | .error (.number _), hd => exact hd
  | .error (.tooDeep _), hd => exact hd

theorem suffix_drop (r : Rest) (n : Nat) : (r.drop n).chars <:+ r.chars :=
  List.drop_suffix n r.chars

theorem suffix_skip (r : Rest) : r.skip.chars <:+ r.chars := suffix_drop r _

end Reads

/-- Whether a value can be written to a client. -/
def Writable (v : Json) : Prop := defect? .spaced v = none

/-- What is made of a text: it can be written, and shown where there is as much room as it was
read in. -/
structure Sound (room : Option Nat) (v : Json) : Prop where
  writable : Writable v
  shown : ∀ n, room = some n → v.obstacle? n = none

/-- A value that has no parts is sound in every room if it can be written. -/
theorem Sound.of_writable {v : Json} {room : Option Nat} (h : Writable v)
    (hflat : (∀ items, v ≠ .arr items) ∧ ∀ fields, v ≠ .obj fields) : Sound room v := by
  refine ⟨h, fun n _ => ?_⟩
  cases v with
  | arr items => exact absurd rfl (hflat.1 items)
  | obj fields => exact absurd rfl (hflat.2 fields)
  | int k =>
      rw [Writable, defect?] at h
      rw [obstacle?]
      split at h
      · cases h
      · exact if_neg ‹_›
  | _ => rfl

/-- A text is read, or a place in it is complained of. -/
theorem reads_stringFrom (room : Option Nat) (start : Nat) : ∀ (fuel : Nat) (s : List Char)
    (pos : Nat) (acc : List Char),
    Reads room (fun _ => True) ⟨s, pos⟩ (stringFrom start fuel s pos acc)
  | 0, _, _, _ => trivial
  | fuel + 1, s, pos, acc => by
      have hgo (n pos' : Nat) (acc' : List Char) {s' : List Char} (hs : s' = s.drop n) :
          Reads room (fun _ => True) ⟨s, pos⟩ (stringFrom start fuel s' pos' acc') :=
        .of_suffix (hs ▸ List.drop_suffix n s) (reads_stringFrom room start fuel s' pos' acc')
      unfold stringFrom
      split
      · trivial
      · exact ⟨trivial, List.suffix_cons _ _⟩
      · trivial
      · -- an escape in hexadecimal digits
        split
        · trivial
        · split
          · split
            · exact hgo 12 _ _ rfl
            · trivial
            · exact hgo 6 _ _ rfl
          · exact hgo 6 _ _ rfl
      · -- an escape of one letter
        split
        · exact hgo 2 _ _ rfl
        · trivial
      · split
        · trivial
        · exact hgo 1 _ _ rfl

theorem reads_string (room : Option Nat) (r : Rest) :
    Reads room (fun _ => True) r (readString (r.drop 1)) :=
  .of_suffix (suffix_drop r 1) (reads_stringFrom _ _ _ _ _ _)

theorem sound_word {d : Dialect} {r r' : Rest} {v : Json} (h : word? d r = some (v, r')) :
    Sound d.room v ∧ r'.chars <:+ r.chars := by
  obtain ⟨w, hw, heq⟩ := Option.map_eq_some_iff.mp h
  obtain ⟨rfl, rfl⟩ := Prod.mk.inj heq
  have hall : ∀ w ∈ standardWords ++ nonFiniteWords, Sound d.room w.2 := by
    have hflat {v : Json} (hv : Writable v) (hparts : (∀ items, v ≠ .arr items) ∧
        ∀ fields, v ≠ .obj fields) : Sound d.room v := .of_writable hv hparts
    simp only [standardWords, nonFiniteWords, List.forall_mem_append, List.forall_mem_cons]
    exact ⟨⟨hflat rfl (by simp), hflat rfl (by simp), hflat rfl (by simp), List.forall_mem_nil _⟩,
      hflat rfl (by simp), hflat rfl (by simp), hflat rfl (by simp), List.forall_mem_nil _⟩
  have hmem := List.mem_of_find?_eq_some hw
  refine ⟨hall w ?_, suffix_drop r _⟩
  rw [words] at hmem
  split at hmem
  · exact hmem
  · exact List.mem_append_left _ hmem

/-- A number is refused for the digits of its whole part only. -/
theorem reads_number {d : Dialect} (hd : d.bounded = true) (r : Rest) :
    Reads d.room (Sound d.room) r (readNumber d r) := by
  unfold readNumber
  split
  rename_i minus body hsign
  have hbody : body <:+ r.chars ∧ ∃ negative : Bool, minus = if negative then ['-'] else [] := by
    split at hsign <;> cases hsign
    · rename_i h
      exact ⟨h ▸ List.suffix_cons _ _, true, rfl⟩
    · exact ⟨List.suffix_refl _, false, rfl⟩
  obtain ⟨hbody, negative, hminus⟩ := hbody
  have hdigits := wholePart_digits body
  have hinfix : wholePart body <:+: r.chars := (wholePart_begins body).isInfix.trans hbody.isInfix
  split
  · trivial
  · rename_i hne
    dsimp only
    split
    · split
      · -- too many digits
        rename_i hlong
        have hlong : digitLimit < (wholePart body).length := by
          simpa [hd] using hlong
        exact ⟨_, rfl, hlong, wholePart body, hinfix, rfl, hdigits⟩
      · rename_i hshort
        have hshort : (wholePart body).length ≤ digitLimit := by
          simpa [hd] using hshort
        refine ⟨.of_writable ?_ ⟨nofun, nofun⟩, suffix_drop r _⟩
        have hwritten := (digits_wholeNumber (!minus.isEmpty) hne hdigits).trans hshort
        exact if_neg (not_lt.mpr hwritten)
    · -- a double
      obtain ⟨x, hx⟩ := readDouble_written negative hne hdigits
        (fraction_fractionPart _) (exponent_exponentPart _)
      rw [← hminus, ← List.append_assoc, ← List.append_assoc] at hx
      rw [hx]
      exact ⟨.of_writable (by cases x <;> rfl) ⟨nofun, nofun⟩, suffix_drop r _⟩

/-! ## Values -/

/-- What holds of all values in a list of pairs holds of those in the object that it makes. -/
theorem forall_ofPairs {P : Json → Prop} {pairs : Fields} (h : ∀ p ∈ pairs, P p.2) :
    ∀ p ∈ Fields.ofPairs pairs, P p.2 := by
  have hput : ∀ (fields : Fields) (k : String) (v : Json), (∀ p ∈ fields, P p.2) → P v →
      ∀ p ∈ fields.put k v, P p.2 := by
    intro fields k v hfields hv
    induction fields with
    | nil => simpa [Fields.put] using hv
    | cons p rest ih =>
        obtain ⟨hp, hrest⟩ := List.forall_mem_cons.mp hfields
        rw [Fields.put]
        split
        · exact List.forall_mem_cons.mpr ⟨hv, hrest⟩
        · exact List.forall_mem_cons.mpr ⟨hp, ih hrest⟩
  exact List.foldlRecOn pairs _ (motive := fun fields => ∀ p ∈ fields, P p.2) (List.forall_mem_nil _)
    fun fields hfields p hp => hput fields p.1 p.2 hfields (h p hp)

section Sound

variable {d inner : Dialect} (hinner : d.inner? = some inner)

include hinner

theorem room_inner {n : Nat} (h : d.room = some n) : ∃ k, n = k + 1 ∧ inner.room = some k := by
  rw [Dialect.inner?] at hinner
  split at hinner
  · next hnone => exact absurd (hnone.symm.trans h) nofun
  · cases hinner
  · next k hk =>
    cases hinner
    exact ⟨k, Option.some.inj (h.symm.trans hk), rfl⟩

theorem sound_arr {items : List Json} (h : ∀ v ∈ items, Sound inner.room v) :
    Sound d.room (.arr items) := by
  refine ⟨itemsDefect?_eq_none.mpr fun v hv => (h v hv).writable, fun n hn => ?_⟩
  obtain ⟨k, rfl, hk⟩ := room_inner hinner hn
  exact obstacleIn?_eq_none.mpr fun v hv => (h v hv).shown k hk

theorem sound_obj {pairs : Fields} (h : ∀ p ∈ pairs, Sound inner.room p.2) :
    Sound d.room (.obj (Fields.ofPairs pairs)) := by
  have hfields := forall_ofPairs h
  refine ⟨fieldsDefect?_eq_none.mpr fun p hp => (hfields p hp).writable, fun n hn => ?_⟩
  obtain ⟨k, rfl, hk⟩ := room_inner hinner hn
  exact obstacleAmong?_eq_none.mpr fun p hp => (hfields p hp).shown k hk

end Sound

/-- What is refused inside brackets is refused with the brackets around it. -/
theorem Reads.inside {α : Type} {P : α → Prop} {d inner : Dialect} (hinner : d.inner? = some inner)
    {r r' : Rest} {c : Char} {more : List Char} (hr : r.chars = c :: more)
    (hc : (c == '[' || c == '\x7b') = true) (h : r'.chars <:+ (r.drop 1).chars)
    {x : Except ReadDefect (α × Rest)} (hx : Reads inner.room P r' x) : Reads d.room P r x := by
  have hmore : r'.chars <:+ more := by rwa [Rest.drop, hr] at h
  have hsuffix : r'.chars <:+ r.chars := hr ▸ hmore.trans (List.suffix_cons c more)
  cases x with
  | ok p => exact ⟨hx.1, hx.2.trans hsuffix⟩
  | error e =>
      cases e with
      | syntaxAt complaint position => trivial
      | number d =>
          obtain ⟨n, hd, hn⟩ := hx
          exact ⟨n, hd, hn.of_infix hsuffix.isInfix⟩
      | tooDeep kind =>
          obtain ⟨n, hroom, hn⟩ := hx
          -- one level of the room is taken by the bracket
          have hbrackets : brackets more + 1 = brackets r.chars := by
            rw [hr, brackets, brackets, List.countP_cons, hc, if_pos rfl]
          have hfew := brackets_of_suffix hmore
          rw [Dialect.inner?] at hinner
          split at hinner
          · cases hinner
            next hnone => cases hnone.symm.trans hroom
          · cases hinner
          · next k hk =>
            cases hinner
            cases hroom
            exact ⟨_, hk, by omega⟩

/-- There is no room for an opening bracket only where no level is left. -/
theorem deep_of_inner {d : Dialect} (hinner : d.inner? = none) {r : Rest} {c : Char}
    {more : List Char} (hr : r.chars = c :: more) (hc : (c == '[' || c == '\x7b') = true) :
    Deep d.room r.chars := by
  have hroom : d.room = some 0 := by
    rw [Dialect.inner?] at hinner
    split at hinner
    · cases hinner
    · assumption
    · cases hinner
  refine ⟨0, hroom, ?_⟩
  rw [hr, brackets, List.countP_cons, hc, if_pos rfl]
  exact Nat.succ_pos _

theorem bounded_inner {d inner : Dialect} (hinner : d.inner? = some inner) :
    inner.bounded = d.bounded := by
  rw [Dialect.inner?] at hinner
  split at hinner <;> cases hinner <;> rfl

/-- **Every reader of a part reads or complains, or refuses digits that stand there or one bracket
too many.** -/
theorem reads_parts : ∀ (fuel : Nat) {d : Dialect}, d.bounded = true →
    (∀ r, Reads d.room (Sound d.room) r (readValue d fuel r)) ∧
    (∀ r, Reads d.room (fun items => ∀ v ∈ items, Sound d.room v) r (readItems d fuel r)) ∧
    (∀ r, Reads d.room (fun pairs => ∀ p ∈ pairs, Sound d.room p.2) r (readMembers d fuel r))
  | 0, _, _ => ⟨fun _ => trivial, fun _ => trivial, fun _ => trivial⟩
  | fuel + 1, d, hd => by
      obtain ⟨hvalue, hitems, hmembers⟩ := reads_parts fuel hd
      refine ⟨fun r => ?_, fun r => ?_, fun r => ?_⟩
      · unfold readValue
        split
        · exact (reads_string _ r).bind fun s rest _ =>
            ⟨.of_writable rfl ⟨nofun, nofun⟩, List.suffix_refl _⟩
        · -- an array
          next hr =>
          split
          · next hinner => exact deep_of_inner hinner hr rfl
          · next inner hinner =>
            refine .inside hinner hr rfl (suffix_skip _) ?_
            dsimp only
            split
            · exact ⟨sound_arr hinner (by simp), suffix_drop _ 1⟩
            · exact ((reads_parts fuel (bounded_inner hinner ▸ hd)).2.1 _).bind
                fun items rest h => ⟨sound_arr hinner h, List.suffix_refl _⟩
        · -- an object
          next hr =>
          split
          · next hinner => exact deep_of_inner hinner hr rfl
          · next inner hinner =>
            refine .inside hinner hr rfl (suffix_skip _) ?_
            dsimp only
            split
            · have hnone : ∀ p ∈ ([] : Fields), Sound inner.room p.2 := List.forall_mem_nil _
              exact ⟨sound_obj hinner hnone, suffix_drop _ 1⟩
            · exact ((reads_parts fuel (bounded_inner hinner ▸ hd)).2.2 _).bind
                fun pairs rest h => ⟨sound_obj hinner h, List.suffix_refl _⟩
        · split
          · exact sound_word ‹_›
          · exact reads_number hd r
      · unfold readItems
        refine (hvalue r).bind fun item rest hitem => .of_suffix (suffix_skip rest) ?_
        dsimp only
        split
        · exact ⟨List.forall_mem_singleton.mpr hitem, suffix_drop _ 1⟩
        · refine .of_suffix ((suffix_skip _).trans (suffix_drop _ 1))
            ((hitems _).bind fun items rest' h =>
              ⟨List.forall_mem_cons.mpr ⟨hitem, h⟩, List.suffix_refl _⟩)
        · trivial
      · unfold readMembers
        split
        · refine (reads_string _ r).bind fun key rest _ => .of_suffix (suffix_skip rest) ?_
          dsimp only
          split
          · refine .of_suffix ((suffix_skip _).trans (suffix_drop _ 1))
              ((hvalue _).bind fun value rest' hv => .of_suffix (suffix_skip rest') ?_)
            dsimp only
            split
            · exact ⟨List.forall_mem_singleton.mpr hv, suffix_drop _ 1⟩
            · refine .of_suffix ((suffix_skip _).trans (suffix_drop _ 1))
                ((hmembers _).bind fun members rest'' h =>
                  ⟨List.forall_mem_cons.mpr ⟨hv, h⟩, List.suffix_refl _⟩)
            · trivial
          · trivial
        · trivial

/-! ## Texts -/

section Texts

variable {d : Dialect}

theorem reads_whole (hd : d.bounded = true) (s : List Char) :
    Reads d.room (Sound d.room) ⟨s, 0⟩ (readValue d (2 * s.length + 2) (Rest.skip ⟨s, 0⟩)) :=
  .of_suffix (suffix_skip ⟨s, 0⟩) ((reads_parts _ hd).1 _)

/-- What was read can be written, and shown in the room in which it was read. -/
theorem sound_of_parseAll (hd : d.bounded = true) {s : List Char} {v : Json}
    (h : parseAll d s = .ok v) : Sound d.room v := by
  have hread := reads_whole hd s
  rw [parseAll] at h
  obtain ⟨⟨w, rest⟩, hvalue, h⟩ := bind_eq_ok.mp h
  rw [hvalue] at hread
  dsimp only at h
  split at h
  · cases h
    exact hread.1
  · cases h

/-- A text that is refused and not complained of is refused by the reader of values. -/
theorem refused_of_parseAll {s : List Char} {e : ReadDefect} (h : parseAll d s = .error e)
    (he : ∀ complaint position, e ≠ .syntaxAt complaint position) :
    readValue d (2 * s.length + 2) (Rest.skip ⟨s, 0⟩) = .error e := by
  rw [parseAll] at h
  cases hvalue : readValue d (2 * s.length + 2) (Rest.skip ⟨s, 0⟩) with
  | ok found =>
      rw [hvalue] at h
      dsimp only [bind, Except.bind] at h
      split at h <;> cases h
      exact absurd rfl (he _ _)
  | error e' =>
      rw [hvalue] at h
      cases h
      rfl

/-- **A text that is refused for its numbers has too many digits in a row.** -/
theorem number_of_parseAll (hd : d.bounded = true) {s : List Char} {defect : NumberDefect}
    (h : parseAll d s = .error (.number defect)) :
    ∃ n, defect = .tooManyDigits n ∧ Overlong s n := by
  have hread := reads_whole hd s
  rwa [refused_of_parseAll h nofun] at hread

/-- **A text that is refused for its depth has more opening brackets than there is room for.** -/
theorem deep_of_parseAll (hd : d.bounded = true) {s : List Char} {kind : Kind}
    (h : parseAll d s = .error (.tooDeep kind)) : Deep d.room s := by
  have hread := reads_whole hd s
  rwa [refused_of_parseAll h nofun] at hread

theorem sound_of_parseText (hd : d.bounded = true) {s : String} {v : Json}
    (h : parseText d s = .ok v) : Sound d.room v := by
  rw [parseText] at h
  split at h
  · cases h
  · exact sound_of_parseAll hd h

theorem number_of_parseText (hd : d.bounded = true) {s : String} {defect : NumberDefect}
    (h : parseText d s = .error (.number defect)) :
    ∃ n, defect = .tooManyDigits n ∧ Overlong s.toList n := by
  rw [parseText] at h
  split at h
  · cases h
  · exact number_of_parseAll hd h

theorem deep_of_parseText (hd : d.bounded = true) {s : String} {kind : Kind}
    (h : parseText d s = .error (.tooDeep kind)) : Deep d.room s.toList := by
  rw [parseText] at h
  split at h
  · cases h
  · exact deep_of_parseAll hd h

end Texts

/-- The text of a whole number with too many digits is refused. -/
theorem parse_overlong (room : Nat) {n : Int}
    (hn : digitLimit < (Nat.toDigits 10 n.natAbs).length) :
    parseText (.within room) (String.ofList (intChars n)) =
      .error (.number (.tooManyDigits (Nat.toDigits 10 n.natAbs).length)) := by
  have hproper := ofWhole_proper n
  have hn : (ofWhole n).whole.length > digitLimit := hn
  obtain ⟨c, rest, hchars, hspace, -, -, hmark⟩ := opens_numeral hproper
  have hread := readNumber_numeral hproper closes_nil 0
  rw [if_pos ⟨rfl, rfl⟩, if_pos hn] at hread
  have hvalue := readValue_numeral hproper (2 * (ofWhole n).chars.length + 1) [] 0
  rw [hread, List.append_nil] at hvalue
  obtain ⟨c', rest', hchars', hfirst⟩ := first_numeral hproper
  have hwithin (fuel : Nat) : readValue (.within room) fuel ⟨(ofWhole n).chars, 0⟩ =
      readValue .lenient fuel ⟨(ofWhole n).chars, 0⟩ := by
    rw [hchars']
    exact readValue_within (first_ne hfirst rfl (by decide)) (first_ne hfirst rfl (by decide)) _ _ _ _
  have hskip : Rest.skip ⟨(ofWhole n).chars, 0⟩ = ⟨(ofWhole n).chars, 0⟩ := by
    rw [hchars]
    exact skip_head hspace rest 0
  rw [← chars_ofWhole, parseText, String.toList_ofList]
  split
  · next heq =>
    rw [hchars] at heq
    exact absurd (List.cons.inj heq).1 hmark
  · rw [parseAll, hskip, hwithin, hvalue]
    rfl

/-- A bracket takes one level, and the next one is an item. -/
theorem readValue_bracket {room fuel pos : Nat} {rest : List Char} {e : ReadDefect}
    (h : readValue (.within room) fuel ⟨'[' :: rest, pos + 1⟩ = .error e) :
    readValue (.within (room + 1)) (fuel + 2) ⟨'[' :: '[' :: rest, pos⟩ = .error e := by
  have hitems : readItems (.within room) (fuel + 1) ⟨'[' :: rest, pos + 1⟩ = .error e := by
    rw [readItems, h]
    rfl
  rw [readValue]
  dsimp only
  rw [show Rest.drop ⟨'[' :: '[' :: rest, pos⟩ 1 = ⟨'[' :: rest, pos + 1⟩ from rfl,
    skip_head (show isSpace '[' = false from rfl),
    show (Dialect.within (room + 1)).inner? = some (.within room) from rfl]
  dsimp only
  rw [hitems]
  rfl

/-- There is no room for the last of so many brackets. -/
theorem readValue_deep : ∀ (room : Nat) {fuel : Nat} (pos : Nat), 2 * room < fuel →
    readValue (.within room) fuel ⟨List.replicate (room + 1) '[', pos⟩ = .error (.tooDeep .arr)
  | 0, _ + 1, _, _ => rfl
  | room + 1, fuel + 2, pos, h => by
      have hinside := readValue_deep room (pos + 1) (show 2 * room < fuel by omega)
      rw [List.replicate_succ, List.replicate_succ]
      exact readValue_bracket hinside

/-- A text with one bracket more than there is room for is refused. -/
theorem parse_deep (room : Nat) :
    parseText (.within room) (String.ofList (List.replicate (room + 1) '[')) =
      .error (.tooDeep .arr) := by
  have hfuel : 2 * room < 2 * (List.replicate (room + 1) '[').length + 2 := by
    rw [List.length_replicate]
    omega
  have hskip : Rest.skip ⟨List.replicate (room + 1) '[', 0⟩ = ⟨List.replicate (room + 1) '[', 0⟩ :=
    skip_head rfl _ 0
  rw [parseText, String.toList_ofList]
  split
  · next heq => exact absurd (List.cons.inj heq).1 (by decide)
  · rw [parseAll, hskip, readValue_deep room 0 hfuel]
    rfl

end Json

end StoryServer
