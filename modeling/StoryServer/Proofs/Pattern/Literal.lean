import Mathlib.Data.List.Infix
import StoryServer.Debug.Breakpoint
import StoryServer.Pattern.Reader

/-!
# Patterns without signs

Most targets of breakpoints are words of the story, with no sign in them that a pattern gives a
meaning to.  Such a target is a pattern all the same, and it is read and searched for as one.
`literal_hit` says that this comes to looking for it as a part of the text.

*Reading.*  Each token of the target is one of its characters, and each becomes a letter
(`readSequence_literal`).  Nothing is left over, and nothing is shared or factored out, so the
pattern is the sequence of these letters (`read_literal`).

*Searching.*  Letters match just the text they spell, wherever they begin (`run_letters`), and the
search tries all places in turn, as the search for a part does (`searchFrom_letters`).
-/

namespace StoryServer

namespace Pattern

/-- The characters that have a meaning in a pattern. -/
def signs : List Char :=
  ['.', '^', '$', '*', '+', '?', '\x7b', '\x7d', '[', ']', '\\', '|', '(', ')']

/-- Whether no character of a text has a meaning in a pattern. -/
def IsLiteral (s : List Char) : Prop := ∀ c ∈ s, c ∉ signs

/-- A character as an item of a sequence. -/
def letterItem (c : Char) : Item := { node := letter {} c.toNat }

/-- The pattern of a sequence of letters. -/
def letters (s : List Char) : Node := joined (s.map letterItem)

/-! ## Reading -/

theorem tokens_literal {s : List Char} (h : IsLiteral s) : tokens s = s.map .char := by
  induction s with
  | nil => rfl
  | cons c s ih =>
      have hc : c ≠ '\\' := fun hc => h c List.mem_cons_self (by rw [hc]; decide)
      rw [tokens.eq_4 _ _ (by simp [hc]) (by simp [hc]), List.map_cons,
        ih fun d hd => h d (List.mem_cons_of_mem _ hd)]

/-- A character without a meaning stands for itself. -/
theorem simpleItem_literal {c : Char} (h : c ∉ signs) : simpleItem {} c = letterItem c := by
  unfold simpleItem
  split <;> simp_all [signs, letterItem]

theorem run_bind_ok {α β : Type} {act : Reading α} {p q : Progress} {a : α}
    (h : act.run p = .ok (a, q)) (next : α → Reading β) :
    (act >>= next).run p = (next a).run q := by
  rw [StateT.run_bind, h]
  rfl

theorem peek?_run (p : Progress) : peek?.run p = .ok (p.rest.head?, p) := rfl

theorem head?_ne_dangling (s : List Char) : (s.map Token.char).head? ≠ some .dangling := by
  cases s <;> simp

/-- A character is passed before others. -/
theorem advance_char {p : Progress} {c : Char} {rest : List Char}
    (hrest : p.rest = .char c :: rest.map .char) :
    advance.run p = .ok ((), { p with rest := rest.map .char }) := by
  have hnext : ((p.rest.drop 1).head? != some Token.dangling) = true := by
    rw [hrest]
    exact bne_iff_ne.mpr (head?_ne_dangling rest)
  refine (run_bind_ok rfl _).trans ?_
  dsimp only
  rw [require, if_pos hnext, hrest]
  rfl

/-- A character without a meaning becomes a letter of the sequence. -/
theorem readSequence_char {c : Char} (h : c ∉ signs) {p : Progress} {rest : List Char}
    (hrest : p.rest = .char c :: rest.map .char) (n : Nat) (first : Bool) (done : List Item) :
    (readSequence (n + 1) first {} done).run p =
      (readSequence n first {} (letterItem c :: done)).run { p with rest := rest.map .char } := by
  rw [readSequence]
  refine (run_bind_ok (peek?_run p) _).trans ?_
  rw [hrest, List.head?_cons]
  split
  case h_6 d hd =>
    obtain rfl := Token.char.inj (Option.some.inj hd)
    refine (run_bind_ok (advance_char hrest) _).trans ?_
    rw [Bool.false_and, if_neg Bool.false_ne_true, Bool.false_and, if_neg Bool.false_ne_true]
    split
    case h_7 => rw [simpleItem_literal h]
    all_goals exact absurd (by decide) h
  all_goals simp_all [signs]

theorem readSequence_literal {s : List Char} (h : IsLiteral s) {p : Progress}
    (hrest : p.rest = s.map .char) {n : Nat} (hn : s.length < n) (first : Bool)
    (done : List Item) :
    (readSequence n first {} done).run p =
      .ok (dissolved (done.reverse ++ s.map letterItem), { p with rest := [] }) := by
  induction s generalizing p n done with
  | nil =>
      obtain ⟨n, rfl⟩ : ∃ m, n = m + 1 := Nat.exists_eq_add_one.mpr hn
      rw [readSequence]
      refine (run_bind_ok (peek?_run p) _).trans ?_
      have hp : { p with rest := [] } = p := by rw [← hrest.trans List.map_nil]
      rw [hp, hrest, List.map_nil, List.map_nil, List.append_nil]
      rfl
  | cons c s ih =>
      obtain ⟨n, rfl⟩ : ∃ m, n = m + 1 := Nat.exists_eq_add_one.mpr (by omega)
      rw [readSequence_char (h c List.mem_cons_self) hrest,
        ih (fun d hd => h d (List.mem_cons_of_mem _ hd)) rfl (by simpa using hn)]
      simp

/-- Letters are not held together by any group. -/
theorem dissolved_letters (s : List Char) : dissolved (s.map letterItem) = s.map letterItem := by
  rw [dissolved, List.flatMap_map]
  exact List.map_eq_flatMap.symm

theorem leadingTest?_letters (s : List Char) (negated : Bool) (items : List SetItem)
    (folding : Folding) : leadingTest? (letters s) ≠ some (.set negated items folding) := by
  rcases s with _ | ⟨c, _ | ⟨d, s⟩⟩ <;> simp [letters, joined, letterItem, letter, leadingTest?]

/-- A literal text is one branch, and nothing is left after it. -/
theorem readAlternatives_literal {s : List Char} (h : IsLiteral s) {n : Nat}
    (hn : s.length + 1 < n) :
    (readAlternatives n true {}).run { rest := s.map .char } =
      .ok (s.map letterItem, { rest := [] }) := by
  obtain ⟨n, rfl⟩ : ∃ m, n = m + 2 := Nat.exists_eq_add_of_le' (by omega : 2 ≤ n)
  have hsequence := readSequence_literal h (p := { rest := s.map .char }) rfl
    (n := n + 1) (by omega) true []
  have hbranches : (readBranches (n + 1) true {}).run { rest := [] } = .ok ([], { rest := [] }) := by
    rw [readBranches]
    rfl
  rw [readAlternatives]
  refine (run_bind_ok hsequence _).trans ?_
  refine (run_bind_ok hbranches _).trans ?_
  rw [List.reverse_nil, List.nil_append, dissolved_letters]
  rfl

/-- **A literal text is read as the sequence of its letters.** -/
theorem read_literal {target : String} (h : IsLiteral target.toList) :
    read target = .ok (letters target.toList) := by
  have hitems := readAlternatives_literal h (n := 4 * target.toList.length + 4) (by omega)
  have hstart : startingIn false (letters target.toList) = letters target.toList := by
    rw [startingIn]
    split
    · next ht => exact absurd ht (leadingTest?_letters _ _ _ _)
    · rfl
  have hfirst : ((target.toList.map Token.char).head? != some Token.dangling) = true :=
    bne_iff_ne.mpr (head?_ne_dangling _)
  rw [read, tokens_literal h, List.length_map, hfirst]
  dsimp only
  rw [run_bind_ok rfl, run_bind_ok hitems]
  exact congrArg Except.ok hstart

/-! ## Searching -/

/-- A letter is passed by just the character that it is. -/
theorem letter_holds (c d : Char) :
    (CharTest.letter false c.toNat .exact).holds d.toNat = (c == d) := by
  rw [Bool.eq_iff_iff]
  simp only [CharTest.holds, Folding.siblings, Folding.fold, bne_iff_ne, Bool.not_eq_false,
    List.contains_iff_mem, List.mem_singleton, Char.toNat_inj, beq_iff_eq]
  exact eq_comm

theorem run_joined_cons (i : Item) (items : List Item) (p : Place) (follow : Follow) :
    (joined (i :: items)).run p follow = i.node.run p fun q => (joined items).run q follow := by
  cases items <;> rfl

/-- Letters match just the text they spell. -/
theorem run_letters (s : List Char) (p : Place) :
    ((letters s).run p some).isSome = s.isPrefixOf p.after := by
  induction s generalizing p with
  | nil => simp [letters, joined, Node.run]
  | cons c s ih =>
      obtain ⟨before, after, position, groups⟩ := p
      rw [letters, List.map_cons, run_joined_cons, ← letters]
      cases after with
      | nil => rfl
      | cons d rest =>
          change (if (CharTest.letter false c.toNat .exact).holds d.toNat = true then
            (letters s).run ⟨d :: before, rest, position + 1, groups⟩ some else none).isSome = _
          rw [letter_holds, List.isPrefixOf, ← ih ⟨d :: before, rest, position + 1, groups⟩]
          cases c == d <;> rfl

theorem searchFrom_letters (s before after : List Char) (n : Nat) :
    (letters s).searchFrom before after n = Text.occursIn s after := by
  induction after generalizing before n with
  | nil =>
      rw [Node.searchFrom, run_letters, Text.occursIn]
      cases s <;> rfl
  | cons c rest ih => rw [Node.searchFrom, run_letters, ih, Text.occursIn]

/-- One text is found in another just if it is a part of it. -/
theorem occursIn_eq (part s : List Char) : Text.occursIn part s = decide (part <:+: s) := by
  induction s with
  | nil => cases part <;> simp [Text.occursIn]
  | cons c rest ih =>
      rw [Text.occursIn, ih, Bool.eq_iff_iff]
      simp [List.infix_cons_iff]

end Pattern

namespace Debug

open Pattern

/-- **A pattern without signs is a part of the text.**  A breakpoint on such a pattern is hit by just
the texts that its target occurs in, and so it would be if the target were taken for no pattern. -/
theorem literal_hit {target : String} (h : IsLiteral target.toList) (text : String)
    (changed : List String) :
    hitNamed "pattern" target (.str text) changed =
        .ok (decide (target.toList <:+: text.toList)) ∧
      holds (.str text) target = .ok (decide (target.toList <:+: text.toList)) := by
  have hfound : showsPattern (.str text) target = .ok (decide (target.toList <:+: text.toList)) := by
    rw [showsPattern, read_literal h]
    dsimp only
    rw [Node.search, searchFrom_letters, occursIn_eq]
  refine ⟨?_, by rw [holds, occursIn_eq]⟩
  exact (hitNamed_name .pattern target (.str text) changed).trans hfound

/-- A word with an accent at the end of a line. -/
theorem literal_hit_line :
    IsLiteral "t\u00e9\n".toList ∧
      hitNamed "pattern" "t\u00e9\n" (.str "L'\u00e9t\u00e9\n") [] = .ok true ∧
      hitNamed "pattern" "t\u00e9\n" (.str "t\u00e9 \n") [] = .ok false := by
  have hliteral : IsLiteral "t\u00e9\n".toList := by simp [IsLiteral, signs]
  exact ⟨hliteral, (literal_hit hliteral _ []).1.trans (by decide),
    (literal_hit hliteral _ []).1.trans (by decide)⟩

end Debug

end StoryServer
