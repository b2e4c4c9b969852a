import Mathlib.Data.List.DropRight
import StoryServer.Proofs.Chat.Fenced

/-!
# What is extracted needs no extraction

The code in a reply is taken out of it once, and what comes out is fit to be compiled: extracting
again changes nothing, no blanks stand around it, and no mark is left in it if a block was found
(`extract_settled`).  This holds for every reply, whatever its fences are.

*Blocks.*  `HasBlock s` says that a block stands somewhere in `s`: a mark, the word `ink` or none,
blanks with a line end among them, and a mark at any distance.  The search finds a block just if
there is one (`block?_isSome_iff`), and the body that it finds has no mark in it
(`extract_unmarked`).

*Parts.*  A block in a part of a text is a block in the text.  So dropping the blanks around a text
makes no block that was not there.
-/

namespace StoryServer

namespace Text

/-! ## Trimmed texts -/

/-- Whether the characters at both ends of a text fail `p`. -/
structure Trimmed (p : Char → Bool) (s : List Char) : Prop where
  first : ∀ c ∈ s.head?, p c = false
  last : ∀ c ∈ s.getLast?, p c = false

theorem trimEndBy_isPrefix (p : Char → Bool) (s : List Char) : trimEndBy p s <+: s :=
  List.rdropWhile_prefix p s

theorem trimBy_infix (p : Char → Bool) (s : List Char) : trimBy p s <:+: s :=
  (trimEndBy_isPrefix p _).isInfix.trans (List.dropWhile_suffix p).isInfix

theorem trimmed_trimBy (p : Char → Bool) (s : List Char) : Trimmed p (trimBy p s) := by
  refine ⟨fun c hc => ?_, fun c hc => ?_⟩
  · obtain ⟨rest, hrest⟩ := trimEndBy_isPrefix p (trimStartBy p s)
    have hne : trimBy p s ≠ [] := fun hnil => by simp [hnil] at hc
    have hhead : (s.dropWhile p).head? = some c :=
      calc (s.dropWhile p).head? = (trimBy p s ++ rest).head? := congrArg List.head? hrest.symm
        _ = (trimBy p s).head? := List.head?_append_of_ne_nil _ hne
        _ = some c := hc
    have hnot := List.head?_dropWhile_not p s
    rwa [hhead] at hnot
  · obtain ⟨hne, rfl⟩ := List.mem_getLast?_eq_getLast hc
    exact Bool.eq_false_iff.mpr (List.rdropWhile_last_not p (trimStartBy p s) hne)

theorem trimBy_of_trimmed {p : Char → Bool} {s : List Char} (h : Trimmed p s) : trimBy p s = s := by
  have hstart : trimStartBy p s = s := by
    cases s with
    | nil => rfl
    | cons c rest => exact List.dropWhile_cons_of_neg (by simp [h.first c rfl])
  rw [trimBy, hstart]
  exact List.rdropWhile_eq_self_iff.mpr fun hne => by
    simp [h.last _ (List.getLast?_eq_some_getLast hne)]

/-! ## The first cut -/

section Cut

variable {sep s a b : List Char}

theorem eq_of_cut? (h : cut? sep s = some (a, b)) : s = a ++ (sep ++ b) := by
  induction s generalizing a b with
  | nil =>
      rw [cut?] at h
      split at h
      · next hsep =>
        cases h
        rw [List.isEmpty_iff.mp hsep]
        rfl
      · cases h
  | cons c s ih =>
      rw [cut?] at h
      split at h
      · next hsep =>
        cases h
        exact (List.prefix_iff_eq_append.mp (List.isPrefixOf_iff_prefix.mp hsep)).symm
      · obtain ⟨⟨x, y⟩, hrest, hxy⟩ := Option.map_eq_some_iff.mp h
        cases hxy
        rw [ih hrest, List.cons_append]

/-- A text is cut at its first separator. -/
theorem not_infix_of_cut? (hsep : sep ≠ []) (h : cut? sep s = some (a, b)) : ¬ sep <:+: a := by
  induction s generalizing a b with
  | nil => simp [cut?, hsep] at h
  | cons c s ih =>
      have hs := eq_of_cut? h
      rw [cut?] at h
      split at h
      · cases h
        simpa using hsep
      · next hnot =>
        obtain ⟨⟨x, y⟩, hrest, hxy⟩ := Option.map_eq_some_iff.mp h
        cases hxy
        rw [List.infix_cons_iff]
        rintro (hstarts | hinfix)
        · refine hnot (List.isPrefixOf_iff_prefix.mpr ?_)
          rw [hs]
          exact hstarts.trans (List.prefix_append _ _)
        · exact ih hrest hinfix

theorem cut?_isSome_iff : (cut? sep s).isSome ↔ sep <:+: s := by
  induction s with
  | nil => cases sep <;> simp [cut?]
  | cons c s ih =>
      rw [cut?, List.infix_cons_iff, ← ih, ← List.isPrefixOf_iff_prefix]
      split
      · next hsep => simp [hsep]
      · next hsep => simp [hsep]

end Cut

end Text

namespace Fence

/-! ## Blocks -/

/-- Whether a block stands somewhere in a text: a mark, the word `ink` or none, blanks with a line
end among them, any text, and a mark. -/
def HasBlock (s : List Char) : Prop :=
  ∃ word blanks body : List Char, (word = [] ∨ word = "ink".toList) ∧
    (∀ c ∈ blanks, isBlank c = true) ∧
    mark ++ (word ++ (blanks ++ '\n' :: (body ++ mark))) <:+: s

theorem HasBlock.of_infix {s t : List Char} (h : HasBlock s) (hst : s <:+: t) : HasBlock t := by
  obtain ⟨word, blanks, body, hword, hblanks, hblock⟩ := h
  exact ⟨word, blanks, body, hword, hblanks, hblock.trans hst⟩

theorem HasBlock.marked {s : List Char} (h : HasBlock s) : mark <:+: s := by
  obtain ⟨word, blanks, body, -, -, hblock⟩ := h
  exact (List.prefix_append mark _).isInfix.trans hblock

variable {s t body : List Char}

theorem dropWord?_eq_some {word : List Char} (h : dropWord? word s = some t) : s = word ++ t := by
  rw [dropWord?] at h
  split at h
  · next hword =>
    cases h
    exact (List.prefix_iff_eq_append.mp (List.isPrefixOf_iff_prefix.mp hword)).symm
  · cases h

/-- A list with a value in it is cut at the last one. -/
theorem eq_append_cons_of_lt {α : Type} [DecidableEq α] {l : List α} {a : α}
    (h : (l.reverse.takeWhile (· != a)).length < l.length) :
    ∃ before, l = before ++ a :: (l.reverse.takeWhile (· != a)).reverse := by
  set tail := l.reverse.takeWhile (· != a)
  have hsplit : tail ++ l.reverse.dropWhile (· != a) = l.reverse := List.takeWhile_append_dropWhile
  have hnot := List.head?_dropWhile_not (· != a) l.reverse
  cases hmore : l.reverse.dropWhile (· != a) with
  | nil =>
      rw [hmore, List.append_nil] at hsplit
      rw [hsplit, List.length_reverse] at h
      exact absurd h (lt_irrefl _)
  | cons b before =>
      rw [hmore] at hsplit hnot
      obtain rfl : b = a := by simpa using hnot
      exact ⟨before.reverse, by rw [← List.reverse_inj, ← hsplit]; simp⟩

/-- What is behind a line end among blanks has nothing but blanks before that line end. -/
theorem afterLineEnd?_eq_some (h : afterLineEnd? s = some t) :
    ∃ blanks, (∀ c ∈ blanks, isBlank c = true) ∧ s = blanks ++ '\n' :: t := by
  rw [afterLineEnd?] at h
  set found := s.takeWhile isBlank with hfound
  set tail := found.reverse.takeWhile (· != '\n') with htail
  split at h
  · next hlt =>
    cases h
    obtain ⟨before, hbefore⟩ : ∃ before, found = before ++ '\n' :: tail.reverse :=
      eq_append_cons_of_lt hlt
    have hs : s = before ++ '\n' :: (tail.reverse ++ s.dropWhile isBlank) :=
      calc s = found ++ s.dropWhile isBlank := List.takeWhile_append_dropWhile.symm
        _ = _ := by rw [hbefore, List.append_assoc, List.cons_append]
    have hlength : found.length - tail.length = before.length + 1 := by
      rw [hbefore, List.length_append, List.length_cons, List.length_reverse]
      omega
    have hdrop : s.drop (found.length - tail.length) = tail.reverse ++ s.dropWhile isBlank := by
      conv_lhs => rw [hlength, hs]
      rw [List.drop_length_add_append, List.drop_succ_cons, List.drop_zero]
    refine ⟨before, fun c hc => ?_, hdrop ▸ hs⟩
    exact List.mem_takeWhile_imp (hbefore ▸ List.mem_append_left _ hc : c ∈ found)
  · cases h

theorem body?_eq_some (h : body? s = some body) :
    ¬ mark <:+: body ∧ ∃ rest, s = body ++ (mark ++ rest) := by
  obtain ⟨⟨a, rest⟩, hcut, rfl⟩ := Option.map_eq_some_iff.mp h
  exact ⟨Text.not_infix_of_cut? (by decide) hcut, rest, Text.eq_of_cut? hcut⟩

theorem body?_isSome_iff : (body? s).isSome ↔ mark <:+: s := by
  rw [body?, Option.isSome_map, Text.cut?_isSome_iff]

/-- A block at the start of a text is found, and its body has no mark in it. -/
theorem blockAt?_eq_some (h : blockAt? s = some body) : HasBlock s ∧ ¬ mark <:+: body := by
  rw [blockAt?] at h
  obtain ⟨t, ht, h⟩ := Option.bind_eq_some_iff.mp h
  obtain ⟨u, hu, h⟩ := Option.bind_eq_some_iff.mp h
  obtain ⟨blanks, hblanks, hline⟩ := afterLineEnd?_eq_some hu
  obtain ⟨hunmarked, rest, hbody⟩ := body?_eq_some h
  obtain ⟨word, hword, hrest⟩ : ∃ word, (word = [] ∨ word = "ink".toList) ∧
      t = word ++ (dropWord? "ink".toList t).getD t := by
    cases hink : dropWord? "ink".toList t with
    | none => exact ⟨[], .inl rfl, rfl⟩
    | some v => exact ⟨_, .inr rfl, dropWord?_eq_some hink⟩
  refine ⟨⟨word, blanks, body, hword, hblanks, ?_⟩, hunmarked⟩
  refine List.IsPrefix.isInfix ⟨rest, ?_⟩
  rw [dropWord?_eq_some ht, hrest, hline, hbody]
  simp

theorem block?_eq_some (h : block? s = some body) : HasBlock s ∧ ¬ mark <:+: body := by
  induction s with
  | nil => cases h
  | cons c s ih =>
      rw [block?] at h
      cases hat : blockAt? (c :: s) with
      | some found =>
          rw [hat] at h
          cases h
          exact blockAt?_eq_some hat
      | none =>
          rw [hat, Option.none_or] at h
          obtain ⟨hblock, hunmarked⟩ := ih h
          exact ⟨hblock.of_infix (List.suffix_cons c s).isInfix, hunmarked⟩

/-- A block is found where it stands. -/
theorem blockAt?_isSome {word blanks : List Char} (hword : word = [] ∨ word = "ink".toList)
    (hblanks : ∀ c ∈ blanks, isBlank c = true) (body rest : List Char) :
    (blockAt? (mark ++ (word ++ (blanks ++ '\n' :: (body ++ (mark ++ rest)))))).isSome := by
  set t := body ++ (mark ++ rest) with ht
  have hword' : (dropWord? "ink".toList (word ++ (blanks ++ '\n' :: t))).getD
      (word ++ (blanks ++ '\n' :: t)) = blanks ++ '\n' :: t := by
    rcases hword with rfl | rfl
    · cases hink : dropWord? "ink".toList blanks with
      | none => rw [List.nil_append, dropWord?_append_cons (by decide), hink]; rfl
      | some v =>
          -- a blank is no letter
          have hi := hblanks 'i' (dropWord?_eq_some hink ▸ List.mem_cons_self)
          exact absurd hi (by decide)
    · rw [dropWord?_append]
      rfl
  obtain ⟨skipped, u, hskipped, htu, hafter⟩ := afterLineEnd?_of_blank hblanks t
  have hclear : Clear skipped u := clear_of_forall_not_mem fun c hc hmark =>
    absurd (hskipped c hc) (by rw [List.eq_of_mem_replicate hmark]; decide)
  have hbody : (body? t).isSome := body?_isSome_iff.mpr ⟨body, rest, by rw [ht, List.append_assoc]⟩
  rw [htu, body?_of_clear hclear, Option.isSome_map] at hbody
  rw [blockAt?, dropWord?_append]
  simp only [Option.bind_eq_bind, Option.bind_some, hword', hafter]
  exact hbody

theorem block?_isSome_append {pre : List Char} (h : (block? s).isSome) :
    (block? (pre ++ s)).isSome := by
  induction pre with
  | nil => exact h
  | cons c pre ih => rw [List.cons_append, block?, Option.isSome_or, ih, Bool.or_true]

theorem block?_isSome_of_blockAt? (h : (blockAt? s).isSome) : (block? s).isSome := by
  cases s with
  | nil => exact absurd h (by decide)
  | cons c s => rw [block?, Option.isSome_or, h, Bool.true_or]

/-- **The search finds a block just if there is one.** -/
theorem block?_isSome_iff : (block? s).isSome ↔ HasBlock s := by
  constructor
  · intro h
    obtain ⟨body, hbody⟩ := Option.isSome_iff_exists.mp h
    exact (block?_eq_some hbody).1
  · rintro ⟨word, blanks, body, hword, hblanks, pre, rest, rfl⟩
    have hat := block?_isSome_of_blockAt? (blockAt?_isSome hword hblanks body rest)
    rw [List.append_assoc]
    exact block?_isSome_append (by simpa using hat)

/-! ## Extracting -/

theorem toList_extract (reply : String) :
    (extract reply).toList = Text.trimBy isBlank ((block? reply.toList).getD reply.toList) :=
  String.toList_ofList

/-- A reply without a block is extracted but for the blanks around it. -/
theorem extract_of_not_hasBlock {reply : String} (h : ¬ HasBlock reply.toList) :
    extract reply = Text.trim reply := by
  have hnone : block? reply.toList = none := by
    rwa [← block?_isSome_iff, Option.not_isSome_iff_eq_none] at h
  rw [extract, hnone]
  rfl

/-- No mark is left of a block. -/
theorem extract_unmarked {reply : String} (h : HasBlock reply.toList) :
    ¬ mark <:+: (extract reply).toList := by
  obtain ⟨body, hbody⟩ := Option.isSome_iff_exists.mp (block?_isSome_iff.mpr h)
  rw [toList_extract, hbody, Option.getD_some]
  exact fun hmark => (block?_eq_some hbody).2 (hmark.trans (Text.trimBy_infix _ _))

/-- There is no block in what is extracted. -/
theorem not_hasBlock_extract (reply : String) : ¬ HasBlock (extract reply).toList := by
  by_cases h : HasBlock reply.toList
  · exact fun hblock => extract_unmarked h hblock.marked
  · rw [extract_of_not_hasBlock h, Text.trim, String.toList_ofList]
    exact fun hblock => h (hblock.of_infix (Text.trimBy_infix _ _))

theorem trimmed_extract (reply : String) : Text.Trimmed isBlank (extract reply).toList := by
  rw [toList_extract]
  exact Text.trimmed_trimBy _ _

/-- **What is extracted needs no extraction.**  For every reply, extracting again changes nothing,
and there are no blanks at the ends of what is extracted.  There is no mark in it if a block stands
in the reply, and it is all of the reply but the blanks around it if none does. -/
theorem extract_settled (reply : String) :
    extract (extract reply) = extract reply ∧
      (∀ c ∈ (extract reply).toList.head?, isBlank c = false) ∧
      (∀ c ∈ (extract reply).toList.getLast?, isBlank c = false) ∧
      (HasBlock reply.toList → ¬ mark <:+: (extract reply).toList) ∧
      (¬ HasBlock reply.toList → extract reply = Text.trim reply) := by
  refine ⟨?_, (trimmed_extract reply).first, (trimmed_extract reply).last, extract_unmarked,
    extract_of_not_hasBlock⟩
  rw [extract_of_not_hasBlock (not_hasBlock_extract reply), Text.trim,
    Text.trimBy_of_trimmed (trimmed_extract reply), String.ofList_toList]

/-- A block whose fences have four backquotes, and blanks around its body. -/
theorem extract_settled_wide :
    let reply := "\x60\x60\x60\x60ink \n\n Hello\n\x60\x60\x60\x60\n"
    HasBlock reply.toList ∧ extract reply = "Hello" ∧ ¬ mark <:+: (extract reply).toList := by
  intro reply
  have hblock : HasBlock reply.toList :=
    ⟨"ink".toList, " ".toList, "\n Hello\n".toList, .inr rfl, by simp; decide, by decide⟩
  exact ⟨hblock, by decide, (extract_settled reply).2.2.2.1 hblock⟩

end Fence

end StoryServer
