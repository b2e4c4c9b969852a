import Mathlib.Data.List.Infix
import Mathlib.Data.List.TakeWhile
import StoryServer.Chat.Fence

/-!
# Replies with several blocks

A reply is prose and fenced blocks, in any number and order.  Its code is meant to be the body of
the first block of ink (`firstInk`).  But a fence is looked for with no regard to whether it opens
or closes a block, and the one that closes a block stands before a line end, as one that opens a
block of ink does.  So a block of another language hands over what comes *after* it, up to the
fence of the next block (`taken`), and what is extracted is exactly that (`extract_written`).

*Marks.*  `Clear x s` says that no mark begins in `x` when `s` follows it.  The search passes over
such a text (`block?_of_clear`), and a body takes it up (`body?_of_clear`).

*Fences.*  A fence that opens a block finds a body just if the block is one of ink
(`blockAt?_opening`); the one that closes it is a fence with nothing after the mark.
-/

namespace StoryServer

namespace Fence

/-! ## Replies -/

/-- Text with no mark in it. -/
structure Prose where
  chars : List Char
  unmarked : ¬ mark <:+: chars

/-- A fenced block: an opening line, which is a mark and a word for the language; lines with no mark
in them; a mark. -/
structure Block where
  info : List Char
  body : List Char
  info_line : '\n' ∉ info
  /-- Three backquotes open the line, not four, and none of its words is a mark. -/
  opens_once : ¬ mark <:+: (mark ++ info).tail
  body_unmarked : ¬ mark <:+: body
  body_lines : body = [] ∨ body.getLast? = some '\n'

/-- Whether the words on an opening line say that the block is one of ink: `ink` or nothing, and
blanks. -/
def isInk (info : List Char) : Bool := ((dropWord? "ink".toList info).getD info).all isBlank

/-- A part of a reply. -/
inductive Segment
  | prose (p : Prose)
  | block (b : Block)

def Segment.chars : Segment → List Char
  | .prose p => p.chars
  | .block b => mark ++ (b.info ++ '\n' :: (b.body ++ mark))

/-- The block that a segment is. -/
def Segment.block? : Segment → Option Block
  | .prose _ => none
  | .block b => some b

/-- The text of a reply, each part of it on lines of its own. -/
def written (segments : List Segment) : List Char := ['\n'].intercalate (segments.map Segment.chars)

/-- The blocks of a reply. -/
def blocks (segments : List Segment) : List Block := segments.filterMap Segment.block?

/-- The body of the first block of ink. -/
def firstInk (segments : List Segment) : Option (List Char) :=
  ((blocks segments).find? fun b => isInk b.info).map (·.body)

/-- The prose up to the next block, if there is one. -/
def between : List Segment → Option (List Char)
  | [] => none
  | .prose p :: rest => (between rest).map (p.chars ++ '\n' :: ·)
  | .block _ :: _ => some []

/-- What is taken for the code in a reply: of its first block the body, if it is one of ink, and
else what stands between it and the next block. -/
def taken : List Segment → Option (List Char)
  | [] => none
  | .prose _ :: rest => taken rest
  | .block b :: rest => if isInk b.info then some b.body else between rest

/-! ## Marks -/

/-- A word can end only before a character that it does not have. -/
theorem prefix_append_cons_iff {α : Type} {word x s : List α} {c : α} (h : c ∉ word) :
    word <+: x ++ c :: s ↔ word <+: x := by
  induction word generalizing x with
  | nil => simp
  | cons a word ih =>
      rw [List.mem_cons, not_or] at h
      cases x with
      | nil => simp [List.cons_prefix_cons, Ne.symm h.1]
      | cons b x =>
          rw [List.cons_append, List.cons_prefix_cons, List.cons_prefix_cons, ih h.2]

/-- No mark begins in the first text when the second follows it. -/
def Clear : List Char → List Char → Prop
  | [], _ => True
  | c :: x, s => ¬ mark <+: c :: (x ++ s) ∧ Clear x s

theorem clear_append {x y s : List Char} : Clear (x ++ y) s ↔ Clear x (y ++ s) ∧ Clear y s := by
  induction x with
  | nil => simp [Clear]
  | cons c x ih => rw [List.cons_append, Clear, Clear, ih, List.append_assoc, and_assoc]

theorem clear_nil {x : List Char} (h : ¬ mark <:+: x) : Clear x [] := by
  induction x with
  | nil => trivial
  | cons c x ih =>
      refine ⟨fun hmark => h ?_, ih fun hx => h (List.infix_cons hx)⟩
      rw [List.append_nil] at hmark
      exact hmark.isInfix

theorem clear_cons {x s : List Char} {c : Char} (h : ¬ mark <:+: x) (hc : c ∉ mark) :
    Clear x (c :: s) := by
  induction x with
  | nil => trivial
  | cons a x ih =>
      refine ⟨fun hmark => h ?_, ih fun hx => h (List.infix_cons hx)⟩
      rw [← List.cons_append, prefix_append_cons_iff hc] at hmark
      exact hmark.isInfix

theorem clear_of_forall_not_mem {x s : List Char} (h : ∀ c ∈ x, c ∉ mark) : Clear x s := by
  induction x with
  | nil => trivial
  | cons c x ih =>
      rw [List.forall_mem_cons] at h
      refine ⟨fun hmark => ?_, ih h.2⟩
      rw [← List.nil_append (c :: _), prefix_append_cons_iff h.1] at hmark
      exact absurd hmark (by decide)

theorem clear_lineFeed (s : List Char) : Clear ['\n'] s :=
  clear_of_forall_not_mem (List.forall_mem_singleton.mpr (by decide))

/-- Whatever follows a line with no mark in it, no mark begins in the line. -/
theorem clear_line {x s : List Char} (h : ¬ mark <:+: x) : Clear (x ++ ['\n']) s :=
  clear_append.mpr ⟨clear_cons h (by decide), clear_lineFeed s⟩

/-- The same for lines, of which there may be none. -/
theorem clear_lines {x s : List Char} (h : ¬ mark <:+: x)
    (hlines : x = [] ∨ x.getLast? = some '\n') : Clear x s := by
  rcases hlines with rfl | hlast
  · trivial
  · obtain ⟨y, rfl⟩ := List.getLast?_eq_some_iff.mp hlast
    exact clear_line fun hy => h (hy.trans (List.prefix_append _ _).isInfix)

/-! ## The search -/

theorem dropWord?_append (word s : List Char) : dropWord? word (word ++ s) = some s := by
  rw [dropWord?, if_pos (List.isPrefixOf_iff_prefix.mpr (List.prefix_append _ _)),
    List.drop_left]

theorem dropWord?_append_cons {word x s : List Char} {c : Char} (h : c ∉ word) :
    dropWord? word (x ++ c :: s) = (dropWord? word x).map (· ++ c :: s) := by
  by_cases hword : word <+: x
  · rw [dropWord?, dropWord?, if_pos (List.isPrefixOf_iff_prefix.mpr hword), if_pos
      (List.isPrefixOf_iff_prefix.mpr ((prefix_append_cons_iff h).mpr hword)),
      List.drop_append_of_le_length hword.length_le]
    rfl
  · rw [dropWord?, dropWord?, if_neg (mt List.isPrefixOf_iff_prefix.mp hword), if_neg
      (mt List.isPrefixOf_iff_prefix.mp (mt (prefix_append_cons_iff h).mp hword))]
    rfl

theorem blockAt?_of_not_prefix {s : List Char} (h : ¬ mark <+: s) : blockAt? s = none := by
  rw [blockAt?, dropWord?, if_neg (mt List.isPrefixOf_iff_prefix.mp h)]
  rfl

theorem block?_of_clear {x s : List Char} (h : Clear x s) : block? (x ++ s) = block? s := by
  induction x with
  | nil => rfl
  | cons c x ih =>
      rw [List.cons_append, block?, blockAt?_of_not_prefix h.1, Option.none_or, ih h.2]

theorem body?_of_clear {x s : List Char} (h : Clear x s) :
    body? (x ++ s) = (body? s).map (x ++ ·) := by
  induction x with
  | nil => simp
  | cons c x ih =>
      have hcut : body? (c :: (x ++ s)) = (body? (x ++ s)).map (c :: ·) := by
        rw [body?, Text.cut?, if_neg (mt List.isPrefixOf_iff_prefix.mp h.1), body?,
          Option.map_map, Option.map_map]
        rfl
      rw [List.cons_append, hcut, ih h.2, Option.map_map]
      rfl

theorem body?_mark (s : List Char) : body? (mark ++ s) = some [] := by
  have hmark : mark.isPrefixOf ('\x60' :: '\x60' :: '\x60' :: s) = true :=
    List.isPrefixOf_iff_prefix.mpr (List.prefix_append mark s)
  change body? ('\x60' :: '\x60' :: '\x60' :: s) = some []
  rw [body?, Text.cut?, if_pos hmark]
  rfl

/-! ## Blanks -/

theorem trimBy_append {p : Char → Bool} {x : List Char} (h : ∀ c ∈ x, p c = true) (s : List Char) :
    Text.trimBy p (x ++ s) = Text.trimBy p s := by
  rw [Text.trimBy, Text.trimStartBy, List.dropWhile_append_of_pos h, ← Text.trimStartBy,
    ← Text.trimBy]

/-- Taking characters stops at the first that does not count, whatever comes before it. -/
theorem takeWhile_append_cons {p : Char → Bool} {c : Char} (hc : p c = false) (x s : List Char) :
    (x ++ c :: s).takeWhile p = x.takeWhile p := by
  rw [List.takeWhile_append]
  split
  · next h =>
    rw [List.takeWhile_cons_of_neg (by simp [hc]), List.append_nil]
    exact ((List.takeWhile_prefix p).eq_of_length h).symm
  · rfl

/-- Behind blanks and a line end stands the text, perhaps without some of the blanks at its
start. -/
theorem afterLineEnd?_of_blank {w : List Char} (h : ∀ c ∈ w, isBlank c = true) (t : List Char) :
    ∃ blanks rest, (∀ c ∈ blanks, isBlank c = true) ∧ t = blanks ++ rest ∧
      afterLineEnd? (w ++ '\n' :: t) = some rest := by
  have hblanks : (w ++ '\n' :: t).takeWhile isBlank = w ++ '\n' :: t.takeWhile isBlank := by
    rw [List.takeWhile_append_of_pos h, List.takeWhile_cons_of_pos (by decide)]
  set found := t.takeWhile isBlank with hfound
  set tail := found.reverse.takeWhile (· != '\n') with htail
  have hlast : (w ++ '\n' :: found).reverse.takeWhile (· != '\n') = tail := by
    rw [List.reverse_append, List.reverse_cons, List.append_assoc]
    exact takeWhile_append_cons (by decide) found.reverse w.reverse
  have hle : tail.length ≤ found.length :=
    calc tail.length ≤ found.reverse.length := (List.takeWhile_prefix _).length_le
      _ = found.length := List.length_reverse
  have hlength : (w ++ '\n' :: found).length = w.length + (found.length + 1) := by simp
  have hcount : (w ++ '\n' :: found).length - tail.length =
      w.length + ((found.length - tail.length) + 1) := by omega
  have hbegins : t.take (found.length - tail.length) <+: found := by
    refine List.prefix_of_prefix_length_le (List.take_prefix _ t) (List.takeWhile_prefix _) ?_
    exact (List.length_take_le _ _).trans (Nat.sub_le _ _)
  refine ⟨_, _, fun c hc => List.mem_takeWhile_imp (hbegins.subset hc),
    (List.take_append_drop (found.length - tail.length) t).symm, ?_⟩
  rw [afterLineEnd?, hblanks]
  simp only [hlast]
  rw [if_pos (by omega), hcount, List.drop_length_add_append, List.drop_succ_cons]

/-- Nothing stands behind a line end that something other than blanks comes before. -/
theorem afterLineEnd?_of_not_blank {w : List Char} (hline : '\n' ∉ w)
    (h : ∃ c ∈ w, isBlank c = false) (s : List Char) : afterLineEnd? (w ++ s) = none := by
  obtain ⟨c, hc, hblank⟩ := h
  obtain ⟨u, v, rfl⟩ := List.append_of_mem hc
  have hline' : ∀ d ∈ (u.takeWhile isBlank).reverse, (d != '\n') = true := by
    intro d hd
    have hu : d ∈ u := (List.takeWhile_prefix _).subset (List.mem_reverse.mp hd)
    exact bne_iff_ne.mpr fun heq => hline (heq ▸ List.mem_append_left _ hu)
  rw [afterLineEnd?, List.append_assoc, List.cons_append, takeWhile_append_cons hblank,
    List.takeWhile_eq_self_iff.mpr hline']
  exact if_neg (by simp)

/-! ## Fences -/

/-- **The fence that opens a block.**  It finds the body of a block of ink, and of no other. -/
theorem blockAt?_opening {info : List Char} (hline : '\n' ∉ info) (t : List Char) :
    (blockAt? (mark ++ (info ++ '\n' :: t))).map (Text.trimBy isBlank) =
      if isInk info then (body? t).map (Text.trimBy isBlank) else none := by
  set word := (dropWord? "ink".toList info).getD info with hword
  have hrest : (dropWord? "ink".toList (info ++ '\n' :: t)).getD (info ++ '\n' :: t) =
      word ++ '\n' :: t := by
    rw [dropWord?_append_cons (by decide), hword]
    cases dropWord? "ink".toList info <;> rfl
  have hword_line : '\n' ∉ word := by
    rw [hword, dropWord?]
    split
    · exact fun hmem => hline (List.mem_of_mem_drop hmem)
    · exact hline
  rw [blockAt?, dropWord?_append]
  simp only [Option.bind_eq_bind, Option.bind_some, hrest]
  rw [isInk, ← hword]
  cases hink : word.all isBlank with
  | false =>
      rw [List.all_eq_false] at hink
      rw [afterLineEnd?_of_not_blank hword_line (by simpa using hink)]
      rfl
  | true =>
      rw [List.all_eq_true] at hink
      obtain ⟨blanks, rest, hblanks, rfl, hafter⟩ := afterLineEnd?_of_blank hink t
      have hclear : Clear blanks rest := clear_of_forall_not_mem fun c hc hmark =>
        absurd (hblanks c hc) (by rw [List.eq_of_mem_replicate hmark]; decide)
      rw [hafter, body?_of_clear hclear, Option.map_map, if_pos rfl]
      exact congrArg (Option.map · (body? rest)) (funext fun x => (trimBy_append hblanks x).symm)

/-- The fence that closes a block takes what comes after it, up to the next fence. -/
theorem blockAt?_closing (t : List Char) :
    (blockAt? (mark ++ '\n' :: t)).map (Text.trimBy isBlank) =
      (body? t).map (Text.trimBy isBlank) :=
  blockAt?_opening (List.not_mem_nil) t

/-! ## Whole replies -/

/-- The text after a segment. -/
def following (rest : List Segment) : List Char := if rest.isEmpty then [] else '\n' :: written rest

theorem written_cons (segment : Segment) (rest : List Segment) :
    written (segment :: rest) = segment.chars ++ following rest := by
  cases rest with
  | nil => simp [written, following]
  | cons next rest => simp [written, following]

theorem clear_following {x : List Char} (h : ¬ mark <:+: x) (rest : List Segment) :
    Clear x (following rest) := by
  cases rest with
  | nil => exact clear_nil h
  | cons next rest => exact clear_cons h (by decide)

theorem body?_following (rest : List Segment) :
    body? (following rest) = (body? (written rest)).map ('\n' :: ·) := by
  cases rest with
  | nil => rfl
  | cons next rest => exact body?_of_clear (clear_lineFeed _)

theorem block?_following (rest : List Segment) :
    block? (following rest) = block? (written rest) := by
  cases rest with
  | nil => rfl
  | cons next rest => exact block?_of_clear (clear_lineFeed _)

/-- A body that begins with a reply is the prose up to its first block. -/
theorem body?_written (segments : List Segment) : body? (written segments) = between segments := by
  induction segments with
  | nil => rfl
  | cons segment rest ih =>
      rw [written_cons]
      cases segment with
      | prose p =>
          rw [Segment.chars, body?_of_clear (clear_following p.unmarked rest), body?_following, ih,
            Option.map_map, between]
          rfl
      | block b => rw [Segment.chars, List.append_assoc, body?_mark, between]

theorem between_eq_none_iff {segments : List Segment} :
    between segments = none ↔ blocks segments = [] := by
  induction segments with
  | nil => simp [between, blocks]
  | cons segment rest ih =>
      cases segment with
      | prose p => simpa [between, blocks, Segment.block?] using ih
      | block b => simp [between, blocks, Segment.block?]

theorem taken_of_blocks_eq_nil {segments : List Segment} (h : blocks segments = []) :
    taken segments = none := by
  induction segments with
  | nil => rfl
  | cons segment rest ih =>
      cases segment with
      | prose p => exact ih (by simpa [blocks, Segment.block?] using h)
      | block b => simp [blocks, Segment.block?] at h

/-- A fence is tried where it stands, and the search goes on behind its first backquote. -/
theorem block?_mark (s : List Char) :
    block? (mark ++ s) = (blockAt? (mark ++ s)).or (block? (mark.tail ++ s)) := rfl

/-- Behind the body of a block its closing fence is found, if another block comes after it. -/
theorem block?_closing {rest : List Segment}
    (ih : (block? (written rest)).map (Text.trimBy isBlank) =
      (taken rest).map (Text.trimBy isBlank)) :
    (block? (mark ++ following rest)).map (Text.trimBy isBlank) =
      (between rest).map (Text.trimBy isBlank) := by
  have hbehind : block? (mark.tail ++ following rest) = block? (written rest) := by
    rw [block?_of_clear (clear_following (by decide) rest), block?_following]
  rw [block?_mark, Option.map_or, hbehind, ih]
  cases rest with
  | nil => rfl
  | cons next rest =>
      have hat := blockAt?_closing (written (next :: rest))
      rw [body?_written] at hat
      change ((blockAt? (mark ++ '\n' :: written (next :: rest))).map _).or _ = _
      rw [hat]
      cases hbetween : between (next :: rest) with
      | none => rw [taken_of_blocks_eq_nil (between_eq_none_iff.mp hbetween)]; rfl
      | some text => rfl

/-- The search takes from a reply what is said to be taken, blanks around it apart. -/
theorem block?_written (segments : List Segment) :
    (block? (written segments)).map (Text.trimBy isBlank) =
      (taken segments).map (Text.trimBy isBlank) := by
  induction segments with
  | nil => rfl
  | cons segment rest ih =>
      rw [written_cons]
      cases segment with
      | prose p =>
          rw [Segment.chars, block?_of_clear (clear_following p.unmarked rest), block?_following,
            ih, taken]
      | block b =>
          have hbody : body? (b.body ++ (mark ++ following rest)) = some b.body := by
            rw [body?_of_clear (clear_lines b.body_unmarked b.body_lines), body?_mark]
            simp
          have hbehind : Clear ((mark ++ b.info).tail ++ ['\n'] ++ b.body)
              (mark ++ following rest) :=
            clear_append.mpr ⟨clear_line b.opens_once, clear_lines b.body_unmarked b.body_lines⟩
          have hassoc : Segment.chars (.block b) ++ following rest =
              mark ++ (b.info ++ '\n' :: (b.body ++ (mark ++ following rest))) := by
            simp [Segment.chars]
          have hassoc' : mark.tail ++ (b.info ++ '\n' :: (b.body ++ (mark ++ following rest))) =
              (mark ++ b.info).tail ++ ['\n'] ++ b.body ++ (mark ++ following rest) := by
            simp [mark, List.replicate]
          rw [hassoc, block?_mark, Option.map_or, blockAt?_opening b.info_line, hbody, taken]
          cases isInk b.info with
          | true => rfl
          | false =>
              rw [hassoc', block?_of_clear hbehind, block?_closing ih]
              rfl

/-- The first block hands over the body of the first block of ink, if it is that block itself or
there is no other one. -/
theorem taken_eq_firstInk {segments : List Segment}
    (h : (∀ b ∈ (blocks segments).head?, isInk b.info = true) ∨ (blocks segments).length ≤ 1) :
    taken segments = firstInk segments := by
  induction segments with
  | nil => rfl
  | cons segment rest ih =>
      cases segment with
      | prose p => exact ih h
      | block b =>
          have hblocks : blocks (.block b :: rest) = b :: blocks rest := rfl
          rw [hblocks] at h
          rw [taken, firstInk, hblocks, List.find?_cons]
          cases hink : isInk b.info with
          | true => rfl
          | false =>
              -- the other blocks are none
              have hnone : blocks rest = [] := by
                rcases h with hfirst | hlength
                · exact absurd (hfirst b rfl) (by simp [hink])
                · simpa using hlength
              rw [hnone, between_eq_none_iff.mpr hnone]
              rfl

/-- **What is extracted from a reply.**  It is the body of the first block, if that is one of ink,
and else what stands between the first block and the next; the whole reply when there is neither;
without the blanks around it.  So it is the body of the first block of ink, or the whole reply, if
the first block is one of ink or there is no other block. -/
theorem extract_written (segments : List Segment) :
    extract (String.ofList (written segments)) =
        String.ofList (Text.trimBy isBlank ((taken segments).getD (written segments))) ∧
      ((∀ b ∈ (blocks segments).head?, isInk b.info = true) ∨ (blocks segments).length ≤ 1 →
        extract (String.ofList (written segments)) =
          String.ofList (Text.trimBy isBlank ((firstInk segments).getD (written segments)))) := by
  have htaken : extract (String.ofList (written segments)) =
      String.ofList (Text.trimBy isBlank ((taken segments).getD (written segments))) := by
    rw [extract, String.toList_ofList, ← Option.getD_map (Text.trimBy isBlank),
      ← Option.getD_map (Text.trimBy isBlank), block?_written]
  exact ⟨htaken, fun h => taken_eq_firstInk h ▸ htaken⟩

/-- A block of ink after prose, and one after a block of another language, whose place the prose
between them takes. -/
theorem extract_written_lesson :
    let python : Block := ⟨"python".toList, "x = 1\n".toList, by decide, by decide, by decide,
      by decide⟩
    let ink : Block := ⟨"ink".toList, "Hello\n".toList, by decide, by decide, by decide, by decide⟩
    let story : Prose := ⟨"The story:".toList, by decide⟩
    extract (String.ofList (written [.prose story, .block ink, .block python])) = "Hello" ∧
      extract (String.ofList (written [.block python, .prose story, .block ink])) = "The story:" ∧
      firstInk [.block python, .prose story, .block ink] = some "Hello\n".toList := by
  intro python ink story
  refine ⟨?_, ?_, rfl⟩
  · exact ((extract_written [.prose story, .block ink, .block python]).2
      (.inl (by decide))).trans (by decide)
  · exact (extract_written [.block python, .prose story, .block ink]).1.trans (by decide)

end Fence

end StoryServer
