import StoryServer.Proofs.Json.Line
import StoryServer.Proofs.Rpc.Payload

/-!
# What is written for lines

Every response is written on one line and read back from it (`payload_lined`): what a client sends
is read as a value whose objects have distinct keys, and a response takes that over with the id.
So the lines that are written for an input (`serve_handle`) are found again in what was written
(`splitAt_written`), and are read as the responses to the texts in the input.
-/

namespace StoryServer

/-! ## Lines in a text -/

namespace Text

theorem splitAt_cons (sep c : Char) (s : List Char) : splitAt sep (c :: s) =
    if c == sep then [] :: splitAt sep s
    else match splitAt sep s with
      | [] => [[c]]
      | piece :: more => (c :: piece) :: more := rfl

/-- A piece is what stands before the first separator. -/
theorem splitAt_piece {sep : Char} (rest : List Char) : ∀ {s : List Char}, sep ∉ s →
    splitAt sep (s ++ sep :: rest) = s :: splitAt sep rest
  | [], _ => by rw [List.nil_append, splitAt_cons, beq_self_eq_true, if_pos rfl]
  | c :: s, h => by
      obtain ⟨hc, hs⟩ : sep ≠ c ∧ sep ∉ s := by simpa using h
      have hne : ¬ (c == sep) = true := fun heq => hc (beq_iff_eq.mp heq).symm
      rw [List.cons_append, splitAt_cons, if_neg hne, splitAt_piece rest hs]

/-- Lines, each with a line feed behind it. -/
def written (lines : List String) : List Char := lines.flatMap fun line => line.toList ++ ['\n']

/-- Lines are found again in what is written; behind the last line feed stands nothing. -/
theorem splitAt_written : ∀ {lines : List String}, (∀ line ∈ lines, '\n' ∉ line.toList) →
    splitAt '\n' (written lines) = lines.map String.toList ++ [[]]
  | [], _ => rfl
  | line :: rest, h => by
      obtain ⟨hline, hrest⟩ := List.forall_mem_cons.mp h
      have hwritten : written (line :: rest) = line.toList ++ '\n' :: written rest := by
        simp [written]
      rw [hwritten, splitAt_piece _ hline, splitAt_written hrest, List.map_cons, List.cons_append]

end Text

namespace Json

theorem distinct_carried : Carried Distinct where
  null := trivial
  bool _ := trivial
  str _ := trivial
  code _ := trivial
  arr := distinctItems_iff.mpr
  obj hkeys h := ⟨hkeys, distinctFields_iff.mpr h⟩
  member h := distinctFields_iff.mp h.2

/-- A value that is written as a text of one line, which is read as the value. -/
structure Lined (v : Json) (text : String) : Prop where
  written : writeJson .spaced v = .ok text
  lineFeed : '\n' ∉ text.toList
  carriageReturn : '\r' ∉ text.toList
  read : parse text = .ok v

theorem lined {v : Json} (hw : Writable v) (hd : Distinct v) : Lined v (text .spaced v) := by
  have hprinted : Printed (text .spaced v).toList := by
    rw [text, String.toList_ofList]
    exact printed_chars spaced_flat v
  exact ⟨writeJson_eq_ok.mpr ⟨hw, rfl⟩, hprinted.no_lineFeed, hprinted.no_carriageReturn,
    parse_text spaced_readable hd hw⟩

end Json

theorem Payload.distinct_of_reading {x : Payload} {m : Json} {room : Nat}
    (h : x.reading room = .value m) : m.Distinct := by
  cases x with
  | text s => exact Json.distinct_of_parseText (Reading.read_of_value h)
  | octets bs =>
      rw [reading] at h
      split at h
      · exact Json.distinct_of_parseAll (Reading.read_of_value h)
      · cases h

namespace Processor

variable {ε : Type} (p : Processor ε)

/-- The objects in a response have distinct keys. -/
theorem payload_distinct {x : Payload} {s : Server ε} {v : Json}
    (h : ((p.payload x).on s).1 = .ok (some v)) : v.Distinct :=
  p.payload_carried Json.distinct_carried (fun _ => Payload.distinct_of_reading) s h

/-- **Every response is written on one line and read back from it.** -/
theorem payload_lined (x : Payload) (s : Server ε) {v : Json}
    (h : ((p.payload x).on s).1 = .ok (some v)) : v.Lined (Json.text .spaced v) :=
  Json.lined (p.payload_writable h) (p.payload_distinct h)

/-! ## Texts -/

/-- The texts in some lines: the lines without the blanks around them, but for those that are
blank. -/
def textsIn (lines : List String) : List String :=
  (lines.map Text.trim).filter fun text => !text.isEmpty

/-- The responses to texts, handled one after another. -/
def texts : List String → Act (Server ε) (List Json)
  | [] => pure []
  | text :: rest => do
    let response ← p.text text
    return response.toList ++ (← texts rest)

/-- A line is answered as the text in it is. -/
theorem line_text {line : String} (hline : (Text.trim line).isEmpty = false) {s t : Server ε}
    {response : Option Json} (h : (p.text (Text.trim line)).on s = (.ok response, t)) :
    (p.line line).on s = (.ok (response.map (Json.text .spaced)), t) := by
  rw [Processor.line]
  rw [hline, if_neg Bool.false_ne_true]
  refine (Act.on_bind_of_ok h).trans ?_
  cases response with
  | none => rfl
  | some v =>
      have hlined := p.payload_lined (.text (Text.trim line)) s (congrArg Prod.fst h)
      simp only [hlined.written]
      rfl

/-- A property of every response is one of all responses to texts. -/
theorem texts_all {P : Json → Prop}
    (hP : ∀ text s v, ((p.text text).on s).1 = .ok (some v) → P v) (texts : List String)
    {s : Server ε} {responses : List Json} (h : ((p.texts texts).on s).1 = .ok responses) :
    ∀ v ∈ responses, P v := by
  induction texts generalizing s responses with
  | nil =>
      cases h
      exact fun v hv => absurd hv List.not_mem_nil
  | cons text rest ih =>
      rw [Processor.texts] at h
      obtain ⟨response, t, htext, hon⟩ := Act.of_on_bind h
      rw [hon] at h
      obtain ⟨others, u, hothers, hon'⟩ := Act.of_on_bind h
      rw [hon'] at h
      cases h
      intro v hv
      rcases List.mem_append.mp hv with hfirst | hlater
      · obtain rfl := Option.mem_toList.mp hfirst
        exact hP text s v (congrArg Prod.fst htext)
      · exact ih (congrArg Prod.fst hothers) v hlater

/-- Lines are answered as the texts in them are. -/
theorem lines_texts (lines : List String) {s : Server ε} {responses : List Json}
    (h : ((p.texts (textsIn lines)).on s).1 = .ok responses) :
    (p.lines lines).on s = (.ok (responses.map (Json.text .spaced)),
      ((p.texts (textsIn lines)).on s).2) := by
  induction lines generalizing s responses with
  | nil =>
      cases h
      rfl
  | cons line rest ih =>
      rw [Processor.lines]
      cases hblank : (Text.trim line).isEmpty with
      | true =>
          have htexts : textsIn (line :: rest) = textsIn rest := by simp [textsIn, hblank]
          have hline : (p.line line).on s = (.ok none, s) := by
            rw [Processor.line, hblank]
            rfl
          rw [htexts] at h ⊢
          rw [Act.on_bind_of_ok hline, Act.on_bind_of_ok (ih h)]
          rfl
      | false =>
          have htexts : textsIn (line :: rest) = Text.trim line :: textsIn rest := by
            simp [textsIn, hblank]
          rw [htexts, texts] at h ⊢
          obtain ⟨response, t, htext, hon⟩ := Act.of_on_bind h
          rw [hon] at h ⊢
          obtain ⟨others, u, hothers, hon'⟩ := Act.of_on_bind h
          rw [hon'] at h ⊢
          cases h
          rw [Act.on_bind_of_ok (p.line_text hblank htext),
            Act.on_bind_of_ok (ih (congrArg Prod.fst hothers)), hothers]
          cases response <;> rfl

/-- What an input comes to: its texts are handled after the greeting. -/
def handle (input : String) : Act (Server ε) (List Json) := do
  greet
  p.texts (textsIn ((Text.splitAt '\n' input.toList).map String.ofList))

/-- **An input is served as the texts in it are handled.** -/
theorem serve_handle {input : String} {s : Server ε} {responses : List Json}
    (h : ((p.handle input).on s).1 = .ok responses) :
    (p.serve input).on s = (.ok (responses.map (Json.text .spaced)), ((p.handle input).on s).2) := by
  have hgreet : greet.on s = (.ok (), (greet.on s).2) := rfl
  rw [handle, Act.on_bind_of_ok hgreet] at h ⊢
  rw [serve, Act.on_bind_of_ok hgreet]
  exact p.lines_texts _ h

theorem handle_all {P : Json → Prop}
    (hP : ∀ text s v, ((p.text text).on s).1 = .ok (some v) → P v) {input : String} {s : Server ε}
    {responses : List Json} (h : ((p.handle input).on s).1 = .ok responses) :
    ∀ v ∈ responses, P v := by
  have hgreet : greet.on s = (.ok (), (greet.on s).2) := rfl
  rw [handle, Act.on_bind_of_ok hgreet] at h
  exact p.texts_all hP _ h

end Processor

end StoryServer
