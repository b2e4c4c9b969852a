import StoryServer.Bridge.Responder
import StoryServer.Proofs.Json.Line

/-!
# The lines of a story process

Which lines a story process answers, with what, and which end it.

*Reading.*  `readLine` says what a line is to the process: blank, no JSON, a command with the word
that its operation is looked up by, or a value for which there is no such word.  The last kind ends
the process.  A command ends it only if it throws something of which nothing can be said, and it may
never end (`answer_eq`).

*Conversing.*  `Served` is a conversation: every line is answered with one line, by the story that
the answers before it have left.  A process answers the lines that are not blank one by one, up to
the first one that ends it or that it never comes to an answer to (`converse_served`).

*Words that name no operation.*  They leave the story alone.  Most are refused; two of the words
that every object knows are not (`answer_misnamed`).

All of this holds for every interpreter.
-/

namespace StoryServer

namespace Bridge

namespace Responder

variable {σ : Type}

/-! ## Reading -/

/-- What a line is to a story process. -/
inductive Reading where
  /-- Nothing but characters that are passed over. -/
  | blank
  | noJson (reason : String)
  /-- A value with no word to look an operation up by. -/
  | wordless
  | command (word : String) (v : Json)
  deriving DecidableEq, Repr

def Reading.isBlank : Reading → Bool
  | .blank => true
  | _ => false

def readLine (r : Responder σ) (line : String) : Reading :=
  let text := String.ofList (Text.trimBy isPassedOver line.toList)
  if text.isEmpty then .blank
  else
    match Json.parseStrict text with
    | .error reason => .noJson reason
    | .ok v =>
      match r.wordOf? v.settled with
      | none => .wordless
      | some word => .command word v.settled

section Serving

variable {r : Responder σ} {held held' : Option σ} {line : String} {lines : List String}

/-- What comes of a command, and the story it leaves. -/
def answerCommand (r : Responder σ) (word : String) (v : Json) (held : Option σ) :
    Response × Option σ :=
  match r.perform? word v with
  | none => (written (refusal (.str ("Unknown op: " ++ word))), held)
  | some act =>
    match act.run.run held with
    | (.ok reply, left) => (written reply, left)
    | (.error t, left) => (refused t, left)

theorem respond_eq (v : Json) (held : Option σ) :
    (r.respond v).run held =
      match r.wordOf? v with
      | none => (.crash, held)
      | some word => r.answerCommand word v held := by
  rw [respond]
  cases r.wordOf? v with
  | none => rfl
  | some word =>
      dsimp only
      rw [answerCommand]
      cases r.perform? word v with
      | none => rfl
      | some act =>
          dsimp only
          rw [StateT.run_bind]
          generalize act.run.run held = run
          obtain ⟨reply, left⟩ := run
          cases reply <;> rfl

/-- What comes of a line. -/
theorem answer_eq (line : String) (held : Option σ) :
    (r.answer line).run held =
      match r.readLine line with
      | .blank => (.nothing, held)
      | .noJson reason => (written (refusal (.str (invalidLine reason))), held)
      | .wordless => (.crash, held)
      | .command word v => r.answerCommand word v held := by
  rw [answer, readLine]
  split
  · rfl
  · cases Json.parseStrict (String.ofList (Text.trimBy isPassedOver line.toList)) with
    | error reason => rfl
    | ok v =>
        dsimp only
        rw [respond_eq]
        cases r.wordOf? v.settled <;> rfl

/-- What a process says to a line for an operation that there is. -/
theorem answer_perform {word : String} {v : Json} {act : Telling (Option σ) Json}
    (hread : r.readLine line = .command word v) (hact : r.perform? word v = some act)
    (held : Option σ) :
    (r.answer line).run held =
      match act.run.run held with
      | (.ok reply, left) => (written reply, left)
      | (.error t, left) => (refused t, left) := by
  rw [answer_eq, hread]
  dsimp only
  rw [answerCommand, hact]
  rfl

/-! ## Serving -/

/-- A text that is one line of output. -/
def OneLine (text : String) : Prop := '\n' ∉ text.toList ∧ '\r' ∉ text.toList

theorem oneLine_written (v : Json) : OneLine (Json.text Json.terse v) := by
  have hprinted : Json.Printed (Json.text Json.terse v).toList := by
    rw [Json.text, String.toList_ofList]
    exact Json.printed_chars Json.terse_flat v
  exact ⟨hprinted.no_lineFeed, hprinted.no_carriageReturn⟩

/-- Lines that are answered one by one, each with one line of output. -/
inductive Served (r : Responder σ) : Option σ → List String → List String → Option σ → Prop where
  | rest (held : Option σ) : Served r held [] [] held
  | line {held middle left : Option σ} {line text : String} {lines texts : List String}
      (hanswer : (r.answer line).run held = (.line text, middle)) (hone : OneLine text)
      (hrest : Served r middle lines texts left) :
      Served r held (line :: lines) (text :: texts) left

/-- Every line has one answer. -/
theorem Served.length_eq {texts : List String} (h : Served r held lines texts held') :
    texts.length = lines.length := by
  induction h with
  | rest held => rfl
  | line _ _ _ ih => rw [List.length_cons, List.length_cons, ih]

/-- How a process is after a line that it does not answer. -/
inductive Fails (r : Responder σ) (line : String) (held : Option σ) : Ending → Option σ → Prop where
  | crashed {left : Option σ} (h : (r.answer line).run held = (.crash, left)) :
      Fails r line held .crashed left
  | unending {left : Option σ} (h : (r.answer line).run held = (.unending, left)) :
      Fails r line held .unending left

/-- A line that is not blank is answered with one line, or it fails. -/
theorem answer_line (held : Option σ) (hblank : (r.readLine line).isBlank = false) :
    (∃ text middle, (r.answer line).run held = (.line text, middle) ∧ OneLine text) ∨
      ∃ ending left, Fails r line held ending left := by
  have hanswer := r.answer_eq line held
  cases hread : r.readLine line with
  | blank =>
      rw [hread] at hblank
      cases hblank
  | noJson reason =>
      rw [hread] at hanswer
      exact .inl ⟨_, _, hanswer, oneLine_written _⟩
  | wordless =>
      rw [hread] at hanswer
      exact .inr ⟨_, _, .crashed hanswer⟩
  | command word v =>
      rw [hread] at hanswer
      dsimp only at hanswer
      rw [answerCommand] at hanswer
      split at hanswer
      · exact .inl ⟨_, _, hanswer, oneLine_written _⟩
      · split at hanswer
        · exact .inl ⟨_, _, hanswer, oneLine_written _⟩
        · rw [refused] at hanswer
          split at hanswer
          · exact .inl ⟨_, _, hanswer, oneLine_written _⟩
          · exact .inr ⟨_, _, .unending hanswer⟩
          · exact .inr ⟨_, _, .crashed hanswer⟩

/-- What a process does with a line and those after it. -/
theorem converse_cons (held : Option σ) (line : String) (lines : List String) :
    (r.converse (line :: lines)).run held =
      match (r.answer line).run held with
      | (.crash, left) => (([], .crashed), left)
      | (.unending, left) => (([], .unending), left)
      | (.nothing, middle) => (r.converse lines).run middle
      | (.line text, middle) =>
        ((text :: ((r.converse lines).run middle).1.1, ((r.converse lines).run middle).1.2),
          ((r.converse lines).run middle).2) := by
  rw [converse, StateT.run_bind]
  generalize (r.answer line).run held = run
  obtain ⟨response, middle⟩ := run
  cases response <;> rfl

/-- The lines that are not blank. -/
def spoken (r : Responder σ) (lines : List String) : List String :=
  lines.filter fun line => !(r.readLine line).isBlank

/-- How a process is after it was given lines, and answered some of them: it has answered all that
are not blank, or the first one that it has not answered fails. -/
inductive Ends (r : Responder σ) (middle : Option σ) : List String → Ending → Option σ → Prop where
  | waiting : Ends r middle [] .waiting middle
  | fails {line : String} {rest : List String} {ending : Ending} {left : Option σ}
      (h : Fails r line middle ending left) : Ends r middle (line :: rest) ending left

/-- A process answers the lines that are not blank, one by one, up to the first that fails. -/
theorem converse_served (r : Responder σ) : ∀ (lines : List String) (held : Option σ),
    ∃ texts ending left, (r.converse lines).run held = ((texts, ending), left) ∧
      ∃ answered rest middle, r.spoken lines = answered ++ rest ∧
        Served r held answered texts middle ∧ Ends r middle rest ending left
  | [], held => ⟨[], .waiting, held, rfl, [], [], held, rfl, .rest held, .waiting⟩
  | line :: lines, held => by
      rw [converse_cons]
      cases hblank : (r.readLine line).isBlank with
      | true =>
          obtain ⟨texts, ending, left, hrest, hserved⟩ := converse_served r lines held
          have hread : r.readLine line = .blank := by
            cases hread : r.readLine line <;> simp_all [Reading.isBlank]
          have hsame : r.spoken (line :: lines) = r.spoken lines := by simp [spoken, hblank]
          rw [answer_eq, hread, hsame]
          exact ⟨texts, ending, left, hrest, hserved⟩
      | false =>
          have hnext : r.spoken (line :: lines) = line :: r.spoken lines := by
            simp [spoken, hblank]
          rcases answer_line held hblank with ⟨text, middle, hanswer, hone⟩ | ⟨ending, left, hfails⟩
          · obtain ⟨texts, ending, left, hrest, answered, rest, last, hspoken, hserved, hends⟩ :=
              converse_served r lines middle
            rw [hanswer, hnext, hspoken]
            refine ⟨text :: texts, ending, left, ?_, line :: answered, rest, last, rfl,
              .line hanswer hone hserved, hends⟩
            dsimp only
            rw [hrest]
          · rw [hnext]
            refine ⟨[], ending, left, ?_, [], _, held, rfl, .rest held, .fails hfails⟩
            cases hfails with
            | crashed h => rw [h]
            | unending h => rw [h]

/-! ## Words that name no operation -/

/-- What a word that every object knows answers is a fault, but for two words. -/
theorem inherited_answer {room : Nat} {word : String} {v : Json} {reply : Except Thrown Json}
    (h : Inherited.answer? room word v = some reply) :
    (∃ message, reply = .error (.error message)) ∨
      (word = "constructor" ∧ v.levels ≤ room ∧ reply = .ok v) ∨
      (word = "toString" ∧ reply = .ok (.str "[object Undefined]")) := by
  rw [Inherited.answer?] at h
  split at h
  · next hw =>
      rw [← Option.some.inj h, echo]
      split
      · next hroom => exact .inr (.inl ⟨eq_of_beq hw, hroom, rfl⟩)
      · exact .inl ⟨_, rfl⟩
  split at h
  · next hw => exact .inr (.inr ⟨eq_of_beq hw, (Option.some.inj h).symm⟩)
  split at h
  · exact .inl ⟨_, (Option.some.inj h).symm⟩
  split at h
  · exact .inl ⟨_, (Option.some.inj h).symm⟩
  split at h
  · exact .inl ⟨_, (Option.some.inj h).symm⟩
  · cases h

/-- A word that names no operation leaves the story.  It is refused, unless it is one of two that
every object knows: one gives the command back, the other a word for nothing. -/
theorem answer_misnamed {word : String} {v : Json} (hread : r.readLine line = .command word v)
    (hname : Command.ofName? word = none) (held : Option σ) :
    ∃ reply, (r.answer line).run held = (written reply, held) ∧
      ((∃ message, reply = refusal message) ∨ (word = "constructor" ∧ reply = v) ∨
        (word = "toString" ∧ reply = .str "[object Undefined]")) := by
  have hperform : r.perform? word v = (Inherited.answer? r.room word v).map ofExcept := by
    simp only [perform?, hname]
  rw [answer_eq, hread]
  dsimp only
  rw [answerCommand, hperform]
  cases hanswer : Inherited.answer? r.room word v with
  | none => exact ⟨_, rfl, .inl ⟨_, rfl⟩⟩
  | some given =>
      rcases inherited_answer hanswer with ⟨message, rfl⟩ | ⟨rfl, -, rfl⟩ | ⟨rfl, rfl⟩
      · exact ⟨_, rfl, .inl ⟨_, rfl⟩⟩
      · exact ⟨_, rfl, .inr (.inl ⟨rfl, rfl⟩)⟩
      · exact ⟨_, rfl, .inr (.inr ⟨rfl, rfl⟩)⟩

/-- Nothing can be said of something thrown if nothing was thrown, or if it has no spelling. -/
theorem said_endless {t : Thrown} (h : t.said = .error .endless) : t = .endless := by
  cases t with
  | error message => cases h
  | endless => rfl
  | value v =>
      rw [Thrown.said] at h
      split at h
      · cases h
      · rw [spell] at h
        split at h <;> cases h

/-- A line for an operation is answered with one line, unless the operation never ends or throws
what nothing can be said of. -/
theorem answer_named {word : String} {v : Json} {c : Command}
    (hread : r.readLine line = .command word v) (hname : Command.ofName? word = some c)
    (held : Option σ) :
    (∃ text left, (r.answer line).run held = (.line text, left)) ∨
      ∃ t left, (r.perform (membersOf v) c).run.run held = (.error t, left) ∧
        (t = .endless ∧ (r.answer line).run held = (.unending, left) ∨
          ∃ t', t ≠ .endless ∧ t.said = .error t' ∧ (r.answer line).run held = (.crash, left)) := by
  have hact : r.perform? word v = some (r.perform (membersOf v) c) := by simp only [perform?, hname]
  rw [answer_perform hread hact]
  generalize (r.perform (membersOf v) c).run.run held = run
  obtain ⟨reply, left⟩ := run
  cases reply with
  | ok reply => exact .inl ⟨_, _, rfl⟩
  | error t =>
      dsimp only
      rw [refused]
      cases hsaid : t.said with
      | ok message => exact .inl ⟨_, _, rfl⟩
      | error t' =>
          refine .inr ⟨t, left, rfl, ?_⟩
          by_cases hendless : t = .endless
          · obtain rfl := hendless
            cases hsaid
            exact .inl ⟨rfl, rfl⟩
          · refine .inr ⟨t', hendless, hsaid, ?_⟩
            have hne : t' ≠ .endless := fun he => hendless (said_endless (he ▸ hsaid))
            cases t' <;> first | rfl | exact absurd rfl hne

/-- **A line of output for a line of input.**  A process answers the lines that are not blank one
by one, each with one line of output, up to the first that fails; if there is none, it answers them
all and waits for the next.

A blank line leaves the story, and so does a line that is no JSON, which is refused.  A value with no
word to look an operation up by ends the process.  A word that names no operation leaves the story;
it is refused, but for two words that every object knows.  A line for an operation is answered with
one line unless the operation never ends, or throws what nothing can be said of. -/
theorem lines_answered (r : Responder σ) (held : Option σ) (lines : List String) :
    (∃ texts ending left, (r.converse lines).run held = ((texts, ending), left) ∧
      ∃ answered rest middle, r.spoken lines = answered ++ rest ∧
        Served r held answered texts middle ∧ texts.length = answered.length ∧
        Ends r middle rest ending left) ∧
    ∀ (line : String) (held : Option σ),
      match r.readLine line with
      | .blank => (r.answer line).run held = (.nothing, held)
      | .noJson reason =>
        (r.answer line).run held = (written (refusal (.str (invalidLine reason))), held)
      | .wordless => (r.answer line).run held = (.crash, held)
      | .command word v =>
        (Command.ofName? word = none → ∃ reply, (r.answer line).run held = (written reply, held) ∧
          ((∃ message, reply = refusal message) ∨ (word = "constructor" ∧ reply = v) ∨
            (word = "toString" ∧ reply = .str "[object Undefined]"))) ∧
        ∀ c, Command.ofName? word = some c →
          (∃ text left, (r.answer line).run held = (.line text, left)) ∨
          ∃ t left, (r.perform (membersOf v) c).run.run held = (.error t, left) ∧
            (t = .endless ∧ (r.answer line).run held = (.unending, left) ∨
              ∃ t', t ≠ .endless ∧ t.said = .error t' ∧ (r.answer line).run held = (.crash, left)) := by
  refine ⟨?_, fun line held => ?_⟩
  · obtain ⟨texts, ending, left, hconverse, answered, rest, middle, hspoken, hserved, hends⟩ :=
      converse_served r lines held
    exact ⟨texts, ending, left, hconverse, answered, rest, middle, hspoken, hserved,
      hserved.length_eq, hends⟩
  · have hanswer := r.answer_eq line held
    cases hread : r.readLine line with
    | command word v =>
        exact ⟨fun hname => answer_misnamed hread hname held,
          fun c hname => answer_named hread hname held⟩
    | _ =>
        rw [hread] at hanswer
        exact hanswer

end Serving

end Responder

end Bridge

end StoryServer
