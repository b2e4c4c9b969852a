import StoryServer.Playbook
import StoryServer.Proofs.Bridge.Serving

/-!
# Telling at once and line by line

A story process tells all lines up to the next choice at once, or one line at a time.
`told_line_by_line` says that both come to the same.

*The story.*  `Interpreter.Tells` is what an interpreter tells from a state, line by line, until
there is no next line or one throws.  An interpreter is any state machine; only what it tells has
to be a text, with a list of tags or none.

*The process.*  `Asked` is a conversation: a line that asks for the next line of the story is sent
again and again, until an answer says that there is none, or an error.  The answers have the lines
of the story (`tells_asked`), and so has the answer when all are told at once
(`tells_continueAll`).
-/

namespace StoryServer

namespace Bridge

variable {σ τ α β : Type}

/-- What an interpreter tells from a state, each line with its tags: up to the state where there is
no next line, or where something was thrown. -/
inductive Interpreter.Tells (i : Interpreter σ) :
    σ → List (String × List Json) → Option Thrown → σ → Prop
  | rest {s : σ} (hcan : i.canContinue s = false) : Tells i s [] none s
  | thrown {s t : σ} {e : Thrown} (hcan : i.canContinue s = true)
      (htell : i.tell.run.run s = (.error e, t)) : Tells i s [] (some e) t
  | line {s t u : σ} {text : String} {tags : List Json} {lines : List (String × List Json)}
      {failure : Option Thrown} (hcan : i.canContinue s = true)
      (htell : i.tell.run.run s = (.ok (some (.str text)), t))
      (htags : Json.orEmpty (i.tags t) = .arr tags) (hrest : Tells i t lines failure u) :
      Tells i s ((text, tags) :: lines) failure u

/-! ## Running steps of a story -/

theorem telling_bind (act : Telling τ α) (next : α → Telling τ β) (s : τ) :
    (act >>= next).run.run s =
      match act.run.run s with
      | (.ok a, t) => (next a).run.run t
      | (.error e, t) => (.error e, t) := by
  simp only [bind, ExceptT.bind, ExceptT.run, ExceptT.mk, StateT.run, StateT.bind]
  generalize act s = r
  obtain ⟨r, t⟩ := r
  cases r <;> rfl

theorem telling_bind_get (next : τ → Telling τ β) (s : τ) :
    (get >>= next : Telling τ β).run.run s = (next s).run.run s := rfl

theorem telling_bind_ok {act : Telling τ α} {s t : τ} {a : α} (h : act.run.run s = (.ok a, t))
    (next : α → Telling τ β) : (act >>= next).run.run s = (next a).run.run t := by
  rw [telling_bind, h]

theorem telling_bind_error {act : Telling τ α} {s t : τ} {e : Thrown}
    (h : act.run.run s = (.error e, t)) (next : α → Telling τ β) :
    (act >>= next).run.run s = (.error e, t) := by
  rw [telling_bind, h]

/-- A playbook tells the line at its position, if the line throws nothing. -/
theorem playbook_tell {p : Playbook} {n : Nat} {line : Json} (hn : n < Json.indexLimit)
    (hplace : Json.spelledOrAbsent? p.position = some n.repr) (hline : p.lines[n]? = some line)
    (hthrow : line.get? "throw" = none) : Playbook.tell.run.run p =
      (.ok (line.get? "text"), { p with
        position := p.advanced
        bindings := Playbook.putAll p.bindings (Playbook.membersOf (line.get? "set"))
        tags := line.get? "tags" }) := by
  have hindex := Json.indexKey?_repr hn
  have hnext : p.nextLine = some line := by
    unfold Playbook.nextLine Playbook.part
    rw [hplace]
    dsimp only
    rw [hindex, Option.bind_some, hline]
  rw [Playbook.tell, telling_bind_get, hnext]
  dsimp only
  rw [hthrow]
  rfl

namespace Responder

variable {r : Responder σ} {s t : σ} {e : Thrown} {text line : String} {tags more : List Json}

/-! ## Telling all lines -/

theorem tellAll_rest (hcan : r.interpreter.canContinue s = false) (n : Nat) (text : String)
    (tags : List Json) : (r.tellAll n text tags).run.run s = (.ok (text, tags), s) := by
  cases n with
  | zero | succ n =>
      rw [tellAll, telling_bind_get, hcan]
      rfl

theorem tellAll_thrown (hcan : r.interpreter.canContinue s = true)
    (htell : r.interpreter.tell.run.run s = (.error e, t)) (n : Nat) (text : String)
    (tags : List Json) : (r.tellAll (n + 1) text tags).run.run s = (.error e, t) := by
  rw [tellAll, telling_bind_get, hcan]
  exact telling_bind_error htell _

theorem tellAll_line (hcan : r.interpreter.canContinue s = true)
    (htell : r.interpreter.tell.run.run s = (.ok (some (.str line)), t))
    (htags : Json.orEmpty (r.interpreter.tags t) = .arr more) (n : Nat) (text : String)
    (tags : List Json) :
    (r.tellAll (n + 1) text tags).run.run s =
      (r.tellAll n (text ++ line) (tags ++ more)).run.run t := by
  rw [tellAll, telling_bind_get, hcan]
  refine (telling_bind_ok htell _).trans ?_
  refine (telling_bind_ok rfl _).trans ?_
  rw [telling_bind_get, htags]
  exact telling_bind_ok rfl _

/-- All lines are told, and put together with what was told before. -/
theorem tells_tellAll {lines : List (String × List Json)} {failure : Option Thrown}
    (h : r.interpreter.Tells s lines failure t) {n : Nat}
    (hn : lines.length + failure.toList.length ≤ n) (text : String) (tags : List Json) :
    (r.tellAll n text tags).run.run s =
      match failure with
      | none => (.ok (text ++ String.join (lines.map (·.1)), tags ++ lines.flatMap (·.2)), t)
      | some e => (.error e, t) := by
  induction h generalizing n text tags with
  | rest hcan => simpa using tellAll_rest hcan n text tags
  | thrown hcan htell =>
      obtain ⟨n, rfl⟩ : ∃ m, n = m + 1 := Nat.exists_eq_add_one.mpr hn
      exact tellAll_thrown hcan htell n text tags
  | @line s t u told given lines failure hcan htell htags _ ih =>
      rw [List.length_cons] at hn
      obtain ⟨n, rfl⟩ : ∃ m, n = m + 1 := Nat.exists_eq_add_one.mpr (by omega)
      rw [tellAll_line hcan htell htags, ih (by omega)]
      cases failure <;> simp [String.append_assoc]

/-! ## Answers -/

/-- What an answer to a continuation says. -/
structure Passage where
  text : String
  tags : List Json
  canContinue : Bool
  choices : Json
  deriving DecidableEq, Repr

def Passage.toJson (p : Passage) : Json :=
  ok [("text", some (.str p.text)), ("can_continue", some (.bool p.canContinue)),
    ("choices", some p.choices), ("tags", some (.arr p.tags))]

/-- What is said in a state after a text with tags. -/
def passage (r : Responder σ) (text : String) (tags : List Json) (s : σ) : Passage :=
  ⟨text, tags, r.interpreter.canContinue s, r.choicesJson s⟩

theorem continueLine_rest (hcan : r.interpreter.canContinue s = false) :
    r.continueLine.run.run s = (.ok (r.passage "" [] s).toJson, s) := by
  rw [continueLine, telling_bind_get, hcan]
  rfl

theorem continueLine_thrown (hcan : r.interpreter.canContinue s = true)
    (htell : r.interpreter.tell.run.run s = (.error e, t)) :
    r.continueLine.run.run s = (.error e, t) := by
  rw [continueLine, telling_bind_get, if_pos hcan]
  exact telling_bind_error htell _

theorem continueLine_line (hcan : r.interpreter.canContinue s = true)
    (htell : r.interpreter.tell.run.run s = (.ok (some (.str text)), t))
    (htags : Json.orEmpty (r.interpreter.tags t) = .arr tags) :
    r.continueLine.run.run s = (.ok (r.passage text tags t).toJson, t) := by
  rw [continueLine, telling_bind_get, if_pos hcan]
  refine (telling_bind_ok htell _).trans ?_
  rw [telling_bind_get, htags]
  exact telling_bind_ok rfl _

theorem tells_continueAll {lines : List (String × List Json)} {failure : Option Thrown}
    (h : r.interpreter.Tells s lines failure t)
    (hn : lines.length + failure.toList.length ≤ r.interpreter.linesLeft s) :
    r.continueAll.run.run s =
      match failure with
      | none => (.ok (r.passage (String.join (lines.map (·.1))) (lines.flatMap (·.2)) t).toJson, t)
      | some e => (.error e, t) := by
  have htold := tells_tellAll h hn "" []
  rw [continueAll, telling_bind_get]
  cases failure with
  | none =>
      rw [String.empty_append, List.nil_append] at htold
      exact telling_bind_ok htold _
  | some e => exact telling_bind_error htold _

/-! ## Conversations -/

/-- A line with the members of a command, which stand in it as a process has them. -/
theorem readLine_members {line word : String} {members : Fields}
    (hline : Json.parseStrict (String.ofList (Text.trimBy isPassedOver line.toList)) =
      .ok (.obj members))
    (hsome : (String.ofList (Text.trimBy isPassedOver line.toList)).isEmpty = false)
    (hsettled : (Json.obj members).settled = .obj members)
    (hword : r.wordOf? (.obj members) = some word) : r.readLine line = .command word (.obj members) := by
  rw [readLine, hsome, hline]
  dsimp only
  rw [hsettled, hword]
  rfl

/-- A line with the name of an operation and nothing else is a command. -/
theorem readLine_op {line word : String}
    (hline : Json.parseStrict (String.ofList (Text.trimBy isPassedOver line.toList)) =
      .ok (.obj [("op", .str word)]))
    (hsome : (String.ofList (Text.trimBy isPassedOver line.toList)).isEmpty = false) :
    r.readLine line = .command word (.obj [("op", .str word)]) := by
  have hkey : Json.indexKey? "op" = none := by decide +kernel
  refine readLine_members hline hsome ?_ rfl
  simp [Json.settled, Json.settledFields, Json.indexFirst, hkey]

/-- What a process says to a line for a command on its story. -/
theorem answer_onStory {word : String} {v : Json} {c : Command} {act : Telling σ Json}
    (hread : r.readLine line = .command word v) (hname : Command.ofName? word = some c)
    (hperform : ∀ fields, r.perform fields c = onStory act) (s : σ) :
    (r.answer line).run (some s) =
      match act.run.run s with
      | (.ok reply, t) => (written reply, some t)
      | (.error e, t) => (refused e, some t) := by
  have hact : r.perform? word v = some (onStory act) := by
    unfold perform?
    rw [hname]
    cases v <;> exact congrArg some (hperform _)
  have hrun : (onStory act).run.run (some s) = ((act.run.run s).1, some (act.run.run s).2) := rfl
  rw [answer_perform hread hact, hrun]
  obtain ⟨reply, t⟩ := act.run.run s
  cases reply <;> rfl

/-- What a process says from a state to a line that is sent again and again: passages up to one
that says that the story cannot be continued, or up to an error. -/
inductive Asked (r : Responder σ) (line : String) : σ → List Passage → Option Thrown → σ → Prop
  | last {s t : σ} {p : Passage}
      (hanswer : (r.answer line).run (some s) = (written p.toJson, some t))
      (hcan : p.canContinue = false) : Asked r line s [p] none t
  | refused {s t : σ} {e : Thrown}
      (hanswer : (r.answer line).run (some s) = (refused e, some t)) :
      Asked r line s [] (some e) t
  | more {s t u : σ} {p : Passage} {passages : List Passage} {failure : Option Thrown}
      (hanswer : (r.answer line).run (some s) = (written p.toJson, some t))
      (hcan : p.canContinue = true) (hrest : Asked r line t passages failure u) :
      Asked r line s (p :: passages) failure u

/-- The last of the passages says what there is to say in a state. -/
def Closes (r : Responder σ) (passages : List Passage) (t : σ) : Prop :=
  ∃ last, passages.getLast? = some last ∧
    last.canContinue = r.interpreter.canContinue t ∧ last.choices = r.choicesJson t

section Conversations

variable {ask : String} {v : Json} (hask : r.readLine ask = .command "continue-line" v)

include hask

theorem answer_continueLine (s : σ) : (r.answer ask).run (some s) =
    match r.continueLine.run.run s with
    | (.ok reply, t) => (written reply, some t)
    | (.error e, t) => (refused e, some t) :=
  answer_onStory hask rfl (fun _ => rfl) s

/-- The lines of the story are in the passages. -/
theorem tells_asked {lines : List (String × List Json)} {failure : Option Thrown}
    (h : r.interpreter.Tells s lines failure t) :
    ∃ passages, Asked r ask s passages failure t ∧
      String.join (passages.map (·.text)) = String.join (lines.map (·.1)) ∧
      passages.flatMap (·.tags) = lines.flatMap (·.2) ∧
      (failure = none → r.Closes passages t) := by
  induction h with
  | @rest s hcan =>
      refine ⟨[r.passage "" [] s], .last ?_ hcan, rfl, rfl, fun _ => ⟨_, rfl, rfl, rfl⟩⟩
      rw [answer_continueLine hask, continueLine_rest hcan]
  | thrown hcan htell =>
      refine ⟨[], .refused ?_, rfl, rfl, nofun⟩
      rw [answer_continueLine hask, continueLine_thrown hcan htell]
  | @line s t u text tags lines failure hcan htell htags hrest ih =>
      have hanswer : (r.answer ask).run (some s) =
          (written (r.passage text tags t).toJson, some t) := by
        rw [answer_continueLine hask, continueLine_line hcan htell htags]
      cases hmore : r.interpreter.canContinue t with
      | false =>
          -- nothing is told after this line, and nothing is asked
          cases hrest with
          | rest =>
              exact ⟨[r.passage text tags t], .last hanswer hmore, rfl, rfl,
                fun _ => ⟨_, rfl, rfl, rfl⟩⟩
          | thrown hcan => exact absurd (hmore.symm.trans hcan) Bool.false_ne_true
          | line hcan => exact absurd (hmore.symm.trans hcan) Bool.false_ne_true
      | true =>
          obtain ⟨passages, hasked, htext, htagged, hlast⟩ := ih
          refine ⟨r.passage text tags t :: passages, .more hanswer hmore hasked, ?_, ?_, fun hf => ?_⟩
          · simp [passage, htext]
          · simp [passage, htagged]
          · obtain ⟨last, hgiven, hstate⟩ := hlast hf
            exact ⟨last, by rw [List.getLast?_cons, hgiven, Option.getD_some], hstate⟩

end Conversations

/-- **All lines at once are the lines one by one.**  A process whose story comes to an end is asked
for a line until there is none.  Asked for all lines instead, it answers the texts and the tags of
these passages one after another, with what the last passage says of the state, and it is left with
the same story; where a line throws, it answers the same error.  For a story that cannot be
continued the text is empty, and there are no tags. -/
theorem told_line_by_line (r : Responder σ) {lines : List (String × List Json)}
    {failure : Option Thrown} (htells : r.interpreter.Tells s lines failure t)
    (hleft : lines.length + failure.toList.length ≤ r.interpreter.linesLeft s)
    {ask all : String} {v w : Json} (hask : r.readLine ask = .command "continue-line" v)
    (hall : r.readLine all = .command "continue" w) :
    (∃ passages, Asked r ask s passages failure t ∧
      match failure with
      | none => ∃ last, passages.getLast? = some last ∧
        (r.answer all).run (some s) =
          (written (Passage.toJson
            { last with
              text := String.join (passages.map (·.text)), tags := passages.flatMap (·.tags) }),
            some t)
      | some e => (r.answer all).run (some s) = (refused e, some t)) ∧
    (r.interpreter.canContinue s = false → (r.answer all).run (some s) =
      (written (Passage.toJson ⟨"", [], false, r.choicesJson s⟩), some s)) := by
  have hanswer : (r.answer all).run (some s) =
      match r.continueAll.run.run s with
      | (.ok reply, t) => (written reply, some t)
      | (.error e, t) => (refused e, some t) :=
    answer_onStory hall rfl (fun _ => rfl) s
  rw [tells_continueAll htells hleft] at hanswer
  refine ⟨?_, fun hcan => ?_⟩
  · obtain ⟨passages, hasked, htext, htags, hcloses⟩ := tells_asked hask htells
    refine ⟨passages, hasked, ?_⟩
    cases failure with
    | some e => exact hanswer
    | none =>
        obtain ⟨last, hlast, hcan, hchoices⟩ := hcloses rfl
        refine ⟨last, hlast, ?_⟩
        rw [hanswer, htext, htags, hcan, hchoices]
        rfl
  · cases htells with
    | rest =>
        rw [hanswer, ← hcan]
        rfl
    | thrown h => exact absurd (hcan.symm.trans h) Bool.false_ne_true
    | line h => exact absurd (hcan.symm.trans h) Bool.false_ne_true

/-- A block of two lines with tags and a choice after them. -/
theorem told_line_by_line_two :
    let r : Responder Playbook := { interpreter := Playbook.interpreter }
    let lineA : Json := .obj [("text", .str "A\n"), ("tags", .arr [.str "x"])]
    let lineB : Json := .obj [("text", .str "B\n")]
    let script : Json := .obj [("blocks", .obj [("start", .obj
      [("lines", .arr [lineA, lineB]), ("choices", .arr [.obj [("text", .str "go")]])])])]
    let s := Playbook.opening script
    let t : Playbook := { s with position := some (.float (Binary64.ofInt 2)) }
    let ask := "\x7b\"op\":\"continue-line\"\x7d"
    let all := "\x7b\"op\":\"continue\"\x7d"
    r.interpreter.Tells s [("A\n", [.str "x"]), ("B\n", [])] none t ∧
    r.interpreter.linesLeft s = 2 ∧
    r.readLine ask = .command "continue-line" (.obj [("op", .str "continue-line")]) ∧
    r.readLine all = .command "continue" (.obj [("op", .str "continue")]) ∧
    ∃ passages last, Asked r ask s passages none t ∧ passages.getLast? = some last ∧
      (r.answer all).run (some s) =
        (written (Passage.toJson
          { last with
            text := String.join (passages.map (·.text)), tags := passages.flatMap (·.tags) }),
          some t) := by
  intro r lineA lineB script s t ask all
  let first : Playbook :=
    { s with position := some (.float (Binary64.ofInt 1)), tags := some (.arr [.str "x"]) }
  have hlineA : s.lines[0]? = some lineA := by decide +kernel
  have hlineB : first.lines[1]? = some lineB := by decide +kernel
  have hbegun : r.interpreter.tell.run.run s = (.ok (some (.str "A\n")), first) := by
    have htold := playbook_tell (by decide) (by decide +kernel) hlineA (by decide +kernel)
    rwa [show s.advanced = first.position by decide +kernel] at htold
  have hthen : r.interpreter.tell.run.run first = (.ok (some (.str "B\n")), t) := by
    have htold := playbook_tell (by decide) (by decide +kernel) hlineB (by decide +kernel)
    rwa [show first.advanced = t.position by decide +kernel] at htold
  have htells : r.interpreter.Tells s [("A\n", [.str "x"]), ("B\n", [])] none t :=
    .line (by decide +kernel) hbegun (by decide +kernel)
      (.line (by decide +kernel) hthen (by decide +kernel) (.rest (by decide +kernel)))
  have hleft : r.interpreter.linesLeft s = 2 := by decide +kernel
  have hask : r.readLine ask = .command "continue-line" (.obj [("op", .str "continue-line")]) :=
    readLine_op (by decide +kernel) (by decide +kernel)
  have hall : r.readLine all = .command "continue" (.obj [("op", .str "continue")]) :=
    readLine_op (by decide +kernel) (by decide +kernel)
  obtain ⟨⟨passages, hasked, last, hlast, hanswer⟩, -⟩ :=
    told_line_by_line r htells hleft.ge hask hall
  exact ⟨htells, hleft, hask, hall, passages, last, hasked, hlast, hanswer⟩

end Responder

end Bridge

end StoryServer
