import StoryServer.Debug.Debugger
import StoryServer.Session.Registry
import StoryServer.Tool.Request

/-!
# Answering requests

A `Toolbox` is what a server is set up with.  `Toolbox.answer` does what a request asks
and gives the object to answer with.  `Toolbox.call` is a call as a client makes it: a
fault is an answer too, marked as an error and named in its text.  Only a tool that never
ends gives no answer.
-/

namespace StoryServer

/-- What a server is set up with. -/
structure Toolbox (ε : Type) where
  engine : StoryEngine ε
  /-- How many steps a trace keeps, when there is a debugger. -/
  traceLimit : Option Int := some Debug.defaultLimit
  /-- How the chat endpoint is used, when there is one. -/
  author : Option Author.Settings := none

/-- The answer to a call. -/
structure ToolResult where
  text : String
  isError : Bool
  deriving DecidableEq, Repr

/-- An answer as an object. -/
def ToolResult.toJson (r : ToolResult) : Json :=
  .obj [("content", .arr [.obj [("type", .str "text"), ("text", .str r.text)]]),
    ("isError", .bool r.isError)]

namespace Toolbox

variable {ε : Type} (box : Toolbox ε)

/-! ## The tools on offer -/

/-- Whether a group is on offer. -/
def offers : ToolGroup → Bool
  | .ink => true
  | .bidi => box.engine.hasBidi
  | .debug => box.traceLimit.isSome
  | .author => box.author.isSome

/-- The tools on offer, in order. -/
def tools : List Tool := (Tool.groups.filter box.offers).flatMap Tool.ofGroup

/-- The tool on offer with a name. -/
def find? (name : String) : Option Tool := box.tools.find? fun t => t.name == name

/-! ## Stories -/

/-- An action on the story of a live session. -/
def withStory {α : Type} (id : String) (act : StoryId → Act (Stage ε) α) : Act (Server ε) α := do
  let session ← Server.session id
  Server.onStage (act session.story)

/-- Continues a story, from a saved state if one is given. -/
def resume (state : Option String) (story : StoryId) : Act (Stage ε) Continuation := do
  if let some state := state then box.engine.loadState story state
  box.engine.continueStory story

/-- Continues the story of a new session.  A session whose story cannot be continued is
ended. -/
def play (id : String) (state : Option String) : Act (Server ε) Continuation :=
  Act.orElseDo (withStory id (box.resume state))
    (do let _ ← Registry.endSession box.engine id)

/-- Starts a session and continues its story, from a saved state if one is given.  A new
story under an id that was used before has no debug record. -/
def startFrom (openStory : Act (Stage ε) StoryId) (id : Option String) (source : String)
    (state : Option String) : Act (Server ε) (String × Continuation) := do
  let id ← Registry.create box.engine (Server.onStage openStory) id source
  if box.traceLimit.isSome then
    let _ ← Debug.stop id
  return (id, ← box.play id state)

/-- Takes a choice that must be on offer, and continues or only looks at what comes. -/
def choose (choice : Int) (continues : Bool) (story : StoryId) : Act (Stage ε) Continuation := do
  let choices ← box.engine.choices story
  if choice < 0 ∨ choice ≥ choices.length then throw (.choiceIndex choice choices.length)
  box.engine.choose story choice
  if continues then box.engine.continueStory story
  else
    let canContinue ← box.engine.canContinue story
    return { text := .str "", canContinue, choices := ← box.engine.choices story }

/-- A compilation as an object; what is empty is left out. -/
def compilationJson (c : Compilation) : Json :=
  .obj <| [("success", .bool c.success)]
    ++ (if c.json = .null then [] else [("json", c.json)])
    ++ (if c.errors.isEmpty then [] else [("errors", .arr c.errors)])
    ++ (if c.warnings.isEmpty then [] else [("warnings", .arr c.warnings)])

/-! ## Ink by a model -/

/-- An action of the author. -/
def asAuthor (act : Author.Settings → Act Author.Work String) : Act (Server ε) String :=
  match box.author with
  | some settings => Server.onAuthor (act settings)
  | none => throw .chatUnreached

/-- Has ink written and says whether it compiles. -/
def generate (prompt : String) : Act (Server ε) Json := do
  let source ← box.asAuthor fun s => Author.generate s prompt
  let (compiles, errors) ← match ← Act.caught (Server.onStage (box.engine.compile source)) with
    | .ok c => pure (c.success, c.errors)
    | .error f =>
      Server.note s!"[inky] compiling generated ink failed: {f.report}"
      pure (false, [.str f.report])
  return .obj <| [("ink_source", .str source), ("compiles", .bool compiles)]
    ++ (if errors.isEmpty then [] else [("compile_errors", .arr errors)])

/-- Has ink written and starts it, if it compiles. -/
def generateAndPlay (prompt : String) : Act (Server ε) Json := do
  let source ← box.asAuthor fun s => Author.generate s prompt
  let c ← Server.onStage (box.engine.compile source)
  if !c.success then
    return .obj [("stage", .str "compile_failed"), ("ink_source", .str source),
      ("errors", .arr c.errors)]
  let (id, told) ← box.startFrom (box.engine.openSource source) none source none
  return .obj <| [("stage", .str "playing"), ("ink_source", .str source)]
    ++ (match told.toJson id with
      | .obj fields => fields
      | _ => [])

/-! ## Requests -/

/-- Does what a request asks. -/
def answer : Request → Act (Server ε) Json
  | .compileInk source => return compilationJson (← Server.onStage (box.engine.compile source))
  | .startStory source id => do
    let (id, told) ← box.startFrom (box.engine.openSource source) id source none
    return told.toJson id
  | .startStoryJson json id state => do
    let (id, told) ← box.startFrom (box.engine.openCompiled json) id "" state
    return told.toJson id
  | .choose id choice continues => do
    return (← withStory id (box.choose choice continues)).toJson id
  | .continueStory id => return (← withStory id box.engine.continueStory).toJson id
  | .getVariable id name => do
    let v ← withStory id fun story => box.engine.getVariable story name
    return .obj [("name", .str name), ("value", v)]
  | .setVariable id name v => do
    withStory id fun story => box.engine.setVariable story name v
    return .obj [("ok", .bool true), ("name", .str name)]
  | .saveState id => do
    let state ← withStory id box.engine.saveState
    Registry.keepState id state
    return .obj [("session_id", .str id), ("state_json", state)]
  | .loadState id state => do
    withStory id fun story => box.engine.loadState story state
    return .obj [("ok", .bool true), ("session_id", .str id)]
  | .resetStory id => do
    let told ← withStory id fun story => do
      box.engine.reset story
      box.engine.continueStory story
    return told.toJson id
  | .evaluateFunction id function arguments => do
    let v ← withStory id fun story => box.engine.evaluate story function arguments
    return .obj [("function", .str function), ("result", ← Act.ofExcept v.written)]
  | .getGlobalTags id => return .obj [("tags", .arr (← withStory id box.engine.globalTags))]
  | .listSessions => return .obj [("sessions", .texts (← Registry.ids))]
  | .endSession id => do
    let ended ← Registry.endSession box.engine id
    return .obj [("ok", .bool true), ("session_id", .str id), ("ended", .bool ended)]
  | .bidify text => return .obj [("result", ← Server.onStage (box.engine.bidify text))]
  | .stripBidi text => return .obj [("result", ← Server.onStage (box.engine.stripBidi text))]
  | .bidifyJson json => return .obj [("result", ← Server.onStage (box.engine.bidifyCompiled json))]
  | .startDebug id => Debug.start (box.traceLimit.getD Debug.defaultLimit) id
  | .addBreakpoint id type target => return (← Debug.addBreakpoint id type target).toJson
  | .removeBreakpoint id breakpoint => do
    let removed ← Debug.removeBreakpoint id breakpoint
    return .obj [("ok", .bool removed), ("breakpoint_id", .str breakpoint)]
  | .listBreakpoints id => do
    return .obj [("breakpoints", .arr ((← Debug.breakpoints id).map Debug.Breakpoint.toJson))]
  | .debugStep id => return (← Debug.step box.engine id).toJson
  | .debugContinue id most => return (← Debug.continueFor box.engine id most).toJson
  | .addWatch id name => do
    let w ← Debug.addWatch box.engine id name
    return .obj [("variable", .str w.name), ("current_value", w.last)]
  | .removeWatch id name => do
    let removed ← Debug.removeWatch id name
    return .obj [("ok", .bool removed), ("variable", .str name)]
  | .debugInspect id => Debug.inspect box.engine id
  | .debugTrace id n => return .obj [("trace", ← Debug.trace id n)]
  | .endDebug id => do
    let ended ← Debug.stop id
    return .obj [("ok", .bool ended), ("session_id", .str id)]
  | .llmChat message => return .obj [("response", .str (← box.asAuthor (Author.chat · message)))]
  | .generateInk prompt => box.generate prompt
  | .reviewInk source => return .obj [("review", .str (← box.asAuthor (Author.review · source)))]
  | .translateInkHebrew source => do
    return .obj [("translated_ink", .str (← box.asAuthor (Author.translate · source)))]
  | .generateCompilePlay prompt => box.generateAndPlay prompt
  | .modelInfo =>
    match box.author with
    | some settings => return Author.modelInfo settings (← get).author
    | none => throw .chatUnreached

/-! ## Calls -/

/-- The text of an object that answers a call. -/
def resultText (v : Json) : Except Fault String := writeJson .spaced v

/-- The arguments of a call.  What counts as false stands for none. -/
def argumentsOf (arguments : Json) : Json := if arguments.truthy then arguments else .obj []

/-- The answer of a tool, as a text or a fault. -/
def perform (tool : Tool) (arguments : Json) : Act (Server ε) String := do
  let request ← Act.ofExcept (Request.ofJson (argumentsOf arguments) tool)
  Act.ofExcept (resultText (← box.answer request))

/-- A call of a tool by name. -/
def call (name : String) (arguments : Json) : Act (Server ε) ToolResult := do
  match box.find? name with
  | none => return { text := s!"Unknown tool: {name}", isError := true }
  | some tool =>
    match ← Act.caught (box.perform tool arguments) with
    | .ok text => return { text, isError := false }
    | .error f =>
      Server.note s!"[inky] tool {name} failed: {f.report}"
      return { text := f.report, isError := true }

end Toolbox

/-! ## What a call comes to

A tool that ends makes a result, be it of a fault; a tool that never ends makes none.  All that a
call adds to what the tool does is a line in the log. -/

/-- The result that a text or a fault makes. -/
def ToolResult.made : Except Fault String → Except Fault ToolResult
  | .ok text => .ok { text, isError := false }
  | .error .endless => .error .endless
  | .error f => .ok { text := f.report, isError := true }

theorem ToolResult.made_eq_endless {r : Except Fault String} :
    made r = .error .endless ↔ r = .error .endless := by
  cases r with
  | ok text => simp [made]
  | error f => cases f <;> simp [made]

/-- A tool that ends makes a result, which says whether the tool failed. -/
theorem ToolResult.made_of_ends {r : Except Fault String} (h : r ≠ .error .endless) :
    ∃ result, made r = .ok result ∧ (result.isError = true ↔ ∃ f, r = .error f) := by
  cases r with
  | ok text => exact ⟨_, rfl, by simp⟩
  | error f => cases f <;> first | exact absurd rfl h | exact ⟨_, rfl, by simp⟩

/-- The result of a fault says what the fault is. -/
theorem ToolResult.made_text {f : Fault} {result : ToolResult}
    (h : made (.error f) = .ok result) : result.text = f.report ∧ result.isError = true := by
  cases f <;> first | exact ⟨(Except.ok.inj h) ▸ rfl, (Except.ok.inj h) ▸ rfl⟩ | cases h

namespace Toolbox

variable {ε : Type} (box : Toolbox ε) {name : String} {arguments : Json} {tool : Tool}

theorem perform_refused {f : Fault} (h : Request.ofJson (argumentsOf arguments) tool = .error f)
    (s : Server ε) : (box.perform tool arguments).on s = (.error f, s) := by
  rw [perform, h]
  exact Act.on_bind_of_error (Act.on_ofExcept _ s)

/-- A tool whose arguments are read does what the request asks. -/
theorem perform_read {r : Request} (h : Request.ofJson (argumentsOf arguments) tool = .ok r)
    (s : Server ε) : (box.perform tool arguments).on s =
      (((box.answer r).on s).1.bind resultText, ((box.answer r).on s).2) := by
  rw [perform, h, Act.on_bind_of_ok (Act.on_ofExcept _ s), Act.on_bind]
  generalize (box.answer r).on s = run
  obtain ⟨res, t⟩ := run
  cases res with
  | error f => rfl
  | ok v => exact Act.on_ofExcept _ t

theorem call_unknown (h : box.find? name = none) (s : Server ε) : (box.call name arguments).on s =
    (.ok { text := s!"Unknown tool: {name}", isError := true }, s) := by
  rw [call, h]
  rfl

/-- A call makes a result of what its tool answers, and leaves what the tool leaves but for the
log. -/
theorem call_known (h : box.find? name = some tool) (s : Server ε) :
    ∃ log, (box.call name arguments).on s =
      (ToolResult.made ((box.perform tool arguments).on s).1,
        ((box.perform tool arguments).on s).2.logging log) := by
  rw [call, h]
  dsimp only
  by_cases hends : ((box.perform tool arguments).on s).1 = .error .endless
  · rw [Act.on_bind_of_error (Act.on_caught_of_endless hends), hends]
    exact ⟨_, rfl⟩
  · rw [Act.on_bind_of_ok (Act.on_caught_of_ends hends)]
    cases hres : ((box.perform tool arguments).on s).1 with
    | ok text => exact ⟨_, rfl⟩
    | error f =>
        refine ⟨s!"[inky] tool {name} failed: {f.report}" ::
          ((box.perform tool arguments).on s).2.stage.log, ?_⟩
        cases f <;> first | exact absurd hres hends | rfl

end Toolbox

end StoryServer
