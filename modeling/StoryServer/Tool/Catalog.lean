import StoryServer.Json.Basic

/-!
# The catalog of tools

The tools a client can call, with what is advertised of each: its name, a description,
and a schema of its arguments.  A tool belongs to a group, and a server offers the groups
that it is set up for, always in the same order.
-/

namespace StoryServer

/-- The groups of tools. -/
inductive ToolGroup where
  | ink
  | bidi
  | debug
  | author
  deriving DecidableEq, Repr

/-- The tools. -/
inductive Tool where
  | compileInk
  /-- Starts a story from its source. -/
  | startStory
  | startStoryJson
  | choose
  | continueStory
  | getVariable
  | setVariable
  /-- Saves the state of a story. -/
  | saveState
  /-- Restores the state of a story. -/
  | loadState
  | resetStory
  /-- Calls a function of a story. -/
  | evaluateFunction
  /-- Reads the tags at the top. -/
  | getGlobalTags
  | listSessions
  | endSession
  | bidify
  /-- Removes the marks from a text. -/
  | stripBidi
  /-- Marks the texts of a compiled story. -/
  | bidifyJson
  | startDebug
  | addBreakpoint
  | removeBreakpoint
  | listBreakpoints
  | debugStep
  | debugContinue
  | addWatch
  | removeWatch
  | debugInspect
  | debugTrace
  | endDebug
  | llmChat
  | generateInk
  | reviewInk
  | translateInkHebrew
  /-- Has ink written and starts it. -/
  | generateCompilePlay
  | modelInfo
  deriving DecidableEq, Repr

/-- A property of a schema. -/
structure Property where
  name : String
  /-- The type it is declared with, if any. -/
  type : Option String
  description : String
  /-- The values it can have, when they are listed. -/
  options : List String := []
  deriving DecidableEq, Repr

namespace Property

/-- A property as a member of a schema. -/
def toJson (p : Property) : String × Json :=
  (p.name, .obj <|
    (match p.type with
      | some t => [("type", .str t)]
      | none => [])
    ++ (if p.options.isEmpty then [] else [("enum", .texts p.options)])
    ++ [("description", .str p.description)])

def text (name description : String) : Property := ⟨name, some "string", description, []⟩

def integer (name description : String) : Property := ⟨name, some "integer", description, []⟩

/-- The id of a session. -/
def session : Property := text "session_id" "Story session ID"

end Property

/-- What is advertised of a tool. -/
structure ToolCard where
  name : String
  description : String
  properties : List Property := []
  /-- The arguments that must be given. -/
  required : List String := []
  deriving DecidableEq, Repr

/-- A card as an object. -/
def ToolCard.toJson (c : ToolCard) : Json :=
  .obj [("name", .str c.name), ("description", .str c.description),
    ("inputSchema", .obj <|
      [("type", .str "object"), ("properties", .obj (c.properties.map Property.toJson))]
      ++ (if c.required.isEmpty then [] else [("required", .texts c.required)]))]

namespace Tool

open Property (text integer session)

/-- A card of a tool whose only argument is a session. -/
def sessionCard (name description : String) : ToolCard :=
  ⟨name, description, [session], ["session_id"]⟩

/-- The card of a tool. -/
def card : Tool → ToolCard
  | .compileInk =>
    ⟨"compile_ink", "Compile ink source code to JSON. Returns compiled JSON or error messages.",
      [text "source" "Ink source code"], ["source"]⟩
  | .startStory =>
    ⟨"start_story",
      "Compile ink source and start an interactive story session. "
        ++ "Returns session ID, initial text, and available choices.",
      [text "source" "Ink source code",
        text "session_id" "Optional session ID (generated if omitted)"], ["source"]⟩
  | .startStoryJson =>
    ⟨"start_story_json",
      "Start an interactive story session from pre-compiled JSON, "
        ++ "optionally restoring a saved state.",
      [text "json" "Compiled ink JSON",
        text "session_id" "Optional session ID (generated if omitted)",
        text "state_json" "Optional saved state to restore"], ["json"]⟩
  | .choose =>
    ⟨"choose",
      "Make a choice in an active story session. Returns subsequent text and new choices.",
      [session, integer "choice_index" "Index of the choice (0-based)",
        ⟨"auto_continue", some "boolean",
          "Continue to the next choice point (default: true). "
            ++ "Set false to step the branch with debug_step.", []⟩],
      ["session_id", "choice_index"]⟩
  | .continueStory =>
    sessionCard "continue_story" "Continue reading the story text in an active session."
  | .getVariable =>
    ⟨"get_variable", "Get the value of an ink variable in the story.",
      [session, text "name" "Variable name"], ["session_id", "name"]⟩
  | .setVariable =>
    ⟨"set_variable", "Set the value of an ink variable in the story.",
      [session, text "name" "Variable name",
        ⟨"value", none, "New value (string, number, boolean or null)", []⟩],
      ["session_id", "name", "value"]⟩
  | .saveState =>
    sessionCard "save_state" "Save the current story state as JSON for later restoration."
  | .loadState =>
    ⟨"load_state", "Load a previously saved story state.",
      [session, text "state_json" "State JSON from save_state"], ["session_id", "state_json"]⟩
  | .resetStory => sessionCard "reset_story" "Reset the story to its beginning."
  | .evaluateFunction =>
    ⟨"evaluate_function", "Call an ink function defined in the story.",
      [session, text "function_name" "Ink function name",
        ⟨"args", some "array", "Function arguments", []⟩], ["session_id", "function_name"]⟩
  | .getGlobalTags =>
    sessionCard "get_global_tags" "Get the global tags defined at the top of the ink story."
  | .listSessions => ⟨"list_sessions", "List all active story sessions.", [], []⟩
  | .endSession => sessionCard "end_session" "End a story session and free its resources."
  | .bidify =>
    ⟨"bidify", "Add Unicode bidi markers (LRI/RLI/PDI) to text for proper RTL display.",
      [text "text" "Text to bidify"], ["text"]⟩
  | .stripBidi =>
    ⟨"strip_bidi", "Remove Unicode bidi markers from text.",
      [text "text" "Text to clean"], ["text"]⟩
  | .bidifyJson =>
    ⟨"bidify_json", "Add bidi markers to story text strings in compiled ink JSON.",
      [text "json" "Compiled ink JSON"], ["json"]⟩
  | .startDebug =>
    sessionCard "start_debug"
      "Start debugging an existing story session. Adds breakpoints, watches, step execution."
  | .addBreakpoint =>
    ⟨"add_breakpoint",
      "Add a breakpoint. Types: 'knot' (break at knot), 'stitch' (break at stitch), "
        ++ "'pattern' (regex match on output), 'variable_change' (break when a watched "
        ++ "variable changes).",
      [session,
        ⟨"type", some "string", "Breakpoint type", ["knot", "stitch", "pattern", "variable_change"]⟩,
        text "target" "Knot/stitch name, regex pattern, or variable name"],
      ["session_id", "type", "target"]⟩
  | .removeBreakpoint =>
    ⟨"remove_breakpoint", "Remove a breakpoint by ID.",
      [session, text "breakpoint_id" "Breakpoint ID (e.g. bp_1)"],
      ["session_id", "breakpoint_id"]⟩
  | .listBreakpoints =>
    sessionCard "list_breakpoints" "List the breakpoints of a debug session."
  | .debugStep =>
    sessionCard "debug_step"
      "Step to the next line of story output, checking breakpoints and watching variables."
  | .debugContinue =>
    ⟨"debug_continue",
      "Continue execution until a breakpoint is hit, a choice is reached, or the story ends.",
      [session, integer "max_steps" "Maximum steps (default: 100)"], ["session_id"]⟩
  | .addWatch =>
    ⟨"add_watch", "Add an ink variable to the watch list. Changes are tracked between steps.",
      [session, text "variable" "Variable name"], ["session_id", "variable"]⟩
  | .removeWatch =>
    ⟨"remove_watch", "Remove a variable from the watch list.",
      [session, text "variable" "Variable name"], ["session_id", "variable"]⟩
  | .debugInspect =>
    sessionCard "debug_inspect"
      "Inspect the current debug state: step count, watches, breakpoints, recent visits."
  | .debugTrace =>
    ⟨"debug_trace", "Get the execution trace log (list of steps, text, and variable changes).",
      [session, integer "last_n" "Number of recent entries (default: 50)"], ["session_id"]⟩
  | .endDebug =>
    sessionCard "end_debug" "Stop debugging a session. The story session stays active."
  | .llmChat =>
    ⟨"llm_chat", "Send a chat message to the connected LLM.",
      [text "message" "Message to send"], ["message"]⟩
  | .generateInk =>
    ⟨"generate_ink",
      "Generate ink interactive fiction code from a natural language description.",
      [text "prompt" "Story description"], ["prompt"]⟩
  | .reviewInk =>
    ⟨"review_ink", "Review ink code for syntax errors, logic issues, and improvements.",
      [text "source" "Ink source code"], ["source"]⟩
  | .translateInkHebrew =>
    ⟨"translate_ink_hebrew", "Translate ink story text to Hebrew, preserving ink syntax.",
      [text "source" "Ink source code"], ["source"]⟩
  | .generateCompilePlay =>
    ⟨"generate_compile_play",
      "Full pipeline: generate ink from prompt, compile it, start a story session.",
      [text "prompt" "Story description"], ["prompt"]⟩
  | .modelInfo => ⟨"model_info", "Get information about the connected LLM model.", [], []⟩

/-- The name of a tool. -/
def name (t : Tool) : String := t.card.name

/-- The tools of a group, in order. -/
def ofGroup : ToolGroup → List Tool
  | .ink =>
    [.compileInk, .startStory, .startStoryJson, .choose, .continueStory, .getVariable,
      .setVariable, .saveState, .loadState, .resetStory, .evaluateFunction, .getGlobalTags,
      .listSessions, .endSession]
  | .bidi => [.bidify, .stripBidi, .bidifyJson]
  | .debug =>
    [.startDebug, .addBreakpoint, .removeBreakpoint, .listBreakpoints, .debugStep,
      .debugContinue, .addWatch, .removeWatch, .debugInspect, .debugTrace, .endDebug]
  | .author =>
    [.llmChat, .generateInk, .reviewInk, .translateInkHebrew, .generateCompilePlay, .modelInfo]

def groups : List ToolGroup := [.ink, .bidi, .debug, .author]

def all : List Tool := groups.flatMap ofGroup

theorem mem_all (t : Tool) : t ∈ all := by cases t <;> decide

theorem nodup_names : (all.map name).Nodup := by decide

end Tool

end StoryServer
