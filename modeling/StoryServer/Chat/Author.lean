import StoryServer.Chat.Endpoint
import StoryServer.Chat.Fence
import StoryServer.Story.Engine

/-!
# Help from a model

Completions of a chat endpoint, and the requests to write, review and translate ink that
are built on them.  A request that is refused because of too many requests is made again
after a wait that doubles each time and is never shorter than the endpoint asks for; any
other refusal, and the last one, is the answer.  A wait that cannot be made is a fault, and
then no request is made again.
-/

namespace StoryServer

namespace Author

/-! ## Settings -/

/-- How the endpoint is reached and used. -/
structure Settings where
  model : String
  /-- The address of the endpoint, when it is not the usual one. -/
  address : Option String
  key : Option String
  /-- The most tokens of an answer. -/
  maxTokens : Json
  /-- How often a request is made again. -/
  retries : Int
  firstWait : Binary64
  deriving DecidableEq, Repr

/-- The model that is used when none is named. -/
def defaultModel : String := "gpt-4o-mini"

/-- The key for an endpoint that takes any. -/
def localKey : String := "lm-studio"

/-- The address of the usual endpoint. -/
def usualAddress : String := "https://api.openai.com/v1"

/-- A text that is given and not empty. -/
def nonEmpty (s : Option String) : Option String := s.filter fun s => !s.isEmpty

/-- What is asked for beside the environment. -/
structure Wish where
  model : Option String := none
  address : Option String := none
  key : Option String := none
  /-- The most tokens of an answer. -/
  maxTokens : Json := .int 4096

/-- The settings for a wish, from an environment. -/
def Settings.ofEnvironment (env : String → Option String) (w : Wish) : Except Fault Settings := do
  let read {α : Type} (r : Except NumberDefect α) : Except Fault α := r.mapError Fault.number
  let retries ← read (Number.readInteger ((env "INKY_LLM_MAX_RETRIES").getD "3"))
  let firstWait ← read (Number.readDouble ((env "INKY_LLM_RETRY_BASE_DELAY").getD "2.0"))
  return { model := (nonEmpty w.model).getD ((env "INKY_LLM_MODEL").getD defaultModel)
           address := (nonEmpty w.address).or (nonEmpty (env "INKY_LLM_BASE_URL"))
           key := (nonEmpty w.key).or (nonEmpty (env "OPENAI_API_KEY"))
           maxTokens := w.maxTokens, retries, firstWait }

/-- The settings of an environment that names a key or an address. -/
def Settings.configured? (env : String → Option String) : Except Fault (Option Settings) :=
  if (nonEmpty (env "OPENAI_API_KEY")).isSome || (nonEmpty (env "INKY_LLM_BASE_URL")).isSome then
    some <$> Settings.ofEnvironment env {}
  else .ok none

/-! ## State -/

/-- How waits are made. -/
inductive Waiting where
  /-- They are only written down, so that each of them can be made. -/
  | noted
  /-- By a clock that counts nanoseconds in 64 bits. -/
  | counted
  deriving DecidableEq, Repr

/-- The first double whose nanoseconds need more than 63 bits, about 292 years. -/
def Waiting.bound : Binary64 := .finite false ⟨1056, by decide⟩ ⟨332103651088021, by decide⟩

/-- Why a wait cannot be made, if it cannot. -/
def Waiting.defect? : Waiting → Binary64 → Option WaitDefect
  | .noted, _ => none
  | .counted, x =>
    if x = .nan then some .notANumber
    else if x.blt bound.neg || !x.blt bound then some .outOfRange
    else if x.blt (.zero false) then some .negative
    else none

/-- The endpoint, how it is waited for, and the tokens used by the latest completion. -/
structure State (δ : Type := Binary64) where
  endpoint : ChatEndpoint δ
  waiting : Waiting := .noted
  /-- The tokens of the latest prompt and completion. -/
  usage : Int × Int := (0, 0)
  deriving DecidableEq, Repr

/-- An author at work: the state and the log. -/
abbrev Work (δ : Type := Binary64) := Stage (State δ)

section Waiting

variable {δ : Type}

/-- Something asked of the endpoint. -/
def record (event : ChatEvent) : Act (Work δ) Unit :=
  Stage.inEngine (modify fun s => { s with endpoint := s.endpoint.record event })

def request (settings : Settings) (messages : List ChatMessage) : Act (Work δ) ChatAnswer := do
  record (.request settings.maxTokens messages settings.model)
  let (answer, endpoint) := (← get).engine.endpoint.next
  Stage.inEngine (modify fun s => { s with endpoint })
  return answer

/-! ## Waits -/

/-- How waits are reckoned. -/
structure Pace (δ : Type) where
  /-- The first wait, doubled after every attempt. -/
  doubled : Binary64 → Nat → Except Fault δ
  /-- The wait that a text says, if it says one. -/
  read : String → Option δ
  isShorter : δ → δ → Bool
  /-- Why a wait cannot be made, if it cannot. -/
  defect? : Waiting → δ → Option WaitDefect
  /-- A wait as the log has it. -/
  shown : δ → String

/-- Waits are doubles. -/
def Pace.doubles : Pace Binary64 where
  doubled first attempt := do return first.mul (← toDouble (Nat.pow 2 attempt))
  read text := (Number.readDouble text).toOption
  isShorter := Binary64.blt
  defect? := Waiting.defect?
  shown x := x.fixed 1

/-- The wait after an attempt: the doubled first wait, or what the endpoint asks for when
that is longer. -/
def Pace.after (pace : Pace δ) (first : Binary64) (attempt : Nat) (header : Option String) :
    Except Fault δ := do
  let own ← pace.doubled first attempt
  match (nonEmpty header).bind pace.read with
  | some asked => return if pace.isShorter own asked then asked else own
  | none => return own

/-- Waits for so long. -/
def wait (pace : Pace δ) (seconds : δ) : Act (Work δ) Unit :=
  Stage.inEngine do
    if let some d := pace.defect? (← get).waiting seconds then throw (.wait d)
    modify fun s => { s with
      endpoint := { s.endpoint with waits := seconds :: s.endpoint.waits } }

/-! ## Completions -/

/-- The text of a completion, whose usage is kept. -/
def take (texts : List (Option String)) (usage : Option (Int × Int)) : Act (Work δ) String := do
  if let some usage := usage then
    Stage.inEngine (modify fun s => { s with usage })
  match texts with
  | [] => throw .noElement
  | text :: _ => return text.getD ""

/-- The attempts that are left, from the number of the next one. -/
def attempts (pace : Pace δ) (settings : Settings) (messages : List ChatMessage) :
    Nat → Nat → Act (Work δ) String
  | 0, _ => throw .chatUnreached
  | left + 1, attempt => do
    match ← request settings messages with
    | .completion texts usage => take texts usage
    | .failed message => throw (.chatFailed message)
    | .status code message header =>
      if code ≠ 429 ∨ left = 0 then throw (.chatStatus code message)
      else
        let seconds ← Act.ofExcept (pace.after settings.firstWait attempt header)
        Stage.note <| s!"[inky-llm] Rate limited (attempt {attempt + 1}/{settings.retries}), "
          ++ s!"retrying in {pace.shown seconds}s..."
        wait pace seconds
        attempts pace settings messages left (attempt + 1)

/-- The conversation of a request: an instruction, unless it is empty, and the data. -/
def conversation (instruction data : String) : List ChatMessage :=
  (if instruction.isEmpty then [] else [⟨"system", instruction⟩])
    ++ [⟨"user", if data.isEmpty then "(no data provided)" else data⟩]

/-- The connection with the endpoint.  An endpoint that is not the usual one takes any key. -/
def Settings.connection (settings : Settings) : ChatEvent :=
  .connect settings.address
    (if settings.address.isSome then some (settings.key.getD localKey) else settings.key)

/-- One completion at a pace: an instruction, and the data that it is about. -/
def completeAt (pace : Pace δ) (settings : Settings) (instruction data : String) :
    Act (Work δ) String := do
  record settings.connection
  attempts pace settings (conversation instruction data) (settings.retries + 1).toNat 0

end Waiting

/-- One completion. -/
def complete (settings : Settings) (instruction data : String) : Act Work String :=
  completeAt .doubles settings instruction data

/-! ## Requests -/

def writingInstruction : String :=
  "You are an expert ink (inkle's ink) script writer.\n"
    ++ "Generate valid ink syntax. Use knots (===), stitches (=), choices (*, +),\n"
    ++ "diverts (->), variables (VAR), conditionals, and other ink features.\n"
    ++ "Every branch must end in a divert or -> END.\n"
    ++ "Only output the ink code, no explanations."

def reviewInstruction : String :=
  "You are an expert ink (inkle's ink) script reviewer.\n"
    ++ "Analyze for: syntax errors, dead ends, missing diverts, unused knots, RTL/bidi issues.\n"
    ++ "Provide specific, actionable feedback."

def translationInstruction : String :=
  "You are a Hebrew translator for interactive fiction.\n"
    ++ "Translate only the story text to Hebrew. Keep all ink syntax (knots, stitches,\n"
    ++ "choices, diverts, variables, tags, logic) unchanged.\n"
    ++ "Preserve the ink structure exactly. Only output the translated ink code."

/-- An answer to a message. -/
def chat (settings : Settings) (message : String) : Act Work String :=
  complete settings "" message

def generate (settings : Settings) (prompt : String) : Act Work String :=
  Fence.extract <$> complete settings writingInstruction s!"User request: {prompt}"

def review (settings : Settings) (source : String) : Act Work String :=
  complete settings reviewInstruction s!"Ink code to review:\n{source}"

/-- Ink with its texts in Hebrew. -/
def translate (settings : Settings) (source : String) : Act Work String :=
  Fence.extract <$> complete settings translationInstruction s!"Ink source:\n{source}"

/-- What is known of the model. -/
def modelInfo (settings : Settings) (s : State) : Json :=
  .obj [("model", .str settings.model),
    ("base_url", .str (settings.address.getD usualAddress)),
    ("provider", .str (if settings.address.isSome then "openai-compatible" else "openai")),
    ("max_tokens", settings.maxTokens),
    ("last_usage", .obj [("prompt_tokens", .int s.usage.1), ("completion_tokens", .int s.usage.2)])]

end Author

end StoryServer
