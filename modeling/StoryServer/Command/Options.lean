import StoryServer.Fault
import StoryServer.Text.Blank
import StoryServer.Text.Digit

/-!
# Options of the command line

An option is named in full, or by any beginning of its name that no other option has.
Its value is the next word, or follows an equals sign.  Words after `--` are no options,
and a word that is left over is refused.

`Words.scan` tells what each word is, and refuses an ambiguous name wherever it stands.
`Options.apply` then takes the words in order.  What is not set by a word is set by the
environment, and what is not set there has a default.
-/

namespace StoryServer

/-! ## The options -/

/-- The options by name. -/
inductive Flag where
  | help
  | transport
  /-- The address of the service over HTTP. -/
  | host
  /-- The port of the service over HTTP. -/
  | port
  /-- The program that runs story processes. -/
  | node
  | inkjs
  /-- The module that marks texts for right-to-left display. -/
  | bidify
  | noDebug
  | noLlm
  deriving DecidableEq, Repr

namespace Flag

/-- The names of an option. -/
def names : Flag → List String
  | .help => ["-h", "--help"]
  | .transport => ["--transport"]
  | .host => ["--host"]
  | .port => ["--port"]
  | .node => ["--node"]
  | .inkjs => ["--inkjs"]
  | .bidify => ["--bidify"]
  | .noDebug => ["--no-debug"]
  | .noLlm => ["--no-llm"]

def shown (f : Flag) : String := "/".intercalate f.names

/-- Whether an option has a value. -/
def takesValue : Flag → Bool
  | .help | .noDebug | .noLlm => false
  | _ => true

def all : List Flag :=
  [.help, .transport, .host, .port, .node, .inkjs, .bidify, .noDebug, .noLlm]

def named : List (String × Flag) := all.flatMap fun f => f.names.map fun name => (name, f)

/-- The option with a name. -/
def ofName? (name : String) : Option Flag := (named.find? fun p => p.1 == name).map (·.2)

/-- The options whose names have a beginning. -/
def beginning (start : String) : List (String × Flag) :=
  named.filter fun p => Text.startsWith start.toList p.1.toList

end Flag

/-! ## Refusals -/

/-- Why a command line is refused. -/
inductive UsageError where
  /-- The beginning of a name is that of several options. -/
  | ambiguous (word : String) (names : List String)
  | noValue (f : Flag)
  /-- An option that has no value is given one. -/
  | extraValue (f : Flag) (value : String)
  /-- A value is no whole number. -/
  | notInteger (f : Flag) (value : String)
  /-- A value is none of those to choose from. -/
  | notChoice (f : Flag) (value : String) (choices : List String)
  | leftOver (words : List String)
  deriving DecidableEq, Repr

/-- What is said of a refused command line. -/
def UsageError.message : UsageError → String
  | .ambiguous word names => s!"ambiguous option: {word} could match " ++ ", ".intercalate names
  | .noValue f => s!"argument {f.shown}: expected one argument"
  | .extraValue f value => s!"argument {f.shown}: ignored explicit argument " ++ Text.quoted value
  | .notInteger f value => s!"argument {f.shown}: invalid int value: " ++ Text.quoted value
  | .notChoice f value choices =>
    s!"argument {f.shown}: invalid choice: " ++ Text.quoted value
      ++ " (choose from " ++ ", ".intercalate (choices.map Text.quoted) ++ ")"
  | .leftOver words => "unrecognized arguments: " ++ " ".intercalate words

/-- Why a command line does not lead to a run. -/
inductive Halt where
  | help
  | refused (e : UsageError)
  deriving DecidableEq, Repr

/-! ## Words -/

/-- A word of the command line. -/
inductive Word where
  /-- A value, or a word that is left over. -/
  | plain (text : String)
  | stop
  /-- An option, and the value in the same word. -/
  | option (f : Flag) (value : Option String)
  /-- A short option with what follows its letter in the same word. -/
  | short (rest : String)
  /-- An option that does not exist. -/
  | unknown (text : String)
  deriving DecidableEq, Repr

namespace Words

/-- A word at its first equals sign. -/
def atEquals (s : String) : String × Option String :=
  let name := s.toList.takeWhile (· != '=')
  (String.ofList name,
    if name.length < s.length then some (String.ofList (s.toList.drop (name.length + 1))) else none)

/-- The option that a word names in full, and the value in the same word. -/
def inFull? (s : String) : Option Word :=
  match Flag.ofName? s with
  | some f => some (.option f none)
  | none =>
    match atEquals s with
    | (name, some value) => (Flag.ofName? name).map fun f => .option f (some value)
    | (_, none) => none

/-- Whether a word is a negative number, a line end after it apart. -/
def isNegativeNumber (s : List Char) : Bool :=
  let isDigit (c : Char) : Bool := isDecimalDigit c.toNat
  match if s.getLast? = some '\n' then s.dropLast else s with
  | '-' :: rest =>
    match rest.dropWhile isDigit with
    | [] => !rest.isEmpty
    | '.' :: places => !places.isEmpty && places.all isDigit
    | _ => false
  | _ => false

/-- A word that begins with a hyphen and names no option: a value if it looks like a
negative number or has blanks. -/
def unnamed (s : String) : Word :=
  if isNegativeNumber s.toList || s.toList.contains ' ' then .plain s else .unknown s

/-- A word that begins with two hyphens and has the beginning of a name. -/
def abbreviated (s : String) : Except UsageError Word :=
  let (start, value) := atEquals s
  match Flag.beginning start with
  | [] => .ok (unnamed s)
  | [(_, f)] => .ok (.option f value)
  | several => .error (.ambiguous s (several.map (·.1)))

def read (s : String) : Except UsageError Word :=
  match s.toList with
  | '-' :: c :: rest =>
    match inFull? s with
    | some w => .ok w
    | none =>
      if c = '-' then abbreviated s
      else if c = 'h' then .ok (.short (String.ofList rest))
      else .ok (unnamed s)
  | _ => .ok (.plain s)

def scan : List String → Except UsageError (List Word)
  | [] => .ok []
  | s :: rest =>
    if s = "--" then .ok (.stop :: rest.map .plain)
    else do
      let w ← read s
      return w :: (← scan rest)

/-- What the short option for help leads to, by what follows its letter in the same word:
the same letter may follow, and another letter is passed over. -/
def helpThen : List Char → Halt
  | [] => .refused (.extraValue .help "")
  | ['h'] => .help
  | 'h' :: '=' :: value => .refused (.extraValue .help (String.ofList value))
  | 'h' :: rest => helpThen rest
  | '-' :: rest => .refused (.extraValue .help (String.ofList ('-' :: rest)))
  | _ => .help

end Words

/-! ## Options -/

/-- An environment: the values of its variables. -/
abbrev Environment := String → Option String

/-- The options of a run. -/
structure Options where
  transport : String := "sse"
  /-- The address of the service over HTTP. -/
  host : String := "127.0.0.1"
  /-- The port of the service over HTTP. -/
  port : Int := 3001
  /-- The program that runs story processes. -/
  program : String := "node"
  module : String := "inkjs/full"
  /-- The module that marks texts for right-to-left display. -/
  bidify : Option String := none
  noDebug : Bool := false
  /-- Whether there is no help from a model. -/
  noAuthor : Bool := false
  deriving DecidableEq, Repr

namespace Options

/-- The ways messages can be taken. -/
def transports : List String := ["sse", "stdio"]

/-- Whether a variable is set to a word for yes. -/
def isSet (env : Environment) (name : String) : Bool :=
  ["1", "true", "yes", "on"].contains ((Text.trim ((env name).getD "")).map Char.toLower)

/-- The options that an environment sets. -/
def ofEnvironment (env : Environment) : Except Fault Options := do
  let usual : Options := {}
  let port ← match env "INKY_PORT" with
    | some s => (Number.readInteger s).mapError Fault.number
    | none => pure usual.port
  return { transport := (env "INKY_TRANSPORT").getD usual.transport
           host := (env "INKY_HOST").getD usual.host
           port
           program := (env "INKY_NODE").getD usual.program
           module := (env "INKY_INKJS_MODULE").getD usual.module
           bidify := (env "INKY_BIDIFY_PATH").filter fun s => !s.isEmpty
           noDebug := isSet env "INKY_DISABLE_DEBUG" }

/-- The options with one of them set.  Only an option without a value is set without
one. -/
def put (o : Options) (f : Flag) (value : String) : Except Halt Options :=
  match f with
  | .help => .error .help
  | .transport =>
    if transports.contains value then .ok { o with transport := value }
    else .error (.refused (.notChoice f value transports))
  | .host => .ok { o with host := value }
  | .port =>
    match Number.readInteger value with
    | .ok port => .ok { o with port }
    | .error _ => .error (.refused (.notInteger f value))
  | .node => .ok { o with program := value }
  | .inkjs => .ok { o with module := value }
  | .bidify => .ok { o with bidify := some value }
  | .noDebug => .ok { o with noDebug := true }
  | .noLlm => .ok { o with noAuthor := true }

/-- The options after words, and the words that are left over. -/
def apply (o : Options) : List Word → Except Halt (Options × List String)
  | [] => .ok (o, [])
  | .plain s :: rest | .unknown s :: rest => do
    let (o, left) ← apply o rest
    return (o, s :: left)
  | .stop :: rest => do
    let (o, left) ← apply o rest
    return (o, "--" :: left)
  | .short s :: _ => .error (Words.helpThen s.toList)
  | .option f (some value) :: rest =>
    if f.takesValue then do apply (← o.put f value) rest
    else .error (.refused (.extraValue f value))
  | .option f none :: rest =>
    if f.takesValue then
      match rest with
      | .plain value :: rest => do apply (← o.put f value) rest
      | _ => .error (.refused (.noValue f))
    else do apply (← o.put f "") rest

/-- The options of a command line, over those that the environment sets. -/
def ofWords (o : Options) (words : List String) : Except Halt Options := do
  let words ← (Words.scan words).mapError Halt.refused
  let (o, left) ← apply o words
  if left.isEmpty then return o else throw (.refused (.leftOver left))

end Options

end StoryServer
