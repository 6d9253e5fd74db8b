import QueryPlans.CommandLine.Form

/-!
# The commands

* `Command` — the commands, with what each is about; `Command.form`.
* `Request` — a command with its arguments.
* `Told` — what the command line alone is answered with: help, the version, or how it is to be used.
* `readGroup`, `findCommand`, `Command.read` — the parts of a command line.
-/

namespace QueryPlans.CommandLine

/-- The commands. -/
inductive Command where
  | ask
  | chat
  | compile
  | schema
  deriving DecidableEq, Repr, Inhabited

/-- A command with its arguments. -/
inductive Request where
  | ask (table question : String)
  | chat (table : String)
  | compile (file : String)
  | schema (table : String)
  deriving DecidableEq, Repr, Inhabited

/-- An answer to the command line alone, and how the program ends. -/
structure Told where
  output : String
  exitCode : Nat
  deriving DecidableEq, Repr, Inhabited

/-- The word for the program in its own texts. -/
def programName : String := "cli"

def helpFlag : FlagForm := ⟨.help, none, "--help", "Show this message and exit."⟩

def group : Form :=
  { path := programName
    flags := [⟨.version, none, "--version", "Show the version and exit."⟩,
      ⟨.verbose, some 'v', "--verbose", "Emit application logs."⟩, helpFlag]
    endsAtWord := true }

namespace Command

/-- All commands by name, in order. -/
def options : List (String × Command) :=
  [("ask", ask), ("chat", chat), ("compile", compile), ("schema", schema)]

def name : Command → String
  | ask => "ask"
  | chat => "chat"
  | compile => "compile"
  | schema => "schema"

def arguments : Command → List String
  | ask => ["TABLE", "QUESTION"]
  | chat => ["TABLE"]
  | compile => ["PLAN_FILE"]
  | schema => ["TABLE"]

/-- What a command is about, in one sentence. -/
def brief : Command → String
  | ask => "Ask a single question about TABLE and exit."
  | chat => "Interactive REPL about TABLE."
  | compile => "Compile an AI response containing a JSON plan (use - for stdin)."
  | schema => "Show the schema context sent to the model for TABLE."

def about : Command → String
  | chat => brief chat ++ " Supports \"next page\" and \"previous page\"."
  | c => c.brief

def form (c : Command) : Form :=
  { path := programName ++ " " ++ c.name, flags := [helpFlag] }

end Command

/-! ## Texts -/

/-- Lines of two columns. -/
def columns (rows : List (String × String)) : String :=
  let width := (rows.map (·.1.length)).foldl max 0 + 2
  String.join (rows.map fun (left, right) =>
    "  " ++ left ++ String.ofList (List.replicate (width - left.length) ' ') ++ right ++ "\n")

/-- The line that shows how a command is used. -/
def Form.usage (f : Form) (rest : String) : String :=
  "Usage: " ++ f.path ++ " [OPTIONS] " ++ rest ++ "\n"

/-- Help: how a command is used, what it is about, and its flags. -/
def Form.help (f : Form) (rest about : String) : String :=
  f.usage rest ++ "\n  " ++ about ++ "\n\nOptions:\n" ++
    columns (f.flags.map fun flag => (flag.spelling, flag.about))

/-- What follows the flags of the whole program. -/
def groupRest : String := "COMMAND [ARGS]..."

def groupHelp : String :=
  group.help groupRest "QueryPilot - natural-language query plans compiled to PostgreSQL." ++
    "\nCommands:\n" ++ columns (Command.options.map fun (name, c) => (name, c.brief))

/-- What follows the flags of a command. -/
def Command.rest (c : Command) : String := Text.joined " " c.arguments

def Command.help (c : Command) : String := c.form.help c.rest c.about

def versionLine : String := "QueryPilot, version 0.1.0\n"

/-- The answer to a command line that breaks its form. -/
def Form.refuse (f : Form) (rest : String) (e : UsageError) : Told :=
  ⟨f.usage rest ++ "Try '" ++ f.path ++ " --help' for help.\n\nError: " ++ e.message ++ "\n", 2⟩

/-- The answer to what stands before the command. -/
def refuseGroup (e : UsageError) : Told := group.refuse groupRest e

/-- The answer to what stands behind a command. -/
def Command.refuse (c : Command) (e : UsageError) : Told := c.form.refuse c.rest e

/-- The answer to the first flag that asks for one. -/
def answerFlags (help : String) : List Flag → Except Told Unit
  | [] => .ok ()
  | .version :: _ => .error ⟨versionLine, 0⟩
  | .help :: _ => .error ⟨help, 0⟩
  | .verbose :: rest => answerFlags help rest

/-! ## Reading -/

/-- What stands before the command: whether the log is wanted, and the words that follow. Nothing at
all is answered with help. -/
def readGroup (words : List String) : Except Told (Bool × List String) :=
  if words = [] then .error ⟨groupHelp, 2⟩
  else do
    let (flags, rest) ← (group.split words).mapError refuseGroup
    answerFlags groupHelp flags
    return (flags.contains .verbose, rest)

/-- Commands that are similar to a word. -/
def similarCommands (word : String) : List String :=
  (Command.options.map (·.1)).filter fun known => Text.areSimilar known word

/-- The command that the first word names, and the words behind it. A word that names none may still
hold flags. -/
def findCommand : List String → Except Told (Command × List String)
  | [] => .error (refuseGroup .missingCommand)
  | word :: rest =>
    match Command.options.lookup word with
    | some c => .ok (c, rest)
    | none => do
      let _ ← readGroup (word :: rest)
      throw (refuseGroup (.noSuchCommand word (similarCommands word)))

/-- A command with its arguments, and the words that are left over. -/
def Request.ofWords? : Command → List String → Option (Request × List String)
  | .ask, table :: question :: extra => some (.ask table question, extra)
  | .chat, table :: extra => some (.chat table, extra)
  | .compile, file :: extra => some (.compile file, extra)
  | .schema, table :: extra => some (.schema table, extra)
  | _, _ => none

/-- The first argument that is missing behind so many words. -/
def Command.missing (c : Command) (given : Nat) : UsageError :=
  .missingArgument ((c.arguments[given]?).getD "")

/-- A command with its arguments, and the words that are left over. -/
def Command.read (c : Command) (words : List String) : Except Told (Request × List String) := do
  let (flags, words) ← (c.form.split words).mapError c.refuse
  answerFlags c.help flags
  match Request.ofWords? c words with
  | some r => return r
  | none => throw (c.refuse (c.missing words.length))

/-- No words may be left over. -/
def Command.finish (c : Command) (words : List String) : Except Told Unit :=
  (Form.noneLeft words).mapError c.refuse

/-- A command line asks for a chat. -/
def asksToChat (words : List String) : Bool :=
  match (readGroup words).bind fun g => findCommand g.2 with
  | .ok (c, _) => c == .chat
  | .error _ => false

/-- The answer to a file that cannot be read. -/
def refuseFile (file reason : String) : Told :=
  Command.compile.refuse (.unreadable Command.compile.rest file reason)

end QueryPlans.CommandLine
