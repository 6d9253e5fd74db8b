import QueryPlans.Text.Quoted
import QueryPlans.Text.Search
import QueryPlans.Text.Similar

/-!
# Forms of command lines

* `Form` — what a command line, or the part of it for one command, may hold: flags and arguments.
* `UsageError` — how a command line breaks its form.
* `Form.split` — the flags of a command line in order, and its other words.
* `Form.noneLeft` — the check that no words are left over.
-/

namespace QueryPlans.CommandLine

/-- What a flag asks for. -/
inductive Flag where
  | version
  | verbose
  | help
  deriving DecidableEq, Repr, Inhabited

/-- A flag with its spellings, and what it is for. -/
structure FlagForm where
  flag : Flag
  short : Option Char := none
  long : String
  about : String
  deriving Repr, Inhabited

def FlagForm.spelling (f : FlagForm) : String :=
  match f.short with
  | none => f.long
  | some c => String.ofList ['-', c] ++ ", " ++ f.long

/-- What a command line may hold. -/
structure Form where
  /-- The words that lead to the command. -/
  path : String
  flags : List FlagForm
  /-- The first word that is no flag ends the flags. -/
  endsAtWord : Bool := false
  deriving Repr, Inhabited

/-- How a command line breaks its form. -/
inductive UsageError where
  | noSuchOption (name : String) (similar : List String)
  | noValue (name : String)
  | noSuchCommand (name : String) (similar : List String)
  | missingCommand
  | missingArgument (name : String)
  | unreadable (argument file reason : String)
  | extraArguments (words : List String)
  deriving DecidableEq, Repr

namespace UsageError

/-- The question whether one of the similar words was meant. -/
def suggestion : List String → String
  | [] => ""
  | [word] => " Did you mean " ++ Text.quote word ++ "?"
  | words => " (Possible options: " ++ Text.joined ", " (words.map Text.quote) ++ ")"

def message : UsageError → String
  | noSuchOption name similar => "No such option " ++ Text.quote name ++ "." ++ suggestion similar
  | noValue name => "Option " ++ Text.quote name ++ " does not take a value."
  | noSuchCommand name similar => "No such command " ++ Text.quote name ++ "." ++ suggestion similar
  | missingCommand => "Missing command."
  | missingArgument name => "Missing argument '" ++ name ++ "'."
  | unreadable argument file reason =>
    "Invalid value for '" ++ argument ++ "': '" ++ file ++ "': " ++ reason
  | extraArguments words =>
    "Got unexpected extra argument" ++ (if words.length = 1 then "" else "s") ++ " (" ++
      Text.joined " " words ++ ")"

end UsageError

namespace Form

/-- The flag of a long spelling. -/
def long? (f : Form) (name : String) : Option Flag :=
  (f.flags.find? (·.long == name)).map (·.flag)

/-- The flag of a short spelling. -/
def short? (f : Form) (c : Char) : Option Flag :=
  (f.flags.find? (·.short == some c)).map (·.flag)

/-- Long spellings that are similar to a word. -/
def similarTo (f : Form) (name : String) : List String :=
  ((f.flags.map (·.long)).filter fun known => Text.areSimilar known name).mergeSort

/-- The flags of letters behind one sign. -/
def shortFlags (f : Form) : List Char → Except UsageError (List Flag)
  | [] => .ok []
  | c :: rest =>
    match f.short? c with
    | none => .error (.noSuchOption (String.ofList ['-', c]) [])
    | some flag => (shortFlags f rest).map (flag :: ·)

/-- The flags in a word that starts with a sign: one long spelling, or letters. -/
def flagsOf (f : Form) (word : List Char) : Except UsageError (List Flag) :=
  let (name, value) := Text.cut '=' word
  let name := String.ofList name
  match f.long? name, value with
  | some flag, none => .ok [flag]
  | some _, some _ => .error (.noValue name)
  | none, _ =>
    if ['-', '-'].isPrefixOf word then .error (.noSuchOption name (f.similarTo name))
    else f.shortFlags (word.drop 1)

/-- A word that holds flags: a sign with something behind it. -/
def holdsFlags : List Char → Bool
  | '-' :: _ :: _ => true
  | _ => false

/-- The flags of a command line in order, and its other words. Two signs alone end the flags. -/
def split (f : Form) : List String → Except UsageError (List Flag × List String)
  | [] => .ok ([], [])
  | word :: rest =>
    if word = "--" then .ok ([], rest)
    else if holdsFlags word.toList then do
      let flags ← f.flagsOf word.toList
      let (more, words) ← split f rest
      return (flags ++ more, words)
    else if f.endsAtWord then .ok ([], word :: rest)
    else do
      let (flags, words) ← split f rest
      return (flags, word :: words)

/-- No words may be left over. -/
def noneLeft : List String → Except UsageError Unit
  | [] => .ok ()
  | words => .error (.extraArguments words)

end Form

end QueryPlans.CommandLine
