import QueryPlans.Number.Numeral
import QueryPlans.Text.Search

/-!
# Files of variables

A file has a variable on each line: `NAME=value`, perhaps after `export`.  A value between quotes
may hold line ends and escapes; any other ends with its line or at a `#` after a blank.  A line
that is no variable is passed over.

* `Dotenv.parse` — the variables of a file in order; a name without an equals sign has no value.
* `Dotenv.expand` — the variables with the references in their values replaced: `${NAME}` stands for
  a variable above or else of the environment, and `${NAME:-text}` for the text if there is none.
-/

namespace QueryPlans.Dotenv

def isLineEnd (c : Char) : Bool := c == '\n' || c == '\r'

/-- A blank within a line. -/
def isInnerBlank (c : Char) : Bool := Text.isBlank c && !isLineEnd c

/-- The text from its first character that is no inner blank. -/
def skipInner (cs : List Char) : List Char := cs.dropWhile isInnerBlank

/-- The rest after the word `export` and a blank, if the text starts with these. -/
def skipExport (cs : List Char) : List Char :=
  match Text.dropPattern? ['e', 'x', 'p', 'o', 'r', 't'] cs with
  | some (c :: rest) => if isInnerBlank c then skipInner rest else cs
  | _ => cs

/-- The text up to a closing quote, and the rest after it. A quote after a backslash closes
nothing. -/
def takeQuoted? (mark : Char) : List Char → Option (List Char × List Char)
  | [] => none
  | '\\' :: c :: rest =>
    if c = mark then (takeQuoted? mark rest).map fun r => ('\\' :: c :: r.1, r.2)
    else (takeQuoted? mark (c :: rest)).map fun r => ('\\' :: r.1, r.2)
  | c :: rest =>
    if c = mark then some ([], rest) else (takeQuoted? mark rest).map fun r => (c :: r.1, r.2)

/-- What a character stands for after a backslash between double quotes. -/
def escaped? : Char → Option Char
  | '\\' => some '\\'
  | '\'' => some '\''
  | '"' => some '"'
  | 'a' => some '\x07'
  | 'b' => some '\x08'
  | 'f' => some '\x0c'
  | 'n' => some '\n'
  | 'r' => some '\r'
  | 't' => some '\t'
  | 'v' => some '\x0b'
  | _ => none

/-- What a character stands for after a backslash between single quotes. -/
def plainEscaped? : Char → Option Char
  | '\\' => some '\\'
  | '\'' => some '\''
  | _ => none

/-- Read the escapes of a value between quotes; other backslashes stay. -/
def readEscapes (meaning : Char → Option Char) : List Char → List Char
  | [] => []
  | '\\' :: c :: rest =>
    match meaning c with
    | some d => d :: readEscapes meaning rest
    | none => '\\' :: readEscapes meaning (c :: rest)
  | c :: rest => c :: readEscapes meaning rest

/-- A value without quotes: without the comment after a blank, and without blanks at its end. -/
def withoutComment : (afterBlank : Bool) → List Char → List Char
  | _, [] => []
  | afterBlank, c :: rest =>
    if c = '#' ∧ afterBlank then [] else c :: withoutComment (Text.isBlank c) rest

/-- The value at the start of a text, and the rest. -/
def takeValue? (cs : List Char) : Option (List Char × List Char) :=
  match cs with
  | '\'' :: rest => (takeQuoted? '\'' rest).map fun r => (readEscapes plainEscaped? r.1, r.2)
  | '"' :: rest => (takeQuoted? '"' rest).map fun r => (readEscapes escaped? r.1, r.2)
  | _ =>
    let (line, rest) := Text.spanUntil isLineEnd cs
    some (Text.trimEnd Text.isBlank (withoutComment false line), rest)

/-- The name at the start of a text, and the rest. -/
def takeName? (cs : List Char) : Option (List Char × List Char) :=
  match cs with
  | '\'' :: rest =>
    match Text.spanUntil (· == '\'') rest with
    | (name, _ :: after) => if name.isEmpty then none else some (name, after)
    | _ => none
  | _ =>
    let (name, rest) := Text.spanUntil (fun c => c == '=' || c == '#' || Text.isBlank c) cs
    if name.isEmpty then none else some (name, rest)

/-- The rest after a comment and a line end, if nothing else comes first. -/
def endLine? (cs : List Char) : Option (List Char) :=
  let rest := match skipInner cs with
    | '#' :: after => (Text.spanUntil isLineEnd after).2
    | other => other
  match rest with
  | [] => some []
  | '\r' :: '\n' :: after => some after
  | c :: after => if isLineEnd c then some after else none

/-- The variable at the start of a line, and the rest after the line. -/
def takeVariable? (cs : List Char) : Option ((String × Option String) × List Char) := do
  let (name, afterName) ← takeName? (skipExport cs)
  match skipInner afterName with
  | '=' :: rest =>
    let (value, afterValue) ← takeValue? (skipInner rest)
    let rest ← endLine? afterValue
    return ((String.ofList name, some (String.ofList value)), rest)
  | other =>
    let rest ← endLine? other
    return ((String.ofList name, none), rest)

/-- The variables of a text. Each round takes a character or more. -/
def parseFrom : (fuel : Nat) → List Char → List (String × Option String)
  | 0, _ => []
  | fuel + 1, cs =>
    match cs.dropWhile Text.isBlank with
    | [] => []
    | start =>
      match takeVariable? start with
      | some (v, rest) => v :: parseFrom fuel rest
      | none => parseFrom fuel ((Text.spanUntil isLineEnd start).2.drop 1)

/-- The variables of a file in order. -/
def parse (content : String) : List (String × Option String) :=
  parseFrom (content.length + 1) content.toList

/-! ## References -/

/-- The name and the substitute of the reference behind its opening brace, and the rest after it. -/
def takeReference? (cs : List Char) : Option (List Char × List Char × List Char) :=
  match Text.spanUntil (fun c => c == '\x7d' || c == ':') cs with
  | (name, '\x7d' :: rest) => some (name, [], rest)
  | (name, ':' :: '-' :: rest) =>
    match Text.spanUntil (· == '\x7d') rest with
    | (substitute, _ :: rest) => some (name, substitute, rest)
    | _ => none
  | _ => none

/-- Replace the references in a text; `skip` counts characters of a reference that were taken
already. -/
def replaceReferences (find? : String → Option (Option String)) :
    (skip : Nat) → List Char → List Char
  | _, [] => []
  | skip + 1, _ :: rest => replaceReferences find? skip rest
  | 0, '$' :: '\x7b' :: rest =>
    match takeReference? rest with
    | none => '$' :: replaceReferences find? 0 ('\x7b' :: rest)
    | some (name, substitute, after) =>
      let value := match find? (String.ofList name) with
        | some value => (value.getD "").toList
        | none => substitute
      value ++ replaceReferences find? (rest.length - after.length) rest
  | 0, c :: rest => c :: replaceReferences find? 0 rest

/-- The value of a variable above, or else of the environment. -/
def known? (environment : List (String × String)) (above : List (String × Option String))
    (name : String) : Option (Option String) :=
  match above.reverse.lookup name with
  | some value => some value
  | none => (environment.lookup name).map some

/-- Variables with the references in their values replaced, below others. -/
def expandBelow (environment : List (String × String)) (above : List (String × Option String)) :
    List (String × Option String) → List (String × Option String)
  | [] => []
  | (name, value) :: rest =>
    let value := value.map fun v =>
      String.ofList (replaceReferences (known? environment above) 0 v.toList)
    (name, value) :: expandBelow environment (above ++ [(name, value)]) rest

/-- Variables with the references in their values replaced. -/
def expand (environment : List (String × String)) (named : List (String × Option String)) :
    List (String × Option String) := expandBelow environment [] named

end QueryPlans.Dotenv
