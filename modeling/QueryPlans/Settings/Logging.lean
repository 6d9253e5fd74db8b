import QueryPlans.Log.Format
import QueryPlans.Settings.Source
import QueryPlans.Validation.Reader

/-!
# Settings of the log

* `LogSettings` — the level from which entries are written, their form, and a file for them.
* `LogSettings.read` — the settings of a source.
* `LogSettings.written` — what entries come to in the file.
-/

namespace QueryPlans

/-- How the log is written. -/
structure LogSettings where
  level : LogLevel := .info
  format : String := "%(asctime)s - %(name)s - %(levelname)s - %(message)s"
  dateFormat : String := "%Y-%m-%d %H:%M:%S"
  file : Option String := none
  deriving DecidableEq, Repr, Inhabited

namespace LogSettings

/-- A path in its shortest form: no empty and no `.` parts. Exactly two slashes at its start stay
two. -/
def normalPath (path : String) : String :=
  let cs := path.toList
  let slashes := (cs.takeWhile (· == '/')).length
  let root := if slashes = 2 then "//" else if slashes = 0 then "" else "/"
  let parts := (Text.splitOn '/' cs).filter fun part => part != [] && part != ['.']
  let body := Text.joined "/" (parts.map String.ofList)
  if root = "" ∧ body = "" then "." else root ++ body

def readPath : Reader String
  | .str s => .valid (normalPath s)
  | _ => .issue .pathExpected

def names : List String := ["level", "format", "date_format", "file"]

def ofFields (fields : Json.Fields) : Checked LogSettings :=
  let default : LogSettings := {}
  LogSettings.mk
    <$> Reader.optional fields "level" default.level (Reader.oneOf LogLevel.options)
    <*> Reader.optional fields "format" default.format Reader.text
    <*> Reader.optional fields "date_format" default.dateFormat Reader.text
    <*> Reader.optional fields "file" none (Reader.nullable readPath)

/-- The settings of a source, behind the given ones. -/
def read (s : Source) (given : Json.Fields) : Checked LogSettings :=
  ofFields (s.fields given "log_" names)

/-- Where entries are written: always to the terminal, and to the file if there is one. -/
def handlers (s : LogSettings) : List String :=
  if s.file.isSome then ["StreamHandler", "FileHandler"] else ["StreamHandler"]

/-- Why the log cannot be written. -/
def formatError? (s : LogSettings) : Option String :=
  if LogFormat.hasField s.format then none
  else some ("Invalid format '" ++ s.format ++ "' for '%' style")

/-- What entries come to in the file: those from the level on, a line each. -/
def written (s : LogSettings) (entries : List LogEntry) : String :=
  let shown := entries.filter fun e => s.level.rank ≤ e.level.rank
  String.join (shown.map fun e => LogFormat.render s.format s.dateFormat e ++ "\n")

end LogSettings

end QueryPlans
