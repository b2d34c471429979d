import UnaryNumeral.CommandLine.Report
import UnaryNumeral.Environment
import UnaryNumeral.Printer
import UnaryNumeral.Reader
import UnaryNumeral.Term.Measure

namespace UnaryNumeral.CommandLine

/-- Terms deeper than this are reported without their plain form. -/
def plainDepthLimit : Nat := 64

/-- How a command ends: with output and an exit status, or refused because of its arguments. -/
inductive Ending where
  | finished (status : Nat) (output diagnostics : String)
  | misused (message : Option String)
  deriving DecidableEq

/-- The path of the number type: an explicit one, else the development path if asked for, else the
one of the settings. -/
def choosePath (settings : Settings) (arguments : Arguments) : Except Error Path :=
  match arguments.path with
  | some path => settings.resolutionPath (some (.dotted path))
  | none => if arguments.development then .ok developmentPath else settings.resolutionPath

/-- The term that a command is about. -/
def elaborate (environment : Environment) (command : Command) (text : String) :
    Except Error Term :=
  let tables := environment.tables
  match command with
  | .parse => tables.notations.elaborate text none environment.defaultScope
  | .print =>
    let reader := Reader.ofPaths tables.symbols tables.notations
      (environment.openPaths.map Path.spelled) environment.defaultScope
    reader.read text

/-- What there is to report of a term. -/
def examine (environment : Environment) (term : Term) : Findings :=
  let notations := environment.tables.notations
  let depth := term.depth
  { value := environment.codec.decode term
    printed := (notations.printer { openScopes := some environment.openScopes }).print term
    plain :=
      if depth ≤ plainDepthLimit then some ((notations.printer { scopes := some [] }).print term)
      else none
    depth }

/-- Reports on a text. An error that has no title is no outcome of the command and ends it. -/
def report (environment : Environment) (path : Path) (command : Command) (text : String) :
    Action Unit Report :=
  match elaborate environment command text with
  | .ok term => pure ⟨command, text, path, .ok (examine environment term)⟩
  | .error error =>
    match error.title? with
    | none => .fail error
    | some title => fun state =>
      let failed : Record := ⟨.debug, .commandLine, "elaboration failed: " ++ error.message⟩
      ⟨.ok ⟨command, text, path, .error (title ++ ": " ++ error.message)⟩, state,
        error.records ++ [failed]⟩

def execute (settings : Settings) (path : Path) (command : Command) (text : String) :
    Outcome Unit Report :=
  let built := (Tables.bootstrap settings (some path.spelled)).run {}
  match built.result with
  | .error error => ⟨.error error, (), built.log⟩
  | .ok environment =>
    let reported := (report environment path command text).run ()
    ⟨reported.result, (), built.log ++ reported.log⟩

/-- Writes a report out; the log goes with it if it is wanted. -/
def finish (arguments : Arguments) (done : Outcome Unit Report) : Outcome Unit Ending :=
  match done.result with
  | .error error => ⟨.error error, (), done.log⟩
  | .ok report =>
    let diagnostics :=
      if arguments.verbose then String.join (done.log.map fun record => record.line ++ "\n")
      else ""
    ⟨.ok (.finished (if report.isOk then 0 else 1) (report.json arguments.pretty ++ "\n")
      diagnostics), (), done.log⟩

def perform (settings : Settings) (arguments : Arguments) : Outcome Unit Ending :=
  if arguments.schema then
    ⟨.ok (.finished 0 (schemaName ++ " " ++ schemaDocument ++ "\n") ""), (), []⟩
  else
    match arguments.command, arguments.text with
    | some command, some text =>
      match choosePath settings arguments with
      | .error error =>
        ⟨.ok (.misused (some ("invalid resolution path: " ++ error.message))), (), []⟩
      | .ok path => finish arguments (execute settings path command text)
    | _, _ =>
      ⟨.ok (.misused (some "command and text are required unless --schema is used")), (), []⟩

def run (settings : Settings) (words : List String) : Outcome Unit Ending :=
  match Arguments.ofWords? words with
  | some arguments => perform settings arguments
  | none => ⟨.ok (.misused none), (), []⟩

end UnaryNumeral.CommandLine
