import UnaryNumeral.CommandLine.Arguments
import UnaryNumeral.Path
import UnaryNumeral.Text.Quoted

namespace UnaryNumeral.CommandLine

/-- The values of the fields of a report. -/
inductive Scalar where
  | null
  | bool (value : Bool)
  | number (value : Nat)
  | text (value : String)
  deriving DecidableEq

namespace Scalar

/-- Quotes, backslashes and control characters are escaped, all other characters stand for
themselves. -/
def escape (c : Char) : List Char :=
  match c with
  | '"' => ['\\', '"']
  | '\\' => ['\\', '\\']
  | '\n' => ['\\', 'n']
  | '\r' => ['\\', 'r']
  | '\t' => ['\\', 't']
  | '\x08' => ['\\', 'b']
  | '\x0c' => ['\\', 'f']
  | c => if c.toNat < 0x20 then '\\' :: 'u' :: Text.hex 4 c.toNat else [c]

def json : Scalar → String
  | null => "null"
  | bool value => if value then "true" else "false"
  | number value => Nat.repr value
  | text value => String.ofList ('"' :: value.toList.flatMap escape ++ ['"'])

end Scalar

/-- Fields side by side on one line, or each on a line of its own. -/
def renderFields (pretty : Bool) (fields : List (String × Scalar)) : String :=
  let entries := fields.map fun field => (Scalar.text field.1).json ++ ": " ++ field.2.json
  if pretty then "\x7b\n  " ++ ",\n  ".intercalate entries ++ "\n\x7d"
  else "\x7b" ++ ", ".intercalate entries ++ "\x7d"

/-- The name of the report format, and where it is described. -/
def schemaName : String := "nat-numeral-run.v1"
def schemaDocument : String := "docs/nat_numeral_run_schema.md"

/-- What is known of a term that was elaborated. The plain form is left out for deep terms. -/
structure Findings where
  value : Option Nat
  printed : String
  plain : Option String
  depth : Nat
  deriving DecidableEq

/-- The outcome of a command: findings, or the error that stood in the way. -/
structure Report where
  command : Command
  input : String
  path : Path
  findings : Except String Findings

namespace Report

def isOk (report : Report) : Bool := report.findings.toBool

def optional {α : Type} (scalar : α → Scalar) (value : Option α) : Scalar :=
  (value.map scalar).getD .null

def fields (report : Report) : List (String × Scalar) :=
  let findings := report.findings.toOption
  let error := match report.findings with
    | .ok _ => Scalar.null
    | .error message => .text message
  [("schema", .text schemaName),
    ("schema_doc", .text schemaDocument),
    ("command", .text report.command.label),
    ("input", .text report.input),
    ("ok", .bool report.isOk),
    ("error", error),
    ("path", .text report.path.dotted),
    ("value", optional .number (findings.bind Findings.value)),
    ("printed", optional (.text ·.printed) findings),
    ("structure", optional .text (findings.bind Findings.plain)),
    ("depth", optional (.number ·.depth) findings)]

def json (report : Report) (pretty : Bool) : String := renderFields pretty report.fields

end Report

end UnaryNumeral.CommandLine
