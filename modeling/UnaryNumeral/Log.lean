import UnaryNumeral.Error

namespace UnaryNumeral

inductive Level where
  | debug
  | warning
  deriving DecidableEq

def Level.label : Level → String
  | debug => "DEBUG"
  | warning => "WARNING"

/-- The part of the system that a record comes from. -/
inductive Channel where
  | symbols
  | codec
  | notations
  | prelude
  | commandLine
  deriving DecidableEq

def Channel.label : Channel → String
  | symbols => "nat_numeral.symbols"
  | codec => "nat_numeral.codec"
  | notations => "nat_numeral.notation"
  | prelude => "nat_numeral.prelude"
  | commandLine => "nat_numeral.numeral_cli"

structure Record where
  level : Level
  channel : Channel
  message : String
  deriving DecidableEq

def Record.line (record : Record) : String :=
  record.level.label ++ ":" ++ record.channel.label ++ ":" ++ record.message

/-- A look-up that fails in a symbol table leaves a record; no other failure does. -/
def Error.records : Error → List Record
  | unresolved path name => [⟨.debug, .symbols, "unresolved " ++ path.qualified name⟩]
  | _ => []

end UnaryNumeral
