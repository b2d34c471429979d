import UnaryNumeral.Text.Decimal

namespace UnaryNumeral.CommandLine

inductive Command where
  | parse
  | print
  deriving DecidableEq

def Command.label : Command → String
  | parse => "parse"
  | print => "print"

def Command.ofText? (text : String) : Option Command :=
  [parse, print].find? (·.label = text)

/-- The options. The last one takes a value. -/
inductive Flag where
  | schema
  | pretty
  | development
  | verbose
  | path
  deriving DecidableEq

def Flag.label : Flag → String
  | schema => "--schema"
  | pretty => "--pretty"
  | development => "--dev"
  | verbose => "--verbose"
  | path => "--path"

def Flag.all : List Flag := [schema, pretty, development, verbose, path]

/-- What the command line asks for. -/
structure Arguments where
  command : Option Command := none
  text : Option String := none
  schema : Bool := false
  pretty : Bool := false
  development : Bool := false
  verbose : Bool := false
  path : Option String := none

/-- The part a word plays. A value may be attached to an option with an equals sign. -/
inductive Word where
  | positional
  | option (flag : Flag) (attached : Option (List Char))
  | refused

/-- Digits without or with a point somewhere in front of the last of them. -/
def isUnsignedNumber (text : List Char) : Bool :=
  let whole := text.takeWhile Text.isAnyDigit
  match text.dropWhile Text.isAnyDigit with
  | [] => !whole.isEmpty
  | c :: rest => c == '.' && !rest.isEmpty && rest.all Text.isAnyDigit

/-- What stands behind a minus sign makes the word a negative number; one line feed at the end
does not matter. -/
def isMagnitude (text : List Char) : Bool :=
  isUnsignedNumber text ||
    (text.getLast?.any (· == '\n') && isUnsignedNumber text.dropLast)

/-- An option by its full name or by a beginning that no other option has. -/
def findFlags (name : List Char) : List Flag :=
  match Flag.all.filter fun flag => flag.label.toList = name with
  | [] => Flag.all.filter fun flag => name.isPrefixOf flag.label.toList
  | exact => exact

/-- A word that starts with a minus sign is an option, unless it is the sign alone, a negative
number or holds a space; other words are positional. -/
def classify (word : String) : Word :=
  match word.toList with
  | '-' :: c :: rest =>
    let text := '-' :: c :: rest
    let name := text.takeWhile (· ≠ '=')
    let attached := if text.contains '=' then some (text.drop (name.length + 1)) else none
    match if c = '-' then findFlags name else [] with
    | [flag] => .option flag attached
    | _ :: _ => .refused
    | [] =>
      if isMagnitude (c :: rest) || text.contains ' ' then .positional else .refused
  | _ => .positional

/-- The word behind which all words are positional. -/
def separator : String := "--"

/-- A word in the place of a value. A separator there counts as no word. -/
def wordAsValue (word : String) : Option String := if word = separator then none else some word

/-- Words read so far: what the options ask for, the current run of positional words with the
latest first, and an earlier run if an option ended one. -/
structure Progress where
  arguments : Arguments := {}
  current : List String := []
  earlier : Option (List String) := none

namespace Progress

/-- Ends a run of positional words. There may be only one. -/
def endRun (progress : Progress) : Option Progress :=
  match progress.current, progress.earlier with
  | [], _ => some progress
  | run, none => some { progress with current := [], earlier := some run.reverse }
  | _, some _ => none

def setFlag (progress : Progress) (flag : Flag) : Option Progress :=
  let arguments := progress.arguments
  match flag with
  | .schema => some { progress with arguments := { arguments with schema := true } }
  | .pretty => some { progress with arguments := { arguments with pretty := true } }
  | .development => some { progress with arguments := { arguments with development := true } }
  | .verbose => some { progress with arguments := { arguments with verbose := true } }
  | .path => none

def setPath (progress : Progress) (path : String) : Progress :=
  { progress with arguments := { progress.arguments with path := some path } }

end Progress

/-- Reads the words in front of a separator. Without a word as its value an attached path is
empty. -/
def readWords (progress : Progress) : List String → Option Progress
  | [] => some progress
  | word :: rest =>
    match classify word with
    | .positional => readWords { progress with current := word :: progress.current } rest
    | .refused => none
    | .option .path (some value) => do
      readWords ((← progress.endRun).setPath ((wordAsValue (String.ofList value)).getD "")) rest
    | .option .path none =>
      match rest with
      | [] => none
      | value :: rest =>
        match classify value with
        | .positional => do readWords ((← progress.endRun).setPath value) rest
        | _ => none
    | .option _ (some _) => none
    | .option flag none => do readWords (← (← progress.endRun).setFlag flag) rest

def Arguments.withPositionals (arguments : Arguments) : List String → Option Arguments
  | [] => some arguments
  | [command] => do pure { arguments with command := some (← Command.ofText? command) }
  | [command, text] => do
    pure { arguments with
      command := some (← Command.ofText? command)
      text := wordAsValue text }
  | _ => none

/-- What the words ask for, unless they break the rules. -/
def Arguments.ofWords? (words : List String) : Option Arguments := do
  let front := words.takeWhile (· ≠ separator)
  let back := words.dropWhile (· ≠ separator)
  let progress ← readWords {} front
  let last := progress.current.reverse ++ back.drop 1
  match progress.earlier with
  | none => progress.arguments.withPositionals last
  | some run =>
    if last.isEmpty && back.isEmpty then progress.arguments.withPositionals run else none

end UnaryNumeral.CommandLine
