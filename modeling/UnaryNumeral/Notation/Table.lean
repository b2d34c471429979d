import UnaryNumeral.Notation.Interpreter
import UnaryNumeral.Text.Identifier

namespace UnaryNumeral

/-- What a second interpreter for a scope does: it replaces the first, or it is refused. -/
inductive Policy where
  | replace
  | strict
  deriving DecidableEq

def Policy.ofValue (value : Value) : Except Error Policy :=
  match value with
  | .text "replace" => .ok .replace
  | .text "error" => .ok .strict
  | value => .error (.invalidPolicy value)

/-- Each scope has at most one interpreter; each delimiter key selects one scope. -/
structure NotationTable where
  policy : Policy := .replace
  interpreters : OrderedMap String Interpreter := .empty
  delimiters : OrderedMap String String := .empty

instance : Inhabited NotationTable := ⟨{}⟩

/-- The decoders that were asked about a term, by scope, and the first answer with its scope. -/
structure Recognition where
  asked : List String := []
  answer : Option (Int × String) := none

/-- Asks the decoders one after another until one knows the term. -/
def Recognition.ask (term : Term) : List (String × Interpreter) → Recognition
  | [] => {}
  | (scope, interpreter) :: rest =>
    match interpreter.decode term with
    | some value => ⟨[scope], some (value, scope)⟩
    | none =>
      let later := ask term rest
      ⟨scope :: later.asked, later.answer⟩

namespace NotationTable

/-- A scope that has an interpreter is refused by a strict table; another table announces that
the interpreter is going to be replaced. -/
def makeRoom (table : NotationTable) (scope : String) : Action NotationTable Unit :=
  if table.interpreters.contains scope then
    match table.policy with
    | .strict => .fail (.scopeTaken scope)
    | .replace => .note .warning .notations ("replacing numeral interpreter for scope " ++ scope)
  else pure ()

def store (table : NotationTable) (interpreter : Interpreter) :
    Action NotationTable Interpreter := do
  .put { table with
    interpreters := table.interpreters.insert interpreter.scope interpreter }
  .note .debug .notations ("numeral interpreter registered for " ++ interpreter.scope)
  pure interpreter

/-- Gives a scope its interpreter. An encoder or a decoder that is missing stands for one that
cannot be called. -/
def declareInterpreter (scope : String) (origin : Origin) (encoder : Option Encoder)
    (printRefs : List Operand) (decoder : Option Decoder) (matchesTerms : Bool) :
    Action NotationTable Interpreter :=
  match encoder, decoder with
  | some encode, some decode => do
    let table ← .get
    table.makeRoom scope
    table.store ⟨scope, origin, encode, printRefs, decode, matchesTerms⟩
  | _, _ => .fail .notCallable

/-- Lets a key select a scope. -/
def declareDelimiter (scope key : String) : Action NotationTable Unit :=
  if Text.isIdentifier key.toList then do
    let table ← .get
    .put { table with delimiters := table.delimiters.insert key scope }
  else .fail (.invalidKey key)

/-- Lets a key select a scope, if there is a key. -/
def declareKey (scope : String) : Option String → Action NotationTable Unit
  | some key => declareDelimiter scope key
  | none => pure ()

/-- Makes a codec the interpreter of a scope, matching all terms, and then declares the key. A key
that is refused leaves the interpreter in place. -/
def register (codec : Codec) (scope : String := standardScope)
    (key : Option String := some standardKey) : Action NotationTable Interpreter := do
  let origin : Origin := ⟨codec.path.map .text, .text "Datatypes"⟩
  let interpreter ← declareInterpreter scope origin (some codec.encoder)
    (codec.printRefs.map .ofTerm) (some codec.decoder) true
  declareKey scope key
  pure interpreter

def clear : Action NotationTable Unit := do
  let table ← .get
  .put { policy := table.policy }

def hasInterpreter (table : NotationTable) (scope : String) : Bool :=
  table.interpreters.contains scope

def interpreter (table : NotationTable) (scope : String) : Except Error Interpreter :=
  match table.interpreters.find? scope with
  | some interpreter => .ok interpreter
  | none => .error (.unknownScope scope)

def scopeOfDelimiter (table : NotationTable) (key : String) : Except Error String :=
  match table.delimiters.find? key with
  | some scope => .ok scope
  | none => .error (.unknownScope key)

/-- The first key that selects a scope, in the order in which the keys were first declared. -/
def delimiterOfScope (table : NotationTable) (scope : String) : Option String :=
  (table.delimiters.entries.find? (·.2 = scope)).map Prod.fst

/-- The scopes that have an interpreter, in ascending order. -/
def scopes (table : NotationTable) : List String :=
  table.interpreters.keys.mergeSort fun a b => decide (a ≤ b)

def interpretValue (table : NotationTable) (scope : String) (span : Option Span) (value : Value) :
    Except Error Term := do
  let interpreter ← table.interpreter scope
  interpreter.encode span value

def interpret (table : NotationTable) (scope : String) (span : Option Span) (n : Int) :
    Except Error Term := table.interpretValue scope span (.int n)

/-- The interpreters among the scopes that match terms, in the order of the scopes. -/
def matching (table : NotationTable) (scopes : List String) : List (String × Interpreter) :=
  scopes.filterMap fun scope =>
    ((table.interpreters.find? scope).filter (·.matchesTerms)).map fun interpreter =>
      (scope, interpreter)

/-- Asks the matching interpreters among the scopes that may print the head of a term. -/
def recognize (table : NotationTable) (term : Term) (scopes : List String) : Recognition :=
  match term.headRef with
  | none => {}
  | some head =>
    .ask term ((table.matching scopes).filter fun entry => entry.2.printableHeads.contains head)

/-- The number that a term stands for and the scope that says so. -/
def uninterpret (table : NotationTable) (term : Term) (scopes : List String) :
    Option (Int × String) := (table.recognize term scopes).answer

/-- The entities that the matching interpreters among the scopes may print, each once. -/
def printableHeads (table : NotationTable) (scopes : List String) : List Handle :=
  ((table.matching scopes).flatMap fun entry => entry.2.printableHeads).eraseDups

end NotationTable

end UnaryNumeral
