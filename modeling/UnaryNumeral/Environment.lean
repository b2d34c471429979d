import UnaryNumeral.Notation.Table

namespace UnaryNumeral

structure Tables where
  symbols : SymbolTable := {}
  notations : NotationTable := {}
  deriving Inhabited

namespace Tables

def withSymbols (tables : Tables) (symbols : SymbolTable) : Tables := { tables with symbols }
def withNotations (tables : Tables) (notations : NotationTable) : Tables :=
  { tables with notations }

def onSymbols {α : Type} (action : Action SymbolTable α) : Action Tables α :=
  action.within symbols withSymbols

def onNotations {α : Type} (action : Action NotationTable α) : Action Tables α :=
  action.within notations withNotations

end Tables

def SymbolTable.declareNat (path : PathSpelling) : Action SymbolTable (Handle × List Handle) :=
  declareInductive path (.text natName) [.text zeroName, .text succName]

/-- Tables with the codec of their number type, and what is open in them. -/
structure Environment where
  tables : Tables
  codec : Codec
  openPaths : List Path := []
  openScopes : List String := [standardScope]

/-- The scope of bare literals: the first open one. -/
def Environment.defaultScope (environment : Environment) : Option String :=
  environment.openScopes.head?

namespace Tables

/-- Loads the codec under the path in effect and registers it for a scope. Nothing is registered
before the whole codec has been found. -/
def install (settings : Settings) (path : Option PathSpelling := none)
    (scope : String := standardScope) : Action Tables (Codec × Interpreter) := do
  let codec ← onSymbols (Codec.load settings path)
  let interpreter ← onNotations (NotationTable.register codec scope)
  let place := if codec.path.dotted = "" then "<root>" else codec.path.dotted
  .note .debug .prelude ("installed " ++ scope ++ " numerals from " ++ place)
  pure (codec, interpreter)

/-- Declares the number type under the path in effect and installs its numerals. -/
def bootstrap (settings : Settings) (path : Option PathSpelling := none) :
    Action Tables Environment := do
  let path ← .ofExcept (settings.resolutionPath path)
  let _ ← onSymbols (SymbolTable.declareNat path.spelled)
  let (codec, _) ← install settings (some path.spelled)
  let tables ← .get
  pure { tables, codec, openPaths := [path] }

end Tables

end UnaryNumeral
