import UnaryNumeral.Notation.Table

namespace UnaryNumeral

/-- A literal such as `-12%nat`. -/
structure Literal where
  negative : Bool
  digits : List Char
  key : Option String
  deriving DecidableEq

namespace Literal

/-- The most digits that a literal may have. -/
def digitLimit : Nat := 4300

/-- What stands behind the digits: nothing, or a percent sign and a key. -/
def keyOf? : List Char → Option (Option String)
  | [] => some none
  | c :: key => if c = '%' ∧ Text.isKey key = true then some (some (String.ofList key)) else none

/-- Splits the digits off and reads the key behind them. -/
def unsigned? (negative : Bool) (text : List Char) : Option Literal :=
  let digits := text.takeWhile Char.isDigit
  if digits.isEmpty then none
  else (keyOf? (text.dropWhile Char.isDigit)).map (⟨negative, digits, ·⟩)

/-- The literal that a text spells. -/
def ofText? (text : List Char) : Option Literal :=
  match text with
  | '-' :: rest => unsigned? true rest
  | text => unsigned? false text

/-- The number that a literal stands for. -/
def value (literal : Literal) : Int :=
  let magnitude : Int := Text.digitsValue literal.digits
  if literal.negative then -magnitude else magnitude

end Literal

namespace NotationTable

/-- The scope of a literal: the one that its key selects, else the default one. -/
def scopeOfLiteral (table : NotationTable) (text : String) (span : Span) (literal : Literal)
    (defaultScope : Option String) : Except Error String :=
  match literal.key, defaultScope with
  | some key, _ => table.scopeOfDelimiter key
  | none, some scope => .ok scope
  | none, none => .error (.malformed text span .noScope)

/-- The term of a literal in its scope. Without a span the literal spans its own text. -/
def elaborate (table : NotationTable) (text : String) (span : Option Span := none)
    (defaultScope : Option String := none) : Except Error Term := do
  let span := span.getD ⟨0, text.length, none⟩
  match Literal.ofText? text.toList with
  | none => .error (.malformed text span .notDecimal)
  | some literal =>
    let scope ← table.scopeOfLiteral text span literal defaultScope
    if Literal.digitLimit < literal.digits.length then
      .error (.tooManyDigits literal.digits.length)
    else table.interpret scope (some span) literal.value

/-- A number as a literal of a scope: bare where the scope is open, else with the key of the
scope, or with its name if it has no key. Writing is assumed not to fail: the limit on digits holds
for what is read, and is not applied to what is written. -/
def format (table : NotationTable) (value : Int) (scope : String) (openScopes : List String) :
    String :=
  if openScopes.contains scope then Text.decimal value
  else Text.decimal value ++ "%" ++ (table.delimiterOfScope scope).getD scope

end NotationTable

end UnaryNumeral
