import UnaryNumeral.Path
import UnaryNumeral.Span
import UnaryNumeral.Value

namespace UnaryNumeral

/-- What is wrong with a text that is no literal or no term. -/
inductive Fault where
  | notDecimal
  | noScope
  | strayCharacter (position : Nat)
  | emptyTerm
  | strayToken (text : String)
  | unclosed
  deriving DecidableEq

def Fault.message : Fault → String
  | .notDecimal => "not a decimal numeral"
  | .noScope => "no numeral scope for literal"
  | .strayCharacter position => "unexpected character at " ++ Nat.repr position
  | .emptyTerm => "empty term"
  | .strayToken text => "unexpected " ++ Text.quoted text
  | .unclosed => "unbalanced parenthesis"

/-- The causes of failure. Those after `unknownScope` are misuses: the caller handed over
something that the operation does not take. -/
inductive Error where
  /-- Nothing is declared under a path and name that were looked up as such. -/
  | unresolved (path : Path) (name : String)
  /-- A bare name is declared under none of the open paths, of which the first is given. -/
  | unknownName (path : Path) (name : String)
  | alreadyDeclared (path : Path) (name : String)
  | negativeNumeral (span : Option Span)
  | malformed (text : String) (span : Span) (fault : Fault)
  | scopeTaken (scope : String)
  /-- No interpreter for a scope, or no scope for a delimiter key. -/
  | unknownScope (scope : String)
  | segmentNotText (found : String)
  | invalidSegment (segment : String)
  | nameNotText (found : String)
  | invalidName (name : String)
  | notHashable (found : String)
  | repeatedNames (names : List Value)
  | notCallable
  | invalidPolicy (given : Value)
  | invalidKey (key : String)
  | tooManyDigits (count : Nat)
  | notInteger (found : String)
  | notTerm (found : String)
  | immutable (shape : String)

namespace Error

def message : Error → String
  | unresolved path name | unknownName path name =>
    "unresolved global reference: " ++ path.qualified name
  | alreadyDeclared path name => "global reference already declared: " ++ path.qualified name
  | negativeNumeral none => "encode_nat: negative numbers not allowed"
  | negativeNumeral (some span) =>
    "encode_nat: negative numbers not allowed (at " ++ span.text ++ ")"
  | malformed text _ fault => fault.message ++ ": " ++ Text.quoted text
  | scopeTaken scope => "numeral interpreter already declared for scope " ++ Text.quoted scope
  | unknownScope scope => "unknown numeral scope or delimiter: " ++ Text.quoted scope
  | segmentNotText found => "path segment must be str, got " ++ found
  | invalidSegment segment => "invalid path segment: " ++ Text.quoted segment
  | nameNotText found => "name must be str, got " ++ found
  | invalidName name => "invalid short name: " ++ Text.quoted name
  | notHashable found => "unhashable type: " ++ Text.quoted found
  | repeatedNames names =>
    "duplicate names in inductive declaration: " ++ (Value.list names).written
  | notCallable => "encode and decode must be callable"
  | invalidPolicy given =>
    "on_conflict must be one of ('replace', 'error'), got " ++ given.written
  | invalidKey key => "invalid delimiter key: " ++ Text.quoted key
  | tooManyDigits count =>
    "Exceeds the limit (4300 digits) for integer string conversion: value has " ++
      Nat.repr count ++ " digits; use sys.set_int_max_str_digits() to increase the limit"
  | notInteger found => "encode_nat expects an int, got " ++ found
  | notTerm found => "App expects Term children, got " ++ found
  | immutable shape => shape ++ " is immutable"

/-- The title of an error that a report may show. A misuse has none. -/
def title? : Error → Option String
  | unresolved .. | unknownName .. => some "ResolutionError"
  | alreadyDeclared .. => some "DuplicateSymbolError"
  | negativeNumeral .. => some "NegativeNumeralError"
  | malformed .. => some "NumeralSyntaxError"
  | scopeTaken .. => some "NotationConflictError"
  | unknownScope .. => some "UnknownScopeError"
  | _ => none

end Error

section

variable {ε α β : Type}

@[simp]
theorem pure_eq_ok_iff {value result : α} :
    (pure value : Except ε α) = .ok result ↔ value = result := by
  simp [pure, Except.pure]

theorem bind_eq_ok_iff {first : Except ε α} {next : α → Except ε β} {result : β} :
    first >>= next = .ok result ↔ ∃ value, first = .ok value ∧ next value = .ok result := by
  cases first <;> simp [bind, Except.bind]

theorem bind_eq_error_iff {first : Except ε α} {next : α → Except ε β} {error : ε} :
    first >>= next = .error error ↔
      first = .error error ∨ ∃ value, first = .ok value ∧ next value = .error error := by
  cases first <;> simp [bind, Except.bind]

end

end UnaryNumeral
