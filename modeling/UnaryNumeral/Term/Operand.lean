import UnaryNumeral.Error
import UnaryNumeral.Term

namespace UnaryNumeral

namespace Term

def shape : Term → String
  | ref .. => "Ref"
  | var .. => "Var"
  | app .. => "App"

mutual

/-- The written form of a term: constructor notation, without spans. -/
def written : Term → String
  | ref handle _ => "Ref(" ++ handle.qualifiedName ++ ")"
  | var name _ => "Var(" ++ Text.quoted name ++ ")"
  | app head args _ => "App(" ++ written head ++ ", (" ++ writtenArgs args ++ "))"

/-- Arguments separated by commas; a single one keeps a comma behind it. -/
def writtenArgs : List Term → String
  | [] => ""
  | [arg] => written arg ++ ","
  | arg :: next :: rest => written arg ++ ", " ++ writtenTail (next :: rest)

def writtenTail : List Term → String
  | [] => ""
  | [arg] => written arg
  | arg :: next :: rest => written arg ++ ", " ++ writtenTail (next :: rest)

end

/-- A node never changes: every update of a part is refused. -/
def refuseUpdate {α : Type} (term : Term) : Except Error α := .error (.immutable term.shape)

end Term

/-- A term, or a value in the place of one. -/
inductive Operand where
  | ofTerm (term : Term)
  | ofValue (value : Value)

namespace Operand

def asTerm? : Operand → Option Term
  | .ofTerm term => some term
  | .ofValue _ => none

/-- The operand as a child of an application. -/
def toChild : Operand → Except Error Term
  | .ofTerm term => .ok term
  | .ofValue value => .error (.notTerm value.typeName)

/-- The application of operands, all of which have to be terms. -/
def apply (head : Operand) (args : List Operand) (span : Span := .nowhere) : Except Error Term := do
  let head ← head.toChild
  let args ← args.mapM toChild
  pure (.app head args span)

def asRef (operand : Operand) : Option Handle := operand.asTerm?.bind Term.asRef
def asApp (operand : Operand) : Option (Term × List Term) := operand.asTerm?.bind Term.asApp
def headRef (operand : Operand) : Option Handle := operand.asTerm?.bind Term.headRef

end Operand

end UnaryNumeral
