import UnaryNumeral.Path

namespace UnaryNumeral

/-- What sort of entity a handle denotes. -/
inductive Kind where
  | constant
  | inductiveType
  | constructor
  deriving DecidableEq

def Kind.label : Kind → String
  | constant => "const"
  | inductiveType => "inductive"
  | constructor => "constructor"

/-- One declared entity. A constructor carries its position in its type, counted from one. -/
structure Handle where
  kind : Kind
  path : Path
  name : String
  index : Option Int := none
  deriving DecidableEq

def Handle.qualifiedName (handle : Handle) : String := handle.path.qualified handle.name

end UnaryNumeral
