import UnaryNumeral.Action
import UnaryNumeral.OrderedMap
import UnaryNumeral.Path.Spelling
import UnaryNumeral.Symbol.Handle

namespace UnaryNumeral

/-- A short name is not empty and holds neither dot nor blank. -/
def isShortName (name : String) : Bool :=
  name ≠ "" && !name.toList.contains '.' && !name.toList.any Text.isBlank

def checkName : Value → Except Error String
  | .text name => if isShortName name then .ok name else .error (.invalidName name)
  | value => .error (.nameNotText value.typeName)

/-- Some value occurs again later in the list. -/
def hasRepetition : List Value → Bool
  | [] => false
  | value :: rest => rest.any (value.sameMember ·) || hasRepetition rest

/-- Names that are declared together have to differ. -/
def checkDistinct (names : List Value) : Except Error Unit :=
  match names.find? (!·.isHashable) with
  | some name => .error (.notHashable name.typeName)
  | none => if hasRepetition names then .error (.repeatedNames names) else .ok ()

/-- Entities in order of declaration, each under its path and short name. -/
structure SymbolTable where
  entries : OrderedMap (Path × String) Handle := .empty
  deriving Inhabited

namespace SymbolTable

def empty : SymbolTable := {}

def declare (path : PathSpelling) (name : Value) (kind : Kind := .constant)
    (index : Option Int := none) : Action SymbolTable Handle := do
  let path ← .ofExcept path.toPath
  let name ← .ofExcept (checkName name)
  let table ← .get
  if table.entries.contains (path, name) then
    .fail (.alreadyDeclared path name)
  else
    let handle : Handle := ⟨kind, path, name, index⟩
    .put { table with entries := table.entries.insert (path, name) handle }
    .note .debug .symbols ("declared " ++ kind.label ++ " " ++ handle.qualifiedName)
    pure handle

/-- Declares constructors in order, the first at the given position. -/
def declareConstructors (path : Path) : (position : Nat) → List Value →
    Action SymbolTable (List Handle)
  | _, [] => pure []
  | position, name :: rest => do
    let handle ← declare path.spelled name .constructor (some position)
    let handles ← declareConstructors path (position + 1) rest
    pure (handle :: handles)

/-- The value is a short name that the path still has free. -/
def checkFree (table : SymbolTable) (path : Path) (name : Value) : Except Error Unit := do
  let name ← checkName name
  if table.entries.contains (path, name) then .error (.alreadyDeclared path name) else .ok ()

/-- Declares a type and its constructors side by side, after all their names were checked. -/
def declareInductive (path : PathSpelling) (name : Value) (constructors : List Value) :
    Action SymbolTable (Handle × List Handle) := do
  let path ← .ofExcept path.toPath
  .ofExcept (checkDistinct (name :: constructors))
  let table ← .get
  .ofExcept ((name :: constructors).forM (table.checkFree path))
  let type ← declare path.spelled name .inductiveType
  let handles ← declareConstructors path 1 constructors
  pure (type, handles)

/-- The entity under a path and name, if there is one. -/
def lookup (table : SymbolTable) (path : PathSpelling) (name : String) :
    Except Error (Option Handle) := do
  let path ← path.toPath
  pure (table.entries.find? (path, name))

def has (table : SymbolTable) (path : PathSpelling) (name : String) : Except Error Bool := do
  let found ← table.lookup path name
  pure found.isSome

def resolve (table : SymbolTable) (path : PathSpelling) (name : String) : Except Error Handle := do
  let path ← path.toPath
  match table.entries.find? (path, name) with
  | some handle => .ok handle
  | none => .error (.unresolved path name)

/-- The entity with a dotted name: the last piece is the short name. -/
def resolveQualified (table : SymbolTable) (name : String) : Except Error Handle :=
  let pieces := (Path.pieces name.toList).map String.ofList
  table.resolve (Path.spelled pieces.dropLast) (pieces.getLastD "")

def handles (table : SymbolTable) : List Handle := table.entries.values

/-- All dotted names in ascending order. -/
def list (table : SymbolTable) : List String :=
  (table.handles.map Handle.qualifiedName).mergeSort fun a b => decide (a ≤ b)

def size (table : SymbolTable) : Nat := table.entries.size

def clear : Action SymbolTable Unit := .put .empty

end SymbolTable

end UnaryNumeral
