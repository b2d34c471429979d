import UnaryNumeral.Path.Spelling

namespace UnaryNumeral

/-- The permanent path of the number type. -/
def libraryPath : Path := ["Coq", "Init", "Datatypes"]

/-- The path of the number type while its module is still being written. -/
def developmentPath : Path := ["Top"]

def natName : String := "nat"
def zeroName : String := "O"
def succName : String := "S"

/-- The scope of the numerals and its delimiter key, where nothing else is said. -/
def standardScope : String := "nat_scope"
def standardKey : String := "nat"

/-- What the surroundings say: a dotted path, and a switch that is on when it reads `1`. -/
structure Settings where
  path : Option String := none
  development : Option String := none

namespace Settings

def isDevelopment (settings : Settings) : Bool := settings.development = some "1"

/-- The path in effect: an explicit one, else the one of the settings unless it is empty, else
the development path if the switch is on, else the permanent one. -/
def resolutionPath (settings : Settings) (explicit : Option PathSpelling := none) :
    Except Error Path :=
  match explicit with
  | some spelling => spelling.toPath
  | none =>
    match settings.path.filter (· ≠ "") with
    | some path => (PathSpelling.dotted path).toPath
    | none => .ok (if settings.isDevelopment then developmentPath else libraryPath)

end Settings

end UnaryNumeral
