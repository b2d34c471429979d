import UnaryNumeral.Printer
import UnaryNumeral.Proofs.NotationEffects
import UnaryNumeral.Reader

namespace UnaryNumeral

/-- The number type under a path. -/
def Codec.under (path : Path) : Codec where
  nat := ⟨.inductiveType, path, natName, none⟩
  zero := ⟨.constructor, path, zeroName, some 1⟩
  succ := ⟨.constructor, path, succName, some 2⟩

namespace NotationTable

/-- One scope and its key. -/
def under (path : Path) : NotationTable where
  interpreters :=
    OrderedMap.empty.insert standardScope ((Codec.under path).interpreterOf standardScope)
  delimiters := OrderedMap.empty.insert standardKey standardScope

variable {path : Path}

theorem find?_under {scope : String} {interpreter : Interpreter}
    (found : (under path).interpreters.find? scope = some interpreter) :
    scope = standardScope ∧ interpreter = (Codec.under path).interpreterOf standardScope := by
  rw [under, OrderedMap.find?_insert, OrderedMap.find?_empty] at found
  split at found
  · rename_i same
    cases found
    exact ⟨same, rfl⟩
  · cases found

theorem scopes_under : (under path).scopes = [standardScope] := by
  have keys : (under path).interpreters.keys = [standardScope] := rfl
  simp [scopes, keys]

end NotationTable

/-- The number type under its permanent path. -/
def Codec.standard : Codec := .under libraryPath

namespace Tables

def standard : Tables := ((bootstrap {}).run {}).state

theorem standard_notations : standard.notations = .under libraryPath := rfl

theorem standard_find? {scope : String} {interpreter : Interpreter}
    (found : standard.notations.interpreters.find? scope = some interpreter) :
    scope = standardScope ∧ interpreter = Codec.standard.interpreterOf standardScope :=
  NotationTable.find?_under (standard_notations ▸ found)

theorem standard_scopes : standard.notations.scopes = [standardScope] :=
  NotationTable.scopes_under

end Tables

/-- Reads with the standard tables, the path of the number type open and its scope by default. -/
def Reader.standard : Reader :=
  .ofPaths Tables.standard.symbols Tables.standard.notations [libraryPath.spelled]
    (some standardScope)

/-- The standard reader, with another encoder for its literals. -/
def Reader.encodedBy (encode : Encoder) : Reader where
  symbols := Tables.standard.symbols
  notations := Tables.standard.notations.withInterpreter
    { Codec.standard.interpreterOf standardScope with encode := encode }
  openPaths := Reader.standard.openPaths
  defaultScope := some standardScope

theorem exists_ok_of_isSome {ε α : Type} {result : Except ε α}
    (succeeds : result.toOption.isSome = true) : ∃ value, result = .ok value := by
  cases result with
  | ok value => exact ⟨value, rfl⟩
  | error error => cases succeeds

end UnaryNumeral
