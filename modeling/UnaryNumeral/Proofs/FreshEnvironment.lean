import UnaryNumeral.Proofs.Declarations
import UnaryNumeral.Proofs.Recognition
import UnaryNumeral.Proofs.Relocation
import UnaryNumeral.Proofs.StandardTables

/-! The number type under a path, declared in a table and found there again, and the environment
that a bootstrap builds from nothing, whatever path it is given: the number type under that path,
one scope with its codec, one key. -/

namespace UnaryNumeral

def SymbolTable.under (path : Path) : SymbolTable :=
  ((empty.extend (Codec.under path).nat).extend (Codec.under path).zero).extend
    (Codec.under path).succ

def Environment.under (path : Path) : Environment where
  tables := ⟨.under path, .under path⟩
  codec := .under path
  openPaths := [path]

namespace SymbolTable

def withNumbers (table : SymbolTable) (path : Path) : SymbolTable :=
  ((table.extend (Codec.under path).nat).extend (Codec.under path).zero).extend
    (Codec.under path).succ

theorem find?_withNumbers (table : SymbolTable) (path : Path) (key : Path × String) :
    (table.withNumbers path).entries.find? key =
      if key = (path, succName) then some (Codec.under path).succ
      else if key = (path, zeroName) then some (Codec.under path).zero
      else if key = (path, natName) then some (Codec.under path).nat
      else table.entries.find? key := by
  simp only [withNumbers, find?_extend]
  rfl

theorem find?_under (path : Path) (key : Path × String) :
    (under path).entries.find? key =
      if key = (path, succName) then some (Codec.under path).succ
      else if key = (path, zeroName) then some (Codec.under path).zero
      else if key = (path, natName) then some (Codec.under path).nat
      else none := empty.find?_withNumbers path key

theorem declareNat_gives {table : SymbolTable} {spelling : PathSpelling} {path : Path}
    (spelt : spelling.toPath = .ok path)
    (free : ∀ name ∈ [natName, zeroName, succName], table.Free path name) :
    (declareNat spelling).Gives table
      ((Codec.under path).nat, [(Codec.under path).zero, (Codec.under path).succ])
      (table.withNumbers path) := declareInductive_gives spelt (by decide) free

theorem declareNat_cases (spelling : PathSpelling) (table : SymbolTable) :
    (∃ error, (declareNat spelling).Fails table error table) ∨
    ∃ path, spelling.toPath = .ok path ∧
      ∀ name ∈ [natName, zeroName, succName], table.Free path name := by
  rcases declareInductive_cases spelling (.text natName) [.text zeroName, .text succName] table with
    failed | ⟨path, type, names, spelt, typeNamed, constructorsNamed, -, free⟩
  · exact .inl failed
  · cases typeNamed
    have same : [zeroName, succName] = names :=
      (List.map_inj_right fun _ _ => Value.text.inj).mp constructorsNamed
    subst same
    exact .inr ⟨path, spelt, free⟩

theorem free_empty (path : Path) :
    ∀ name ∈ [natName, zeroName, succName], empty.Free path name := by
  have short : ∀ name ∈ [natName, zeroName, succName], isShortName name = true := by decide
  intro name member
  exact ⟨(isShortName_iff name).mp (short name member), OrderedMap.find?_empty _⟩

end SymbolTable

namespace Codec

variable {path : Path} (valid : ∀ segment ∈ path, Path.isSegment segment = true)
include valid

theorem find_withNumbers (table : SymbolTable) :
    find (table.withNumbers path) path = .ok (under path) := by
  have spelt := PathSpelling.toPath_spelled path valid
  have resolves (name : String) (handle : Handle)
      (found : (table.withNumbers path).entries.find? (path, name) = some handle) :
      (table.withNumbers path).resolve path.spelled name = .ok handle :=
    (SymbolTable.resolve_eq_ok_iff ..).mpr ⟨path, spelt, found⟩
  have nat := resolves natName (under path).nat (by
    simp [SymbolTable.find?_withNumbers, natName, zeroName, succName])
  have zero := resolves zeroName (under path).zero (by
    simp [SymbolTable.find?_withNumbers, zeroName, succName])
  have succ := resolves succName (under path).succ (by simp [SymbolTable.find?_withNumbers])
  rw [find, nat, zero, succ]
  rfl

/-- The codec of a number type that was declared is found, whatever else the table holds. -/
theorem load_withNumbers (settings : Settings) (table : SymbolTable) :
    (load settings (some path.spelled)).Gives (table.withNumbers path) (under path)
      (table.withNumbers path) := by
  have resolved : settings.resolutionPath (some path.spelled) = .ok path :=
    PathSpelling.toPath_spelled path valid
  exact load_gives resolved (find_withNumbers valid table)

end Codec

namespace NotationTable

theorem register_fresh (path : Path) :
    (register (.under path)).Gives {} ((Codec.under path).interpreterOf standardScope)
      (.under path) := ⟨rfl, rfl⟩

variable {path : Path}

theorem uninterpret_under (term : Term) :
    (under path).uninterpret term [standardScope] =
      ((Codec.under path).decode term).map fun n => (Int.ofNat n, standardScope) :=
  @uninterpret_of_interpreterOf (under path) standardScope (.under path) rfl term

/-- What a literal is elaborated to is the numeral of its number. -/
theorem elaborate_under {text : String} {span : Span} {defaultScope : Option String} {term : Term}
    (elaborated : (under path).elaborate text (some span) defaultScope = .ok term) :
    ∃ literal, Literal.ofText? text.toList = some literal ∧
      literal.digits.length ≤ Literal.digitLimit ∧ 0 ≤ literal.value ∧
      term = (Codec.under path).numeral span literal.value.toNat := by
  obtain ⟨literal, scope, interpreter, spelt, -, few, found, encoded⟩ :=
    (elaborate_eq_ok_iff ..).mp elaborated
  rw [(find?_under found).2] at encoded
  obtain ⟨positive, same⟩ := ((Codec.under path).encode_eq_ok_iff ..).mp encoded
  exact ⟨literal, spelt, few, positive, same⟩

end NotationTable

namespace Tables

section

variable {settings : Settings} {spelling : Option PathSpelling} {tables : Tables} {path : Path}
  {left : NotationTable} (resolved : settings.resolutionPath spelling = .ok path)
  (free : ∀ name ∈ [natName, zeroName, succName], tables.symbols.Free path name)
include resolved free

theorem declareNat_gives :
    (onSymbols (SymbolTable.declareNat path.spelled)).Gives tables
      ((Codec.under path).nat, [(Codec.under path).zero, (Codec.under path).succ])
      ⟨tables.symbols.withNumbers path, tables.notations⟩ := by
  have valid := Settings.resolutionPath_valid resolved
  exact .within (SymbolTable.declareNat_gives (PathSpelling.toPath_spelled path valid) free)

/-- Where the names of the number type are free under the path in effect, a bootstrap declares it;
if then its codec cannot be registered, the declaration stays. -/
theorem bootstrap_fails {error : Error}
    (refused : (NotationTable.register (.under path)).Fails tables.notations error left) :
    (bootstrap settings spelling).Fails tables error ⟨tables.symbols.withNumbers path, left⟩ := by
  have loaded := Codec.load_withNumbers (Settings.resolutionPath_valid resolved) settings
    tables.symbols
  exact .after (.ofExcept resolved _) (.after (declareNat_gives resolved free)
    (.bind (install_fails loaded refused) _))

theorem bootstrap_gives {interpreter : Interpreter}
    (registered : (NotationTable.register (.under path)).Gives tables.notations interpreter left) :
    (bootstrap settings spelling).Gives tables
      { tables := ⟨tables.symbols.withNumbers path, left⟩
        codec := .under path
        openPaths := [path] }
      ⟨tables.symbols.withNumbers path, left⟩ := by
  have loaded := Codec.load_withNumbers (Settings.resolutionPath_valid resolved) settings
    tables.symbols
  exact .bind (.ofExcept resolved _) (.bind (declareNat_gives resolved free)
    (.bind (install_gives loaded registered) (.bind (.get _) (.pure ..))))

end

/-- From nothing, a bootstrap under a path never fails, and what it builds depends on the path
alone. -/
theorem bootstrap_fresh {path : Path}
    (valid : ∀ segment ∈ path, Path.isSegment segment = true) (settings : Settings) :
    (bootstrap settings (some path.spelled)).Gives {} (.under path) ⟨.under path, .under path⟩ :=
  bootstrap_gives (PathSpelling.toPath_spelled path valid) (SymbolTable.free_empty path)
    (NotationTable.register_fresh path)

end Tables

end UnaryNumeral
