import UnaryNumeral.Proofs.FreshEnvironment

/-! What a registration or a bootstrap leaves behind when it fails. Each one checks and writes more
than once. A failure before the first write leaves everything as it was; a failure between two
writes leaves the first of them in place. -/

namespace UnaryNumeral

namespace NotationTable

/-- Why a registration can fail, and the table that it then leaves: a strict table has refused the
scope and is unchanged, or the key is no identifier, and the interpreter is stored all the same. -/
theorem register_failure {codec : Codec} {scope : String} {key : Option String}
    {table : NotationTable} {error : Error}
    (failed : ((register codec scope key).run table).result = .error error) :
    table.Refuses scope ∧ error = .scopeTaken scope ∧
        ((register codec scope key).run table).state = table ∨
      ¬ table.Refuses scope ∧ ∃ name, key = some name ∧
        Text.isIdentifier name.toList = false ∧ error = .invalidKey name ∧
        ((register codec scope key).run table).state =
          table.withInterpreter (codec.interpreterOf scope) := by
  rcases register_cases codec scope key table with
    ⟨refuses, refused⟩ | ⟨room, name, given, other, invalid⟩ | ⟨-, -, done⟩
  · exact .inl ⟨refuses, refused.error_eq failed, refused.state⟩
  · exact .inr ⟨room, name, given, other, invalid.error_eq failed, invalid.state⟩
  · cases failed.symm.trans done.result

end NotationTable

namespace Tables

/-- A bootstrap is going to stop half way: the number type can be declared under the path in effect,
but a strict table has an interpreter for the standard scope. -/
structure Strands (settings : Settings) (spelling : Option PathSpelling) (tables : Tables)
    (path : Path) : Prop where
  resolved : settings.resolutionPath spelling = .ok path
  free : ∀ name ∈ [natName, zeroName, succName], tables.symbols.Free path name
  refuses : tables.notations.Refuses standardScope

variable {settings : Settings} {spelling : Option PathSpelling} {tables : Tables}

theorem Strands.fails {path : Path} (strands : Strands settings spelling tables path) :
    (bootstrap settings spelling).Fails tables (.scopeTaken standardScope)
      ⟨tables.symbols.withNumbers path, tables.notations⟩ := by
  rcases NotationTable.register_cases (.under path) standardScope (some standardKey)
    tables.notations with ⟨-, refused⟩ | ⟨room, -⟩ | ⟨room, -⟩
  · exact bootstrap_fails strands.resolved strands.free refused
  · exact absurd strands.refuses room
  · exact absurd strands.refuses room

/-- In all other cases a bootstrap succeeds, or it fails and changes nothing. -/
theorem bootstrap_cases (apart : ∀ path, ¬ Strands settings spelling tables path) :
    (∃ error, (bootstrap settings spelling).Fails tables error tables) ∨
      ∃ environment left, (bootstrap settings spelling).Gives tables environment left := by
  cases resolved : settings.resolutionPath spelling with
  | error error => exact .inl ⟨error, .bind (.ofExcept resolved _) _⟩
  | ok path =>
    rcases SymbolTable.declareNat_cases path.spelled tables.symbols with
      ⟨error, failed⟩ | ⟨found, spelt, free⟩
    · exact .inl ⟨error, .after (.ofExcept resolved _) (.bind (.within failed) _)⟩
    · obtain ⟨rfl, -⟩ := (Path.toPath_spelled_eq_ok_iff ..).mp spelt
      rcases NotationTable.register_cases (.under found) standardScope (some standardKey)
        tables.notations with ⟨refuses, -⟩ | ⟨-, name, same, other, -⟩ | ⟨-, -, registered⟩
      · exact absurd ⟨resolved, free, refuses⟩ (apart found)
      · cases same
        cases other
      · exact .inr ⟨_, _, bootstrap_gives resolved free registered⟩

/-- What is left behind a failure, whatever the tables held before. A registration that a strict
table refuses changes nothing. One that fails on its key has stored the interpreter, under either
policy. A bootstrap that fails changes nothing, unless the failure comes after the number type was
declared, which then stays declared: that is when a strict table refuses its codec. -/
theorem state_after_failure (tables : Tables) (codec : Codec) (scope : String)
    (key : Option String) (settings : Settings) (spelling : Option PathSpelling) :
    (∀ error, ((NotationTable.register codec scope key).run tables.notations).result =
        .error error →
      tables.notations.Refuses scope ∧ error = .scopeTaken scope ∧
          ((NotationTable.register codec scope key).run tables.notations).state =
            tables.notations ∨
        ¬ tables.notations.Refuses scope ∧ ∃ name, key = some name ∧
          Text.isIdentifier name.toList = false ∧ error = .invalidKey name ∧
          ((NotationTable.register codec scope key).run tables.notations).state =
            tables.notations.withInterpreter (codec.interpreterOf scope)) ∧
    ∀ error, ((bootstrap settings spelling).run tables).result = .error error →
      (∀ path, ¬ Strands settings spelling tables path) ∧
          ((bootstrap settings spelling).run tables).state = tables ∨
        ∃ path, Strands settings spelling tables path ∧ error = .scopeTaken standardScope ∧
          ((bootstrap settings spelling).run tables).state =
            ⟨tables.symbols.withNumbers path, tables.notations⟩ := by
  refine ⟨fun error => NotationTable.register_failure, ?_⟩
  intro error failed
  by_cases stranded : ∃ path, Strands settings spelling tables path
  · obtain ⟨path, strands⟩ := stranded
    have refused := strands.fails
    exact .inr ⟨path, strands, refused.error_eq failed, refused.state⟩
  · have apart := not_exists.mp stranded
    rcases bootstrap_cases apart with ⟨_, unchanged⟩ | ⟨environment, left, done⟩
    · exact .inl ⟨apart, unchanged.state⟩
    · cases failed.symm.trans done.result

/-- No symbols, and a strict notation table with an interpreter for the standard scope. -/
def strict : Tables := { notations := { standard.notations with policy := .strict } }

/-- Refused from the start, a registration and a bootstrap change nothing. -/
theorem state_after_refusal :
    let tables : Tables := ⟨standard.symbols, strict.notations⟩
    let registered := (NotationTable.register .standard standardScope (some "1x")).run
      tables.notations
    let bootstrapped := (bootstrap {}).run tables
    registered.result = .error (.scopeTaken standardScope) ∧
      registered.state = tables.notations ∧
      bootstrapped.result = .error (.alreadyDeclared libraryPath natName) ∧
      bootstrapped.state = tables := by
  intro tables registered bootstrapped
  have refused : registered.result = .error (.scopeTaken standardScope) := rfl
  have declared : bootstrapped.result = .error (.alreadyDeclared libraryPath natName) := rfl
  obtain ⟨afterRegister, afterBootstrap⟩ :=
    state_after_failure tables .standard standardScope (some "1x") {} none
  refine ⟨refused, ?_, declared, ?_⟩
  · rcases afterRegister _ refused with ⟨-, -, same⟩ | ⟨-, name, -, -, invalid, -⟩
    · exact same
    · cases invalid
  · rcases afterBootstrap _ declared with ⟨-, same⟩ | ⟨path, -, taken, -⟩
    · exact same
    · cases taken

/-- Stopped half way, they leave a trace: an interpreter whose key was refused, and a number type
whose numerals were refused. -/
theorem trace_after_failure :
    ((NotationTable.register .standard standardScope (some "1x")).run {}).result =
        .error (.invalidKey "1x") ∧
      NotationTable.hasInterpreter {} standardScope = false ∧
      ((NotationTable.register .standard standardScope (some "1x")).run {}).state.hasInterpreter
        standardScope = true ∧
      ((bootstrap {}).run strict).result = .error (.scopeTaken standardScope) ∧
      strict.symbols.size = 0 ∧
      ((bootstrap {}).run strict).state.symbols.size = 3 := ⟨rfl, rfl, rfl, rfl, rfl, rfl⟩

end Tables

end UnaryNumeral
