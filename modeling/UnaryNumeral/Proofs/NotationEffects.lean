import UnaryNumeral.Environment
import UnaryNumeral.Proofs.Effects

/-! What the operations do to a notation table. Each one writes what it was asked to write, or it
fails and leaves the table as it was; only a registration, which writes twice, can fail between
the two. -/

namespace UnaryNumeral

/-- The interpreter that a codec becomes when it is registered for a scope. -/
def Codec.interpreterOf (codec : Codec) (scope : String) : Interpreter where
  scope := scope
  origin := ⟨codec.path.map .text, .text "Datatypes"⟩
  encode := codec.encoder
  printRefs := codec.printRefs.map .ofTerm
  decode := codec.decoder
  matchesTerms := true

namespace NotationTable

/-- The table with one more interpreter, in the scope of that interpreter. -/
def withInterpreter (table : NotationTable) (interpreter : Interpreter) : NotationTable :=
  { table with interpreters := table.interpreters.insert interpreter.scope interpreter }

def withKey (table : NotationTable) (scope : String) : Option String → NotationTable
  | some key => { table with delimiters := table.delimiters.insert key scope }
  | none => table

/-- A strict table refuses a second interpreter for a scope. -/
structure Refuses (table : NotationTable) (scope : String) : Prop where
  strict : table.policy = .strict
  taken : (table.interpreters.find? scope).isSome = true

/-- A key that may be declared; no key at all may be left out. -/
def Declarable (key : Option String) : Prop :=
  ∀ name, key = some name → Text.isIdentifier name.toList = true

theorem declarable_none : Declarable none := by
  intro name missing
  cases missing

theorem declarable_some {key : String} (spelt : Text.isIdentifier key.toList = true) :
    Declarable (some key) := by
  intro name same
  cases same
  exact spelt

variable {table : NotationTable} {scope : String}

theorem find?_withInterpreter (table : NotationTable) (interpreter : Interpreter)
    (scope : String) :
    (table.withInterpreter interpreter).interpreters.find? scope =
      if scope = interpreter.scope then some interpreter else table.interpreters.find? scope :=
  table.interpreters.find?_insert ..

theorem find?_withKey (table : NotationTable) (scope key name : String) :
    (table.withKey scope (some key)).delimiters.find? name =
      if name = key then some scope else table.delimiters.find? name :=
  table.delimiters.find?_insert ..

theorem makeRoom_fails (refuses : table.Refuses scope) (state : NotationTable) :
    (table.makeRoom scope).Fails state (.scopeTaken scope) state := by
  have strict := refuses.strict
  have taken : table.interpreters.contains scope = true := refuses.taken
  simp only [makeRoom, taken, ↓reduceIte, strict]
  exact .fail ..

theorem makeRoom_gives (room : ¬ table.Refuses scope) (state : NotationTable) :
    (table.makeRoom scope).Gives state () state := by
  unfold makeRoom
  split
  · rename_i taken
    cases policy : table.policy with
    | strict => exact absurd ⟨policy, taken⟩ room
    | replace => exact .note ..
  · exact .pure ..

section

variable (origin : Origin) (encode : Encoder) (printRefs : List Operand) (decode : Decoder)
  (matchesTerms : Bool)

theorem declareInterpreter_fails (refuses : table.Refuses scope) :
    (declareInterpreter scope origin (some encode) printRefs (some decode) matchesTerms).Fails table
      (.scopeTaken scope) table :=
  .after (.get _) (.bind (makeRoom_fails refuses _) _)

theorem declareInterpreter_gives (room : ¬ table.Refuses scope) :
    (declareInterpreter scope origin (some encode) printRefs (some decode) matchesTerms).Gives table
      ⟨scope, origin, encode, printRefs, decode, matchesTerms⟩
      (table.withInterpreter ⟨scope, origin, encode, printRefs, decode, matchesTerms⟩) :=
  .bind (.get _) (.bind (makeRoom_gives room _) (.bind (.put ..) (.bind (.note ..) (.pure ..))))

end

theorem declareDelimiter_fails {key : String} (other : Text.isIdentifier key.toList = false)
    (table : NotationTable) (scope : String) :
    (declareDelimiter scope key).Fails table (.invalidKey key) table := by
  simp only [declareDelimiter, other, Bool.false_eq_true, ↓reduceIte]
  exact .fail ..

theorem declareKey_gives {key : Option String} (declarable : Declarable key)
    (table : NotationTable) (scope : String) :
    (declareKey scope key).Gives table () (table.withKey scope key) := by
  cases key with
  | none => exact .pure ..
  | some name =>
    simp only [declareKey, declareDelimiter, declarable name rfl, ↓reduceIte]
    exact .bind (.get _) (.put ..)

/-- A registration is refused before it writes anything, or its key is invalid and the interpreter
is stored all the same, or it stores the interpreter and declares the key. -/
theorem register_cases (codec : Codec) (scope : String) (key : Option String)
    (table : NotationTable) :
    (table.Refuses scope ∧ (register codec scope key).Fails table (.scopeTaken scope) table) ∨
    (¬ table.Refuses scope ∧
      ∃ name, key = some name ∧ Text.isIdentifier name.toList = false ∧
        (register codec scope key).Fails table (.invalidKey name)
          (table.withInterpreter (codec.interpreterOf scope))) ∨
    (¬ table.Refuses scope ∧ Declarable key ∧
      (register codec scope key).Gives table (codec.interpreterOf scope)
        ((table.withInterpreter (codec.interpreterOf scope)).withKey scope key)) := by
  by_cases refuses : table.Refuses scope
  · exact .inl ⟨refuses, .bind (declareInterpreter_fails _ _ _ _ _ refuses) _⟩
  · have declared := declareInterpreter_gives ⟨codec.path.map .text, .text "Datatypes"⟩
      codec.encoder (codec.printRefs.map .ofTerm) codec.decoder true refuses
    have finishes (declarable : Declarable key) :
        (register codec scope key).Gives table (codec.interpreterOf scope)
          ((table.withInterpreter (codec.interpreterOf scope)).withKey scope key) :=
      .bind declared (.bind (declareKey_gives declarable ..) (.pure ..))
    cases key with
    | none => exact .inr (.inr ⟨refuses, declarable_none, finishes declarable_none⟩)
    | some name =>
      cases spelt : Text.isIdentifier name.toList with
      | true =>
        have declarable := declarable_some spelt
        exact .inr (.inr ⟨refuses, declarable, finishes declarable⟩)
      | false =>
        refine .inr (.inl ⟨refuses, name, rfl, spelt, ?_⟩)
        exact .after declared (.bind (declareDelimiter_fails spelt ..) _)

end NotationTable

namespace Codec

section

variable {settings : Settings} {spelling : Option PathSpelling} {path : Path}
  {table : SymbolTable}

theorem load_fails_of_path {error : Error}
    (misspelt : settings.resolutionPath spelling = .error error) :
    (load settings spelling).Fails table error table :=
  .bind (.ofExcept misspelt _) _

theorem load_fails_of_find {error : Error} (resolved : settings.resolutionPath spelling = .ok path)
    (unknown : find table path = .error error) :
    (load settings spelling).Fails table error table :=
  .after (.ofExcept resolved _) (.after (.get _) (.bind (.ofExcept unknown _) _))

theorem load_gives {codec : Codec} (resolved : settings.resolutionPath spelling = .ok path)
    (known : find table path = .ok codec) : (load settings spelling).Gives table codec table :=
  .bind (.ofExcept resolved _) (.bind (.get _)
    (.bind (.ofExcept known _) (.bind (.note ..) (.pure ..))))

end

theorem load_cases (settings : Settings) (path : Option PathSpelling) (table : SymbolTable) :
    (∃ error, (load settings path).Fails table error table) ∨
      ∃ codec, (load settings path).Gives table codec table := by
  cases resolved : settings.resolutionPath path with
  | error error => exact .inl ⟨error, load_fails_of_path resolved⟩
  | ok found =>
    cases known : find table found with
    | error error => exact .inl ⟨error, load_fails_of_find resolved known⟩
    | ok codec => exact .inr ⟨codec, load_gives resolved known⟩

end Codec

namespace Tables

variable {symbols : SymbolTable} {notations left : NotationTable} {settings : Settings}
  {path : Option PathSpelling} {scope : String} {codec : Codec}

theorem install_fails_of_load {error : Error}
    (failed : (Codec.load settings path).Fails symbols error symbols) (notations : NotationTable)
    (scope : String) :
    (install settings path scope).Fails ⟨symbols, notations⟩ error ⟨symbols, notations⟩ :=
  .bind (.within failed) _

theorem install_fails (loaded : (Codec.load settings path).Gives symbols codec symbols)
    {error : Error} (failed : (NotationTable.register codec scope).Fails notations error left) :
    (install settings path scope).Fails ⟨symbols, notations⟩ error ⟨symbols, left⟩ := by
  have found : (onSymbols (Codec.load settings path)).Gives ⟨symbols, notations⟩ codec
      ⟨symbols, notations⟩ := .within loaded
  have refused : (onNotations (NotationTable.register codec scope)).Fails ⟨symbols, notations⟩ error
      ⟨symbols, left⟩ := .within failed
  exact .after found (.bind refused _)

theorem install_gives (loaded : (Codec.load settings path).Gives symbols codec symbols)
    {interpreter : Interpreter}
    (done : (NotationTable.register codec scope).Gives notations interpreter left) :
    (install settings path scope).Gives ⟨symbols, notations⟩ (codec, interpreter)
      ⟨symbols, left⟩ := by
  have found : (onSymbols (Codec.load settings path)).Gives ⟨symbols, notations⟩ codec
      ⟨symbols, notations⟩ := .within loaded
  have registered : (onNotations (NotationTable.register codec scope)).Gives ⟨symbols, notations⟩
      interpreter ⟨symbols, left⟩ := .within done
  exact .bind found (.bind registered (.bind (.note ..) (.pure ..)))

end Tables

end UnaryNumeral
