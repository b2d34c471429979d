import UnaryNumeral.Proofs.AppendedDeclarations
import UnaryNumeral.Proofs.NotationHistory
import UnaryNumeral.Proofs.ReaderSteps
import UnaryNumeral.Proofs.StandardTables
import UnaryNumeral.Proofs.StrictRegistration

/-! What a text is read as depends on a few entries of the tables: those under the open paths and
the bare names of the text, those of its dotted names, the keys of its literals, and the encoders of
their scopes and of the default scope. Whatever else is declared or registered is never noticed. -/

namespace UnaryNumeral

namespace NotationTable

/-- What turns the numbers of a scope into terms. -/
def encoder? (table : NotationTable) (scope : String) : Option Encoder :=
  (table.interpreters.find? scope).map Interpreter.encode

theorem interpretValue_congr {table other : NotationTable} {scope : String}
    (agree : other.encoder? scope = table.encoder? scope) (span : Option Span) (value : Value) :
    other.interpretValue scope span value = table.interpretValue scope span value := by
  have opened (table : NotationTable) : table.interpretValue scope span value =
      match table.encoder? scope with
      | some encode => encode span value
      | none => .error (.unknownScope scope) := by
    unfold interpretValue interpreter encoder?
    cases table.interpreters.find? scope <;> rfl
  rw [opened, opened, agree]

/-- The term of a literal depends on the scope of its key, if it has one, and on the encoder of its
scope. -/
theorem elaborate_congr {table other : NotationTable} {text : String}
    {defaultScope : Option String}
    (keys : ∀ literal key, Literal.ofText? text.toList = some literal → literal.key = some key →
      other.scopeOfDelimiter key = table.scopeOfDelimiter key)
    (encoders : ∀ literal span scope, Literal.ofText? text.toList = some literal →
      table.scopeOfLiteral text span literal defaultScope = .ok scope →
      other.encoder? scope = table.encoder? scope) (span : Span) :
    other.elaborate text (some span) defaultScope =
      table.elaborate text (some span) defaultScope := by
  cases spelt : Literal.ofText? text.toList with
  | none => simp only [elaborate, spelt]
  | some literal =>
    have selects : other.scopeOfLiteral text span literal defaultScope =
        table.scopeOfLiteral text span literal defaultScope := by
      unfold scopeOfLiteral
      cases keyed : literal.key with
      | none => cases defaultScope <;> rfl
      | some key => exact keys literal key spelt keyed
    cases selected : table.scopeOfLiteral text span literal defaultScope with
    | error error =>
      simp only [elaborate, Option.getD_some, spelt, selects, selected]
      rfl
    | ok scope =>
      rw [elaborate_of_scopeOfLiteral spelt (selects.trans selected),
        elaborate_of_scopeOfLiteral spelt selected, interpret, interpret,
        interpretValue_congr (encoders literal span scope spelt selected)]

theorem encoder?_withInterpreter (table : NotationTable) (interpreter : Interpreter)
    {scope : String} (other : interpreter.scope ≠ scope) :
    (table.withInterpreter interpreter).encoder? scope = table.encoder? scope := by
  rw [encoder?, find?_withInterpreter, if_neg other.symm, encoder?]

theorem scopeOfDelimiter_withKey (table : NotationTable) (scope : String) {declared : Option String}
    {key : String} (other : declared ≠ some key) :
    (table.withKey scope declared).scopeOfDelimiter key = table.scopeOfDelimiter key := by
  cases declared with
  | none => rfl
  | some name =>
    have different : key ≠ name := fun same => other (congrArg some same.symm)
    rw [scopeOfDelimiter, find?_withKey, if_neg different, scopeOfDelimiter]

theorem encoder?_withKey (table : NotationTable) (scope : String) (declared : Option String)
    (name : String) : (table.withKey scope declared).encoder? name = table.encoder? name := by
  cases declared <;> rfl

end NotationTable

namespace SymbolTable

variable {before after : SymbolTable} {handles : List Handle}

theorem Appends.lookup_eq (appends : Appends before after handles) {spelling : PathSpelling}
    {name : String}
    (other : ∀ path, spelling.toPath = .ok path → ∀ handle ∈ handles, handle.path ≠ path) :
    after.lookup spelling name = before.lookup spelling name := by
  unfold lookup
  cases spelt : spelling.toPath with
  | error error => rfl
  | ok path =>
    apply congrArg Except.ok
    apply appends.find?_of_ne
    intro handle member same
    exact other path spelt handle member (congrArg Prod.fst same)

theorem Appends.resolve_eq (appends : Appends before after handles) {spelling : PathSpelling}
    {name : String} (other : ∀ path, spelling.toPath = .ok path →
      ∀ handle ∈ handles, (handle.path, handle.name) ≠ (path, name)) :
    after.resolve spelling name = before.resolve spelling name := by
  unfold SymbolTable.resolve
  cases spelt : spelling.toPath with
  | error error => rfl
  | ok path =>
    have found := appends.find?_of_ne (other path spelt)
    simp only [bind, Except.bind, found]

theorem Appends.resolveQualified_eq (appends : Appends before after handles) {name : String}
    (other : ∀ handle ∈ handles, handle.qualifiedName ≠ name) :
    after.resolveQualified name = before.resolveQualified name := by
  apply appends.resolve_eq
  intro path spelt handle member same
  obtain ⟨rfl, -⟩ := (Path.toPath_spelled_eq_ok_iff ..).mp spelt
  obtain ⟨under, last⟩ := Prod.mk.inj same
  apply other handle member
  rw [Handle.qualifiedName, under, last]
  exact Path.qualified_pieces name

end SymbolTable

/-- A call that changes tables. -/
inductive Tables.Call where
  | symbols (call : SymbolTable.Call)
  | notations (call : NotationTable.Call)
  | registration (call : Registration)

/-- The tables after a call, whether the call succeeds or fails. -/
def Tables.after (tables : Tables) : Call → Tables
  | .symbols call => tables.withSymbols (tables.symbols.after call)
  | .notations call => tables.withNotations (call.perform.run tables.notations).state
  | .registration call => tables.withNotations (call.perform.run tables.notations).state

namespace Reader

def withTables (reader : Reader) (tables : Tables) : Reader :=
  { reader with symbols := tables.symbols, notations := tables.notations }

/-- What the tokens of a text say. A text that cannot be cut into tokens says nothing. -/
def contents (reader : Reader) (text : String) : List (Lexeme × String) :=
  match Token.ofText text reader.source with
  | .ok tokens => tokens.map Token.content
  | .error _ => []

theorem content_mem_contents {reader : Reader} {text : String} {tokens : List Token} {token : Token}
    (cut : Token.ofText text reader.source = .ok tokens) (member : token ∈ tokens) :
    token.content ∈ reader.contents text := by
  rw [contents, cut]
  exact List.mem_map_of_mem member

/-- A literal of the text has the key. -/
def UsesKey (reader : Reader) (text key : String) : Prop :=
  ∃ word literal, (.numeral, word) ∈ reader.contents text ∧
    Literal.ofText? word.toList = some literal ∧ literal.key = some key

/-- The scope is the default one, or the one that the key of a literal of the text selects. -/
def UsesScope (reader : Reader) (text scope : String) : Prop :=
  reader.defaultScope = some scope ∨
    ∃ key, reader.UsesKey text key ∧ reader.notations.scopeOfDelimiter key = .ok scope

/-- Tables agree with those of a reader on all that matters for a text. -/
structure AgreesOn (reader : Reader) (text : String) (tables : Tables) : Prop where
  bare : ∀ name, (.name, name) ∈ reader.contents text → '.' ∉ name.toList →
    ∀ path ∈ reader.openPaths,
      tables.symbols.lookup (.segments path) name = reader.symbols.lookup (.segments path) name
  dotted : ∀ name, (.name, name) ∈ reader.contents text → '.' ∈ name.toList →
    tables.symbols.resolveQualified name = reader.symbols.resolveQualified name
  keys : ∀ key, reader.UsesKey text key →
    tables.notations.scopeOfDelimiter key = reader.notations.scopeOfDelimiter key
  encoders : ∀ scope, reader.UsesScope text scope →
    tables.notations.encoder? scope = reader.notations.encoder? scope

variable {reader : Reader} {text : String} {tables : Tables}

theorem AgreesOn.step (agree : reader.AgreesOn text tables) {tokens : List Token}
    (cut : Token.ofText text reader.source = .ok tokens) {token : Token} (member : token ∈ tokens)
    (nesting : Nesting) :
    (reader.withTables tables).step text nesting token = reader.step text nesting token := by
  have occurs : (token.lexeme, token.text) ∈ reader.contents text :=
    content_mem_contents cut member
  unfold Reader.step
  cases lexeme : token.lexeme with
  | blank => rfl
  | opening => rfl
  | closing => rfl
  | name =>
    rw [lexeme] at occurs
    have resolves : (reader.withTables tables).resolveName token.text token.span =
        reader.resolveName token.text token.span := by
      apply resolveName_congr
      · rfl
      · exact agree.bare token.text occurs
      · exact agree.dotted token.text occurs
    simp only [resolves]
  | numeral =>
    rw [lexeme] at occurs
    have elaborates : tables.notations.elaborate token.text (some token.span) reader.defaultScope =
        reader.notations.elaborate token.text (some token.span) reader.defaultScope := by
      apply NotationTable.elaborate_congr
      · intro literal key spelt keyed
        exact agree.keys key ⟨token.text, literal, occurs, spelt, keyed⟩
      · intro literal span scope spelt selected
        apply agree.encoders
        unfold NotationTable.scopeOfLiteral at selected
        split at selected
        · rename_i key keyed
          exact .inr ⟨key, ⟨token.text, literal, occurs, spelt, keyed⟩, selected⟩
        · rename_i scope default
          cases selected
          exact .inl default
        · cases selected
    simp only [withTables, elaborates]

theorem AgreesOn.foldlM (agree : reader.AgreesOn text tables) {tokens rest : List Token}
    (cut : Token.ofText text reader.source = .ok tokens) (inside : rest ⊆ tokens)
    (nesting : Nesting) :
    rest.foldlM ((reader.withTables tables).step text) nesting =
      rest.foldlM (reader.step text) nesting := by
  induction rest generalizing nesting with
  | nil => rfl
  | cons token rest ih =>
    obtain ⟨member, others⟩ := List.cons_subset.mp inside
    rw [List.foldlM_cons, List.foldlM_cons, agree.step cut member]
    exact bind_congr (ih others)

theorem AgreesOn.read (agree : reader.AgreesOn text tables) :
    (reader.withTables tables).read text = reader.read text := by
  have same : (reader.withTables tables).source = reader.source := rfl
  unfold Reader.read
  rw [same]
  cases cut : Token.ofText text reader.source with
  | error error => rfl
  | ok tokens =>
    have taken := agree.foldlM cut (List.Subset.refl tokens) {}
    change (tokens.foldlM ((reader.withTables tables).step text) {} >>=
        (reader.withTables tables).finish text) =
      (tokens.foldlM (reader.step text) {} >>= reader.finish text)
    rw [taken]
    rfl

def IsOpen (reader : Reader) (path : Path) : Prop :=
  ∃ values ∈ reader.openPaths, (PathSpelling.segments values).toPath = .ok path

/-- A call that has nothing to do with a text. What it declares lies under no open path and has a
dotted name that is none of the text; the scopes and the keys that it registers are not used. -/
def Foreign (reader : Reader) (text : String) : Tables.Call → Prop
  | .symbols call => call ≠ .clear ∧ ∀ path name, call.Declares path name →
      ¬ reader.IsOpen path ∧ (.name, path.qualified name) ∉ reader.contents text
  | .notations call => call ≠ .clear ∧
      (∀ interpreter, call.interpreter? = some interpreter →
        ¬ reader.UsesScope text interpreter.scope) ∧
      ∀ key scope, call.delimiter? = some (key, scope) → ¬ reader.UsesKey text key
  | .registration call => ¬ reader.UsesScope text call.scope ∧
      ∀ key, call.key = some key → ¬ reader.UsesKey text key

theorem agreesOn_refl (reader : Reader) (text : String) :
    reader.AgreesOn text ⟨reader.symbols, reader.notations⟩ where
  bare := fun _ _ _ _ _ => rfl
  dotted := fun _ _ _ => rfl
  keys := fun _ _ => rfl
  encoders := fun _ _ => rfl

/-- Handles under other paths, with dotted names that are none of the text, are not noticed. -/
theorem AgreesOn.appends (agree : reader.AgreesOn text tables) {after : SymbolTable}
    {handles : List Handle} (appends : SymbolTable.Appends tables.symbols after handles)
    (foreign : ∀ handle ∈ handles, ¬ reader.IsOpen handle.path ∧
      (.name, handle.qualifiedName) ∉ reader.contents text) :
    reader.AgreesOn text (tables.withSymbols after) where
  bare := by
    intro name occurs undotted path opened
    rw [← agree.bare name occurs undotted path opened]
    apply appends.lookup_eq
    intro found spelt handle member same
    exact (foreign handle member).1 ⟨path, opened, same ▸ spelt⟩
  dotted := by
    intro name occurs dot
    rw [← agree.dotted name occurs dot]
    apply appends.resolveQualified_eq
    intro handle member same
    exact (foreign handle member).2 (same ▸ occurs)
  keys := agree.keys
  encoders := agree.encoders

theorem AgreesOn.withInterpreter (agree : reader.AgreesOn text tables) {interpreter : Interpreter}
    (unused : ¬ reader.UsesScope text interpreter.scope) :
    reader.AgreesOn text
      (tables.withNotations (tables.notations.withInterpreter interpreter)) where
  bare := agree.bare
  dotted := agree.dotted
  keys := agree.keys
  encoders := by
    intro scope used
    rw [← agree.encoders scope used]
    apply NotationTable.encoder?_withInterpreter
    intro same
    exact unused (same ▸ used)

theorem AgreesOn.withKey (agree : reader.AgreesOn text tables) (scope : String)
    {declared : Option String}
    (unused : ∀ key, declared = some key → ¬ reader.UsesKey text key) :
    reader.AgreesOn text (tables.withNotations (tables.notations.withKey scope declared)) where
  bare := agree.bare
  dotted := agree.dotted
  keys := by
    intro key used
    rw [← agree.keys key used]
    apply NotationTable.scopeOfDelimiter_withKey
    intro same
    exact unused key same used
  encoders := by
    intro name used
    rw [← agree.encoders name used]
    exact NotationTable.encoder?_withKey ..

theorem AgreesOn.after (agree : reader.AgreesOn text tables) {call : Tables.Call}
    (foreign : reader.Foreign text call) : reader.AgreesOn text (tables.after call) := by
  cases call with
  | symbols call =>
    obtain ⟨kept, elsewhere⟩ := foreign
    obtain ⟨handles, appends, declared⟩ := tables.symbols.exists_appends_declared kept
    exact agree.appends appends fun handle member =>
      elsewhere handle.path handle.name (declared handle member)
  | notations call =>
    obtain ⟨kept, scopes, keys⟩ := foreign
    rw [Tables.after]
    cases call.does tables.notations with
    | nothing error failed =>
      rw [failed.state]
      exact agree
    | clears cleared done => exact absurd cleared kept
    | registers interpreter given keyless notClear room done =>
      rw [done.state]
      exact agree.withInterpreter (scopes interpreter given)
    | declares key scope given silent notClear spelt done =>
      rw [done.state]
      apply agree.withKey
      intro name same
      cases same
      exact keys key scope given
  | registration call =>
    obtain ⟨scope, keys⟩ := foreign
    rw [Tables.after]
    cases call.does tables.notations with
    | nothing error failed =>
      rw [failed.state]
      exact agree
    | stores codec given room error failed =>
      rw [failed.state]
      exact agree.withInterpreter scope
    | registers codec given room done =>
      rw [done.state]
      exact (agree.withInterpreter scope).withKey call.scope keys

theorem AgreesOn.after_all (agree : reader.AgreesOn text tables) {calls : List Tables.Call}
    (foreign : ∀ call ∈ calls, reader.Foreign text call) :
    reader.AgreesOn text (calls.foldl Tables.after tables) := by
  induction calls generalizing tables with
  | nil => exact agree
  | cons call rest ih =>
    obtain ⟨first, others⟩ := List.forall_mem_cons.mp foreign
    exact ih (agree.after first) others

/-- Reading is isolated from all but a few entries of the tables. With tables that agree on the bare
names of the text under the open paths, on its dotted names, on the keys of its literals and on the
encoders of their scopes and of the default scope, the outcome is the same, with the same spans or
the same error. So declarations elsewhere and registrations of other scopes and keys never change
how a text is read, however many they are and whether they succeed or fail. -/
theorem read_isolated (reader : Reader) (text : String) :
    (∀ tables, reader.AgreesOn text tables →
      (reader.withTables tables).read text = reader.read text) ∧
      ∀ calls : List Tables.Call, (∀ call ∈ calls, reader.Foreign text call) →
        (reader.withTables
          (calls.foldl Tables.after ⟨reader.symbols, reader.notations⟩)).read text =
            reader.read text := by
  refine ⟨fun tables agree => agree.read, ?_⟩
  intro calls foreign
  exact ((reader.agreesOn_refl text).after_all foreign).read

/-- With the standard tables: another `S` elsewhere, and another scope with a key of its own. -/
theorem read_isolated_standard :
    let text := "f (S 2%nat)"
    let calls : List Tables.Call :=
      [.symbols (.declare (.dotted "Other") (.text "S") .constant none),
        .registration (.register .standard "other_scope" (some "other"))]
    let left := calls.foldl Tables.after Tables.standard
    (∀ call ∈ calls, Reader.standard.Foreign text call) ∧
      left.symbols.size = Tables.standard.symbols.size + 1 ∧
      left.notations.hasInterpreter "other_scope" = true ∧
      (Reader.standard.withTables left).read text = Reader.standard.read text := by
  intro text calls left
  have contents : Reader.standard.contents text =
      [(.name, "f"), (.opening, "("), (.name, "S"), (.numeral, "2%nat"), (.closing, ")")] := by
    decide +kernel
  have keys : ∀ key, Reader.standard.UsesKey text key → key = standardKey := by
    intro key used
    obtain ⟨word, literal, occurs, spelt, keyed⟩ := used
    rw [contents] at occurs
    have numeral : word = "2%nat" := by simpa using occurs
    subst numeral
    have known : Literal.ofText? "2%nat".toList = some ⟨false, ['2'], some standardKey⟩ := by
      decide +kernel
    cases known.symm.trans spelt
    exact (Option.some.inj keyed).symm
  have elsewhere : Reader.standard.Foreign text
      (.symbols (.declare (.dotted "Other") (.text "S") .constant none)) := by
    refine ⟨by simp, ?_⟩
    intro path name declared
    obtain ⟨spelt, named⟩ := declared
    have other : (PathSpelling.dotted "Other").toPath = .ok ["Other"] := by
      rw [PathSpelling.toPath_eq_ok_iff]
      exact ⟨rfl, by decide +kernel⟩
    cases other.symm.trans spelt
    cases named
    constructor
    · intro opened
      obtain ⟨values, listed, reached⟩ := opened
      have only : values = libraryPath.map .text := List.mem_singleton.mp listed
      have spelt := PathSpelling.toPath_spelled libraryPath libraryPath_valid
      rw [only] at reached
      exact absurd (Except.ok.inj (spelt.symm.trans reached)) (by decide)
    · rw [contents]
      decide +kernel
  have unused : Reader.standard.Foreign text
      (.registration (.register .standard "other_scope" (some "other"))) := by
    constructor
    · intro used
      rcases used with default | ⟨key, used, selected⟩
      · exact absurd default (by decide)
      · rw [keys key used, NotationTable.scopeOfDelimiter_eq_ok_iff] at selected
        exact absurd selected (by decide +kernel)
    · intro key declared used
      cases declared
      exact absurd (keys _ used) (by decide)
  have foreign : ∀ call ∈ calls, Reader.standard.Foreign text call :=
    List.forall_mem_cons.mpr ⟨elsewhere, List.forall_mem_singleton.mpr unused⟩
  exact ⟨foreign, by decide +kernel, by decide +kernel,
    (read_isolated Reader.standard text).2 calls foreign⟩

end Reader

end UnaryNumeral
