import UnaryNumeral.Proofs.DottedNames
import UnaryNumeral.Proofs.LiteralOutcomes
import UnaryNumeral.Proofs.ReaderInvariant

/-! How reading fails. Every error has a title, with one exception: a literal that has a scope and
too many digits, once the reader gets to it. -/

namespace UnaryNumeral

/-- The error is one that a report can show. -/
def Error.IsTitled (error : Error) : Prop := ∃ title, error.title? = some title

/-- The error is that of a name that is not declared. -/
def Error.IsUnresolved (error : Error) : Prop :=
  ∃ path name, error = .unresolved path name ∨ error = .unknownName path name

theorem Error.IsUnresolved.isTitled {error : Error} (unresolved : error.IsUnresolved) :
    error.IsTitled := by
  obtain ⟨path, name, rfl | rfl⟩ := unresolved
  · exact ⟨_, rfl⟩
  · exact ⟨_, rfl⟩

namespace NotationTable

/-- The text is a literal, its scope is determined, and it has more digits than a literal may
have. -/
def Overlong (table : NotationTable) (text : String) (defaultScope : Option String) : Prop :=
  ∃ literal scope, Literal.ofText? text.toList = some literal ∧
    table.Selects literal defaultScope scope ∧ Literal.digitLimit < literal.digits.length

variable {table : NotationTable} {text : String} {defaultScope : Option String}

theorem Overlong.elaborate (overlong : table.Overlong text defaultScope) (span : Option Span) :
    ∃ count, table.elaborate text span defaultScope = .error (.tooManyDigits count) := by
  obtain ⟨literal, scope, spelt, selects, many⟩ := overlong
  refine ⟨literal.digits.length, ?_⟩
  rw [← elaborate_getD, elaborate_of_scopeOfLiteral spelt
    ((table.scopeOfLiteral_eq_ok_iff ..).mpr selects), if_pos many]

/-- Everything that can be wrong with a literal at a place. -/
inductive Rejects (table : NotationTable) (text : String) (defaultScope : Option String)
    (span : Span) : Error → Prop where
  | notDecimal : Rejects table text defaultScope span (.malformed text span .notDecimal)
  | noScope : Rejects table text defaultScope span (.malformed text span .noScope)
  | unknownScope (scope : String) : Rejects table text defaultScope span (.unknownScope scope)
  | tooManyDigits (count : Nat) (overlong : table.Overlong text defaultScope) :
      Rejects table text defaultScope span (.tooManyDigits count)
  | negativeNumeral : Rejects table text defaultScope span (.negativeNumeral (some span))

/-- With codecs for interpreters nothing else is wrong with a literal that is not elaborated. -/
theorem rejects_of_elaborate (numerals : table.EncodesNumerals) {span : Option Span}
    {error : Error} (failed : table.elaborate text span defaultScope = .error error) :
    table.Rejects text defaultScope (span.getD ⟨0, text.length, none⟩) error := by
  rw [← elaborate_getD] at failed
  cases (elaborate_eq_iff numerals ..).mp failed with
  | notDecimal => exact .notDecimal
  | noScope => exact .noScope
  | unknownKey | unknownScope => exact .unknownScope _
  | tooManyDigits inScope many =>
    have spelt := (Literal.ofText?_eq_some_iff ..).mpr inScope.spells
    exact .tooManyDigits _ ⟨_, _, spelt, inScope.selects, many⟩
  | negative => exact .negativeNumeral

theorem isTitled_or_overlong_of_elaborate (numerals : table.EncodesNumerals) {span : Option Span}
    {error : Error} (failed : table.elaborate text span defaultScope = .error error) :
    error.IsTitled ∨ table.Overlong text defaultScope ∧ ∃ count, error = .tooManyDigits count := by
  cases rejects_of_elaborate numerals failed with
  | notDecimal => exact .inl ⟨_, rfl⟩
  | noScope => exact .inl ⟨_, rfl⟩
  | unknownScope scope => exact .inl ⟨_, rfl⟩
  | negativeNumeral => exact .inl ⟨_, rfl⟩
  | tooManyDigits count overlong => exact .inr ⟨overlong, count, rfl⟩

end NotationTable

namespace Reader

variable {reader : Reader}

/-- The open paths are paths, and the numerals are those of codecs. -/
structure Ready (reader : Reader) : Prop where
  paths : ∀ path ∈ reader.openPaths, ∃ found, (PathSpelling.segments path).toPath = .ok found
  numerals : reader.notations.EncodesNumerals

theorem findOpen_succeeds {paths : List (List Value)}
    (spelt : ∀ path ∈ paths, ∃ found, (PathSpelling.segments path).toPath = .ok found) (name : String) :
    ∃ hit, reader.findOpen name paths = .ok hit := by
  induction paths with
  | nil => exact ⟨none, rfl⟩
  | cons path rest ih =>
    obtain ⟨⟨found, first⟩, later⟩ := List.forall_mem_cons.mp spelt
    have looked : reader.symbols.lookup (.segments path) name =
        .ok (reader.symbols.entries.find? (found, name)) := by
      rw [SymbolTable.lookup, first]
      rfl
    rw [findOpen, looked]
    cases hit : reader.symbols.entries.find? (found, name) with
    | some handle => exact ⟨some handle, rfl⟩
    | none => exact ih later

/-- The name of a token that is not resolved is unknown: the look-up of its pieces cannot find fault
with them. -/
theorem isUnresolved_of_resolveName (ready : reader.Ready) {token : Token} (exact : token.Exact)
    (lexeme : token.lexeme = .name) {span : Span} {error : Error}
    (failed : reader.resolveName token.text span = .error error) : error.IsUnresolved := by
  unfold resolveName at failed
  split at failed
  · simp only [bind_eq_error_iff] at failed
    rcases failed with unresolved | ⟨handle, -, impossible⟩
    · have segments : ∀ segment ∈ ((Path.pieces token.text.toList).map String.ofList).dropLast,
          Path.isSegment segment = true := by
        intro segment member
        obtain ⟨piece, listed, rfl⟩ := List.mem_map.mp (List.dropLast_subset _ member)
        have named := exact.isName_of_mem_pieces lexeme listed
        exact (Path.isSegment_iff _).mpr (Text.shortName_of_isName named).segment
      have spelt := PathSpelling.toPath_spelled _ segments
      unfold SymbolTable.resolveQualified SymbolTable.resolve at unresolved
      simp only [spelt, bind_eq_error_iff] at unresolved
      rcases unresolved with impossible | ⟨path, -, missing⟩
      · cases impossible
      · split at missing
        · cases missing
        · cases missing
          exact ⟨_, _, .inl rfl⟩
    · cases impossible
  · obtain ⟨hit, searched⟩ := findOpen_succeeds ready.paths token.text
    rw [searched] at failed
    simp only [bind_eq_error_iff] at failed
    rcases failed with impossible | ⟨found, same, rest⟩
    · cases impossible
    · cases same
      cases hit with
      | some handle => cases rest
      | none =>
        simp only at rest
        split at rest
        · cases rest
        · split at rest
          · cases rest
            exact ⟨_, _, .inr rfl⟩
          · rename_i path others opened
            obtain ⟨first, spelt⟩ := ready.paths path (by simp [opened])
            simp only [spelt, bind_eq_error_iff] at rest
            rcases rest with impossible | ⟨_, -, unknown⟩
            · cases impossible
            · cases unknown
              exact ⟨_, _, .inr rfl⟩

theorem isTitled_or_overlong_of_step (ready : reader.Ready) {text : String} {nesting : Nesting}
    {token : Token} (exact : token.Exact) {error : Error}
    (failed : reader.step text nesting token = .error error) :
    error.IsTitled ∨ token.lexeme = .numeral ∧
      reader.notations.Overlong token.text reader.defaultScope ∧
      ∃ count, error = .tooManyDigits count := by
  unfold step at failed
  cases lexeme : token.lexeme with
  | blank => exact absurd lexeme exact.1
  | opening =>
    simp only [lexeme] at failed
    cases failed
  | closing =>
    simp only [lexeme] at failed
    split at failed
    · cases failed
    · cases failed
      exact .inl ⟨_, rfl⟩
  | numeral =>
    simp only [lexeme, bind_eq_error_iff] at failed
    rcases failed with refused | ⟨term, -, impossible⟩
    · rcases NotationTable.isTitled_or_overlong_of_elaborate ready.numerals refused with
        titled | overlong
      · exact .inl titled
      · exact .inr ⟨rfl, overlong⟩
    · cases impossible
  | name =>
    simp only [lexeme, bind_eq_error_iff] at failed
    rcases failed with refused | ⟨term, -, impossible⟩
    · exact .inl (isUnresolved_of_resolveName ready exact lexeme refused).isTitled
    · cases impossible

/-- Tokens that a reader can take one after another: atoms that stand for terms, and parentheses that
open a group. -/
inductive Takes (reader : Reader) : List Token → Prop where
  | nil : Takes reader []
  | atom {before : List Token} {part : Phrase} {term : Term} (earlier : Takes reader before)
      (derivation : reader.DerivesAtom part term) : Takes reader (before ++ part.tokens)
  | opening {before : List Token} {token : Token} (earlier : Takes reader before)
      (lexeme : token.lexeme = .opening) : Takes reader (before ++ [token])

theorem Takes.foldlM_eq_ok {tokens : List Token} (takes : reader.Takes tokens) (text : String) :
    ∃ nesting, tokens.foldlM (reader.step text) {} = .ok nesting := by
  induction takes with
  | nil => exact ⟨{}, rfl⟩
  | atom earlier derivation ih =>
    obtain ⟨nesting, taken⟩ := ih
    rw [foldlM_append_of_eq_ok taken]
    exact ⟨_, derivation.foldlM_eq text nesting⟩
  | opening earlier lexeme ih =>
    obtain ⟨nesting, taken⟩ := ih
    rw [foldlM_append_of_eq_ok taken]
    exact ⟨_, foldlM_cons_of_moves (.opening lexeme) []⟩

theorem Takes.atoms {before : List Token} {parts : List Phrase} {terms : List Term}
    (earlier : reader.Takes before) (derivation : reader.DerivesAtoms parts terms) :
    reader.Takes (before ++ Phrase.tokensAll parts) := by
  induction parts generalizing before terms with
  | nil => simpa [Phrase.tokensAll] using earlier
  | cons part rest ih =>
    cases derivation with
    | cons first others =>
      have later := ih (.atom earlier first) others
      simpa [Phrase.tokensAll] using later

/-- The tokens that led to a stack of open groups: by induction on the stack, whose groups hold
atoms and were opened by parentheses. -/
theorem Covers.takes {group : Group} {outer : List Group} {behind tokens : List Token}
    (covers : reader.Covers group outer behind tokens) :
    ∃ taken, tokens = taken ++ behind ∧ reader.Takes taken := by
  induction covers with
  | @outermost group parts behind outside holds =>
    exact ⟨_, rfl, Takes.nil.atoms holds.atoms⟩
  | @nested inner group outer opening parts behind before around opens place holds ih =>
    obtain ⟨taken, rfl, earlier⟩ := ih
    have opened := (Takes.opening earlier opens).atoms holds.atoms
    exact ⟨_, by simp, opened⟩

/-- The steps of the reader get through just the tokens that it can take. -/
theorem foldlM_succeeds_iff_takes (text : String) (tokens : List Token) :
    (∃ nesting, tokens.foldlM (reader.step text) {} = .ok nesting) ↔ reader.Takes tokens := by
  constructor
  · intro taken
    obtain ⟨nesting, taken⟩ := taken
    obtain ⟨covers, -⟩ := reached_of_foldlM taken
    obtain ⟨whole, same, takes⟩ := covers.takes
    rw [List.append_nil] at same
    exact same ▸ takes
  · intro takes
    exact takes.foldlM_eq_ok text

theorem exists_step_of_foldlM {text : String} {nesting : Nesting} {tokens : List Token}
    {error : Error} (failed : tokens.foldlM (reader.step text) nesting = .error error) :
    ∃ before token after middle, tokens = before ++ token :: after ∧
      before.foldlM (reader.step text) nesting = .ok middle ∧
      reader.step text middle token = .error error := by
  induction tokens generalizing nesting with
  | nil => cases failed
  | cons token rest ih =>
    rw [List.foldlM_cons, bind_eq_error_iff] at failed
    rcases failed with here | ⟨next, stepped, later⟩
    · exact ⟨[], token, rest, nesting, rfl, rfl, here⟩
    · obtain ⟨before, stop, after, middle, rfl, passed, refused⟩ := ih later
      refine ⟨token :: before, stop, after, middle, rfl, ?_, refused⟩
      rw [List.foldlM_cons, stepped]
      exact passed

/-- Going from left to right, the reader gets to an overlong literal and takes everything in front of
it. -/
def ReachesOverlong (reader : Reader) (text : String) : Prop :=
  ∃ before token after, Token.ofText text reader.source = .ok (before ++ token :: after) ∧
    reader.Takes before ∧ token.lexeme = .numeral ∧
    reader.notations.Overlong token.text reader.defaultScope

theorem ReachesOverlong.read {text : String} (reaches : reader.ReachesOverlong text) :
    ∃ count, reader.read text = .error (.tooManyDigits count) := by
  obtain ⟨before, token, after, cut, takes, lexeme, overlong⟩ := reaches
  obtain ⟨nesting, taken⟩ := takes.foldlM_eq_ok text
  obtain ⟨count, refused⟩ := overlong.elaborate (some token.span)
  have stopped : reader.step text nesting token = .error (.tooManyDigits count) := by
    unfold step
    simp only [lexeme, bind_eq_error_iff]
    exact .inl refused
  refine ⟨count, ?_⟩
  unfold Reader.read
  rw [cut, bind_eq_error_iff]
  refine .inr ⟨_, rfl, ?_⟩
  rw [bind_eq_error_iff, foldlM_append_of_eq_ok taken, List.foldlM_cons, stopped]
  exact .inl rfl

/-- A text that is not read reaches an overlong literal, or the error has a title. -/
theorem isTitled_or_reaches_of_read (ready : reader.Ready) {text : String} {error : Error}
    (failed : reader.read text = .error error) :
    error.IsTitled ∨ reader.ReachesOverlong text ∧ ∃ count, error = .tooManyDigits count := by
  unfold Reader.read at failed
  rw [bind_eq_error_iff] at failed
  rcases failed with uncut | ⟨tokens, cut, later⟩
  · unfold Token.ofText at uncut
    split at uncut
    · cases uncut
    · cases uncut
      exact .inl ⟨_, rfl⟩
  · rw [bind_eq_error_iff] at later
    rcases later with stopped | ⟨nesting, -, unfinished⟩
    · obtain ⟨before, token, after, middle, rfl, passed, refused⟩ := exists_step_of_foldlM stopped
      have tiles := (Token.ofText_eq_ok_iff ..).mp cut
      have exact := tiles.exact token (by simp)
      rcases isTitled_or_overlong_of_step ready exact refused with
        titled | ⟨lexeme, overlong, counted⟩
      · exact .inl titled
      · have takes := (foldlM_succeeds_iff_takes text before).mp ⟨middle, passed⟩
        exact .inr ⟨⟨before, token, after, cut, takes, lexeme, overlong⟩, counted⟩
    · left
      unfold finish at unfinished
      split at unfinished
      · cases unfinished
        exact ⟨_, rfl⟩
      · split at unfinished
        · cases unfinished
        · cases unfinished
          exact ⟨_, rfl⟩

end Reader

end UnaryNumeral
