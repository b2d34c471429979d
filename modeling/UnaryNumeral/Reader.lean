import UnaryNumeral.Notation.Literal
import UnaryNumeral.Symbol.Table
import UnaryNumeral.Token

/-! Reading terms: application by juxtaposition, parentheses for grouping. Open groups are kept on
a stack, so that nesting has no limit. -/

namespace UnaryNumeral

/-- What names and literals mean, and what the text is called. The open paths are kept segment by
segment and are not checked before a name is looked up under them. -/
structure Reader where
  symbols : SymbolTable
  notations : NotationTable
  openPaths : List (List Value) := []
  defaultScope : Option String := none
  source : Option String := none

/-- A reader with open paths as a caller spells them. Each is taken for a sequence, a text too. -/
def Reader.ofPaths (symbols : SymbolTable) (notations : NotationTable)
    (openPaths : List PathSpelling := []) (defaultScope source : Option String := none) :
    Reader where
  symbols := symbols
  notations := notations
  openPaths := openPaths.map PathSpelling.members
  defaultScope := defaultScope
  source := source

/-- A group that is not closed yet: the terms in it, the latest first, where its first token
starts, and the parenthesis that opened it. -/
structure Group where
  terms : List Term := []
  start : Int := 0
  opening : Option Span := none

/-- The groups around the current position, the innermost apart from those further out, and the
end of the last token. -/
structure Nesting where
  inner : Group := {}
  outer : List Group := []
  lastStop : Int := 0

namespace Group

/-- The first token of a group fixes where the group starts. -/
def startAt (group : Group) (position : Int) : Group :=
  if group.terms.isEmpty then { group with start := position } else group

def add (group : Group) (term : Term) : Group := { group with terms := term :: group.terms }

@[simp]
theorem startAt_terms (group : Group) (position : Int) :
    (group.startAt position).terms = group.terms := by
  unfold startAt; split <;> rfl

@[simp]
theorem startAt_opening (group : Group) (position : Int) :
    (group.startAt position).opening = group.opening := by
  unfold startAt; split <;> rfl

theorem startAt_start_of_eq_nil {group : Group} (fresh : group.terms = []) (position : Int) :
    (group.startAt position).start = position := by
  simp [startAt, fresh]

theorem startAt_of_ne_nil {group : Group} (begun : group.terms ≠ []) (position : Int) :
    group.startAt position = group := by
  simp [startAt, begun]

/-- The term of a group: a single term is itself, several are an application. -/
def close? (group : Group) (stop : Int) (source : Option String) : Option Term :=
  match group.terms.reverse with
  | [] => none
  | [term] => some term
  | head :: args => some (.app head args ⟨group.start, stop, source⟩)

theorem close?_eq_some_iff (group : Group) (stop : Int) (source : Option String) (term : Term) :
    group.close? stop source = some term ↔
      ∃ head args, group.terms.reverse = head :: args ∧
        term = if args.isEmpty then head else .app head args ⟨group.start, stop, source⟩ := by
  unfold close?
  match group.terms.reverse with
  | [] => simp
  | [only] =>
    simp only [Option.some.injEq, List.cons.injEq]
    constructor
    · rintro rfl
      exact ⟨only, [], ⟨rfl, rfl⟩, rfl⟩
    · rintro ⟨head, args, ⟨rfl, rfl⟩, rfl⟩
      rfl
  | first :: second :: more =>
    simp only [Option.some.injEq, List.cons.injEq]
    constructor
    · rintro rfl
      exact ⟨first, second :: more, ⟨rfl, rfl⟩, rfl⟩
    · rintro ⟨head, args, ⟨rfl, rfl⟩, rfl⟩
      rfl

theorem ne_nil_of_close? {group : Group} {stop : Int} {source : Option String} {term : Term}
    (closed : group.close? stop source = some term) : group.terms ≠ [] := by
  intro empty
  simp [close?, empty] at closed

end Group

namespace Reader

/-- Finds a bare name under the open paths; the first hit wins. -/
def findOpen (reader : Reader) (name : String) :
    List (List Value) → Except Error (Option Handle)
  | [] => .ok none
  | path :: rest => do
    match ← reader.symbols.lookup (.segments path) name with
    | some handle => pure (some handle)
    | none => reader.findOpen name rest

/-- An unknown name is a variable if it starts in lower case or with the underscore. -/
def isVariableName (name : String) : Bool :=
  name.toList.head?.any fun c => c.isLower || c == '_'

/-- The term of a name: a dotted one is looked up as it stands, a bare one under the open paths. -/
def resolveName (reader : Reader) (name : String) (span : Span) : Except Error Term := do
  if name.toList.contains '.' then
    let handle ← reader.symbols.resolveQualified name
    pure (.ref handle span)
  else
    match ← reader.findOpen name reader.openPaths with
    | some handle => pure (.ref handle span)
    | none =>
      if isVariableName name then pure (.var name span)
      else
        match reader.openPaths with
        | [] => .error (.unknownName [] name)
        | path :: _ => do .error (.unknownName (← (PathSpelling.segments path).toPath) name)

/-- Takes one token of a text. -/
def step (reader : Reader) (text : String) (nesting : Nesting) (token : Token) :
    Except Error Nesting := do
  let inner := nesting.inner.startAt token.span.start
  let stray : Error := .malformed text token.span (.strayToken token.text)
  match token.lexeme with
  | .opening =>
    pure ⟨{ start := token.span.stop, opening := some token.span }, inner :: nesting.outer,
      token.span.stop⟩
  | .closing =>
    match nesting.outer, inner.close? nesting.lastStop reader.source with
    | group :: outer, some term => pure ⟨group.add term, outer, token.span.stop⟩
    | _, _ => .error stray
  | .numeral =>
    let term ← reader.notations.elaborate token.text (some token.span) reader.defaultScope
    pure ⟨inner.add term, nesting.outer, token.span.stop⟩
  | .name =>
    let term ← reader.resolveName token.text token.span
    pure ⟨inner.add term, nesting.outer, token.span.stop⟩
  | .blank => .error stray

/-- The term of a text whose tokens have all been taken. -/
def finish (reader : Reader) (text : String) (nesting : Nesting) : Except Error Term :=
  match nesting.inner.opening with
  | some opening => .error (.malformed text opening .unclosed)
  | none =>
    match nesting.inner.close? nesting.lastStop reader.source with
    | some term => .ok term
    | none => .error (.malformed text ⟨0, 0, reader.source⟩ .emptyTerm)

theorem finish_eq_ok_iff (reader : Reader) (text : String) (nesting : Nesting) (term : Term) :
    reader.finish text nesting = .ok term ↔
      nesting.inner.opening = none ∧
        nesting.inner.close? nesting.lastStop reader.source = some term := by
  unfold finish
  cases nesting.inner.opening with
  | some opening => simp
  | none => cases nesting.inner.close? nesting.lastStop reader.source <;> simp

/-- The term that a text spells. -/
def read (reader : Reader) (text : String) : Except Error Term := do
  let tokens ← Token.ofText text reader.source
  let nesting ← tokens.foldlM (reader.step text) {}
  reader.finish text nesting

end Reader

end UnaryNumeral
