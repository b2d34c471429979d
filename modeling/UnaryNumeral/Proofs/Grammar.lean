import UnaryNumeral.Reader

/-! The grammar of terms, `Term ::= Atom+` and `Atom ::= numeral | name | '(' Term ')'`, as parse
trees over tokens. A list of tokens has at most one parse tree. -/

namespace UnaryNumeral

/-- The parse tree of an atom: a single token, or a group between parentheses. -/
inductive Phrase where
  | leaf (token : Token)
  | group (opening : Token) (parts : List Phrase) (closing : Token)

namespace Phrase

mutual

/-- The tokens of a parse tree, from left to right. -/
def tokens : Phrase → List Token
  | leaf token => [token]
  | group opening parts closing => opening :: (tokensAll parts ++ [closing])

def tokensAll : List Phrase → List Token
  | [] => []
  | part :: rest => part.tokens ++ tokensAll rest

end

theorem tokensAll_append (parts others : List Phrase) :
    tokensAll (parts ++ others) = tokensAll parts ++ tokensAll others := by
  induction parts with
  | nil => rfl
  | cons part rest ih => simp [tokensAll, ih]

theorem tokens_ne_nil (part : Phrase) : part.tokens ≠ [] := by
  cases part <;> simp [tokens]

mutual

/-- Leaves are numerals and names, and groups stand between an opening and a closing
parenthesis. -/
def WellFormed : Phrase → Prop
  | leaf token => token.lexeme = .numeral ∨ token.lexeme = .name
  | group opening parts closing =>
    opening.lexeme = .opening ∧ closing.lexeme = .closing ∧ AllWellFormed parts

def AllWellFormed : List Phrase → Prop
  | [] => True
  | part :: rest => part.WellFormed ∧ AllWellFormed rest

end

/-- No atom starts in front of these tokens: there are none, or they go on with a closing
parenthesis. -/
def Ends (tokens : List Token) : Prop := ∀ token ∈ tokens.head?, token.lexeme = .closing

theorem ends_nil : Ends [] := by simp [Ends]

theorem ends_cons {closing : Token} (closes : closing.lexeme = .closing) (rest : List Token) :
    Ends (closing :: rest) := by simp [Ends, closes]

theorem WellFormed.not_ends {part : Phrase} (formed : part.WellFormed) (rest : List Token) :
    ¬ Ends (part.tokens ++ rest) := by
  cases part with
  | leaf token =>
    rcases formed with lexeme | lexeme <;> simp [Ends, tokens, lexeme]
  | group opening parts closing => simp [Ends, tokens, formed.1]

mutual

/-- The tokens of an atom say where it stops: two atoms in front of the same tokens are one. -/
theorem eq_of_tokens_append (part other : Phrase) (formed : part.WellFormed)
    (otherFormed : other.WellFormed) {rest otherRest : List Token}
    (same : part.tokens ++ rest = other.tokens ++ otherRest) :
    part = other ∧ rest = otherRest := by
  match part, other with
  | leaf token, leaf _ =>
    simp only [tokens, List.singleton_append, List.cons.injEq] at same
    obtain ⟨rfl, rfl⟩ := same
    exact ⟨rfl, rfl⟩
  | leaf token, group opening parts closing =>
    simp only [tokens, List.cons_append, List.cons.injEq] at same
    obtain ⟨rfl, -⟩ := same
    simp [WellFormed, otherFormed.1] at formed
  | group opening parts closing, leaf token =>
    simp only [tokens, List.cons_append, List.cons.injEq] at same
    obtain ⟨rfl, -⟩ := same
    simp [WellFormed, formed.1] at otherFormed
  | group opening parts closing, group _ others otherClosing =>
    simp only [tokens, List.cons_append, List.append_assoc, List.cons.injEq] at same
    obtain ⟨rfl, inside⟩ := same
    obtain ⟨-, closes, partsFormed⟩ := formed
    obtain ⟨-, otherCloses, othersFormed⟩ := otherFormed
    obtain ⟨rfl, behind⟩ := eq_of_tokensAll_append parts others partsFormed othersFormed
      (ends_cons closes _) (ends_cons otherCloses _) inside
    cases behind
    exact ⟨rfl, rfl⟩

theorem eq_of_tokensAll_append (parts others : List Phrase) (formed : AllWellFormed parts)
    (otherFormed : AllWellFormed others) {rest otherRest : List Token} (ends : Ends rest)
    (otherEnds : Ends otherRest) (same : tokensAll parts ++ rest = tokensAll others ++ otherRest) :
    parts = others ∧ rest = otherRest := by
  match parts, others with
  | [], [] => exact ⟨rfl, same⟩
  | [], other :: more =>
    simp only [tokensAll, List.nil_append, List.append_assoc] at same
    exact (otherFormed.1.not_ends _ (same ▸ ends)).elim
  | part :: later, [] =>
    simp only [tokensAll, List.nil_append, List.append_assoc] at same
    exact (formed.1.not_ends _ (same ▸ otherEnds)).elim
  | part :: later, other :: more =>
    simp only [tokensAll, List.append_assoc] at same
    obtain ⟨rfl, behind⟩ := eq_of_tokens_append part other formed.1 otherFormed.1 same
    obtain ⟨rfl, rest⟩ := eq_of_tokensAll_append later more formed.2 otherFormed.2 ends otherEnds
      behind
    exact ⟨rfl, rest⟩

end

/-- The grammar is unambiguous: the tokens determine the parse trees. -/
theorem tokensAll_injective {parts others : List Phrase} (formed : AllWellFormed parts)
    (otherFormed : AllWellFormed others) (same : tokensAll parts = tokensAll others) :
    parts = others :=
  (eq_of_tokensAll_append parts others formed otherFormed ends_nil ends_nil
    (by rw [List.append_nil, List.append_nil, same])).1

end Phrase

namespace Token

/-- What a token says, wherever it stands. -/
def content (token : Token) : Lexeme × String := (token.lexeme, token.text)

def firstStart (otherwise : Int) (tokens : List Token) : Int :=
  (tokens.head?.map (·.span.start)).getD otherwise

def lastStop (otherwise : Int) (tokens : List Token) : Int :=
  (tokens.getLast?.map (·.span.stop)).getD otherwise

/-- The span from the first to the last of some tokens. -/
def extent (tokens : List Token) (source : Option String) : Span :=
  ⟨firstStart 0 tokens, lastStop 0 tokens, source⟩

theorem firstStart_append (otherwise : Int) (tokens others : List Token) :
    firstStart otherwise (tokens ++ others) = firstStart (firstStart otherwise others) tokens := by
  cases tokens <;> rfl

theorem lastStop_append (otherwise : Int) (tokens others : List Token) :
    lastStop otherwise (tokens ++ others) = lastStop (lastStop otherwise tokens) others := by
  simp only [lastStop, List.getLast?_append]
  cases others.getLast? <;> rfl

theorem lastStop_concat (otherwise : Int) (tokens : List Token) (token : Token) :
    lastStop otherwise (tokens ++ [token]) = token.span.stop := by
  simp [lastStop]

theorem firstStart_of_ne_nil {tokens : List Token} (some : tokens ≠ []) (a b : Int) :
    firstStart a tokens = firstStart b tokens := by
  obtain ⟨first, rest, rfl⟩ := List.exists_cons_of_ne_nil some
  rfl

theorem lastStop_of_ne_nil {tokens : List Token} (some : tokens ≠ []) (a b : Int) :
    lastStop a tokens = lastStop b tokens := by
  simp [lastStop, List.getLast?_eq_some_getLast some]

end Token

namespace Reader

/-- The first open path under which a name is declared has this entity for it. -/
def Opens (reader : Reader) (name : String) (handle : Handle) : Prop :=
  ∃ before path after, reader.openPaths = before ++ path :: after ∧
    (∀ earlier ∈ before, reader.symbols.lookup (.segments earlier) name = .ok none) ∧
    reader.symbols.lookup (.segments path) name = .ok (some handle)

/-- A name is declared under no open path. -/
def Unopened (reader : Reader) (name : String) : Prop :=
  ∀ path ∈ reader.openPaths, reader.symbols.lookup (.segments path) name = .ok none

/-- What a name stands for. -/
inductive Names (reader : Reader) (name : String) (span : Span) : Term → Prop where
  | qualified {handle : Handle} (dotted : '.' ∈ name.toList)
      (found : reader.symbols.resolveQualified name = .ok handle) :
      Names reader name span (.ref handle span)
  | opened {handle : Handle} (undotted : '.' ∉ name.toList) (found : reader.Opens name handle) :
      Names reader name span (.ref handle span)
  | free (undotted : '.' ∉ name.toList) (unknown : reader.Unopened name)
      (lower : isVariableName name = true) : Names reader name span (.var name span)

/-- What a single token stands for, as a numeral or as a name. -/
inductive Means (reader : Reader) (token : Token) : Term → Prop where
  | numeral {term : Term} (lexeme : token.lexeme = .numeral)
      (elaborated : reader.notations.elaborate token.text (some token.span) reader.defaultScope =
        .ok term) : Means reader token term
  | name {term : Term} (lexeme : token.lexeme = .name)
      (named : reader.Names token.text token.span term) : Means reader token term

mutual

/-- `Term ::= Atom+`: one atom is itself, several are an application. -/
inductive DerivesTerm (reader : Reader) : List Phrase → Term → Prop where
  | single {part : Phrase} {term : Term} (atom : DerivesAtom reader part term) :
      DerivesTerm reader [part] term
  | application {part next : Phrase} {rest : List Phrase} {head : Term} {args : List Term}
      (first : DerivesAtom reader part head) (others : DerivesAtoms reader (next :: rest) args) :
      DerivesTerm reader (part :: next :: rest)
        (.app head args (Token.extent (Phrase.tokensAll (part :: next :: rest)) reader.source))

/-- `Atom ::= numeral | name | '(' Term ')'`. -/
inductive DerivesAtom (reader : Reader) : Phrase → Term → Prop where
  | token {token : Token} {term : Term} (meaning : reader.Means token term) :
      DerivesAtom reader (.leaf token) term
  | group {opening closing : Token} {parts : List Phrase} {term : Term}
      (opens : opening.lexeme = .opening) (closes : closing.lexeme = .closing)
      (inside : DerivesTerm reader parts term) :
      DerivesAtom reader (.group opening parts closing) term

/-- Atoms side by side. -/
inductive DerivesAtoms (reader : Reader) : List Phrase → List Term → Prop where
  | nil : DerivesAtoms reader [] []
  | cons {part : Phrase} {rest : List Phrase} {term : Term} {terms : List Term}
      (first : DerivesAtom reader part term) (others : DerivesAtoms reader rest terms) :
      DerivesAtoms reader (part :: rest) (term :: terms)

end

theorem Means.lexeme_eq {reader : Reader} {token : Token} {term : Term}
    (meaning : reader.Means token term) : token.lexeme = .numeral ∨ token.lexeme = .name := by
  cases meaning with
  | numeral lexeme _ => exact .inl lexeme
  | name lexeme _ => exact .inr lexeme

variable {reader : Reader}

mutual

theorem DerivesTerm.allWellFormed {parts : List Phrase} {term : Term} :
    DerivesTerm reader parts term → Phrase.AllWellFormed parts
  | .single atom => ⟨atom.wellFormed, trivial⟩
  | .application first others => ⟨first.wellFormed, others.allWellFormed⟩

theorem DerivesAtom.wellFormed {part : Phrase} {term : Term} :
    DerivesAtom reader part term → part.WellFormed
  | .token meaning => meaning.lexeme_eq
  | .group opens closes inside => ⟨opens, closes, inside.allWellFormed⟩

theorem DerivesAtoms.allWellFormed {parts : List Phrase} {terms : List Term} :
    DerivesAtoms reader parts terms → Phrase.AllWellFormed parts
  | .nil => trivial
  | .cons first others => ⟨first.wellFormed, others.allWellFormed⟩

end

variable {parts others : List Phrase} {term : Term} {terms more : List Term}

theorem DerivesTerm.tokens_ne_nil (derivation : reader.DerivesTerm parts term) :
    Phrase.tokensAll parts ≠ [] := by
  cases derivation <;> simp [Phrase.tokensAll, Phrase.tokens_ne_nil]

theorem derivesTerm_iff :
    reader.DerivesTerm parts term ↔
      ∃ head args, reader.DerivesAtoms parts (head :: args) ∧
        term = if args.isEmpty then head
          else .app head args (Token.extent (Phrase.tokensAll parts) reader.source) := by
  constructor
  · intro derivation
    cases derivation with
    | single atom => exact ⟨term, [], .cons atom .nil, rfl⟩
    | application first others =>
      cases others with
      | cons second more => exact ⟨_, _, .cons first (.cons second more), rfl⟩
  · intro side
    obtain ⟨head, args, derivation, rfl⟩ := side
    cases derivation with
    | cons first others =>
      cases others with
      | nil => exact .single first
      | cons second more => exact .application first (.cons second more)

theorem DerivesAtoms.append (derivation : reader.DerivesAtoms parts terms)
    (later : reader.DerivesAtoms others more) :
    reader.DerivesAtoms (parts ++ others) (terms ++ more) := by
  induction parts generalizing terms with
  | nil =>
    cases derivation with
    | nil => exact later
  | cons part rest ih =>
    cases derivation with
    | cons first next => exact .cons first (ih next)

end Reader

end UnaryNumeral
