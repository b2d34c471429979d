import UnaryNumeral.Proofs.ReaderSteps

/-! The invariant of the reader. The tokens taken so far are the atoms in the open groups, from the
outermost to the innermost, with the opening parentheses in between; each step keeps it so. Whatever
is read is therefore derived by the grammar. -/

namespace UnaryNumeral

namespace Reader

variable {reader : Reader}

/-- What a group that may still be open has taken in: atoms with their terms, and, in the tokens
behind them, the parenthesis of the group inside it if there is one. -/
structure Holds (reader : Reader) (group : Group) (parts : List Phrase) (behind : List Token) :
    Prop where
  atoms : reader.DerivesAtoms parts group.terms.reverse
  start : Token.firstStart group.start (Phrase.tokensAll parts ++ behind) = group.start

/-- The tokens that led to a stack of open groups. -/
inductive Covers (reader : Reader) : Group → List Group → List Token → List Token → Prop where
  | outermost {group : Group} {parts : List Phrase} {behind : List Token}
      (outside : group.opening = none) (holds : reader.Holds group parts behind) :
      Covers reader group [] behind (Phrase.tokensAll parts ++ behind)
  | nested {inner group : Group} {outer : List Group} {opening : Token} {parts : List Phrase}
      {behind before : List Token} (around : Covers reader group outer [opening] before)
      (opens : opening.lexeme = .opening) (place : inner.opening = some opening.span)
      (holds : reader.Holds inner parts behind) :
      Covers reader inner (group :: outer) behind
        (before ++ (Phrase.tokensAll parts ++ behind))

theorem DerivesAtoms.eq_nil_iff {parts : List Phrase} {terms : List Term}
    (derivation : reader.DerivesAtoms parts terms) : parts = [] ↔ terms = [] := by
  cases derivation <;> simp

theorem Holds.tokens_ne_nil {group : Group} {parts : List Phrase} {behind : List Token}
    (holds : reader.Holds group parts behind) (begun : group.terms ≠ []) :
    Phrase.tokensAll parts ≠ [] := by
  cases parts with
  | nil => exact absurd (holds.atoms.eq_nil_iff.mp rfl) (by simp [begun])
  | cons part rest => simp [Phrase.tokensAll, part.tokens_ne_nil]

/-- Before a group takes in a token, its start is fixed if it is still empty. -/
theorem Holds.await {group : Group} {parts : List Phrase} (holds : reader.Holds group parts [])
    (token : Token) : reader.Holds (group.startAt token.span.start) parts [token] where
  atoms := by simpa using holds.atoms
  start := by
    by_cases fresh : group.terms = []
    · obtain rfl := holds.atoms.eq_nil_iff.mpr (by simp [fresh])
      exact (Group.startAt_start_of_eq_nil fresh _).symm
    · rw [Group.startAt_of_ne_nil fresh]
      have filled := holds.tokens_ne_nil fresh
      have start := holds.start
      rw [List.append_nil] at start
      rw [Token.firstStart_append, Token.firstStart_of_ne_nil filled _ group.start, start]

theorem Holds.absorb {group : Group} {parts : List Phrase} {first : Token}
    (holds : reader.Holds group parts [first]) {part : Phrase} {term : Term} {more : List Token}
    (atom : reader.DerivesAtom part term) (begins : part.tokens = first :: more) :
    reader.Holds (group.add term) (parts ++ [part]) [] where
  atoms := by
    simpa [Group.add] using holds.atoms.append (.cons atom .nil)
  start := by
    have start := holds.start
    simp only [Token.firstStart_append] at start
    simpa [Phrase.tokensAll_append, Phrase.tokensAll, begins, Token.firstStart_append, Group.add,
      Token.firstStart] using start

theorem Covers.await {group : Group} {outer : List Group} {tokens : List Token}
    (covers : reader.Covers group outer [] tokens) (token : Token) :
    reader.Covers (group.startAt token.span.start) outer [token] (tokens ++ [token]) := by
  cases covers with
  | outermost outside holds =>
    rw [List.append_nil]
    exact .outermost (by simpa using outside) (holds.await token)
  | nested around opens place holds =>
    rw [List.append_nil, List.append_assoc]
    exact .nested around opens (by simpa using place) (holds.await token)

theorem Covers.absorb {group : Group} {outer : List Group} {tokens : List Token} {first : Token}
    (covers : reader.Covers group outer [first] tokens) {part : Phrase} {term : Term}
    {more : List Token} (atom : reader.DerivesAtom part term)
    (begins : part.tokens = first :: more) :
    reader.Covers (group.add term) outer [] (tokens ++ more) := by
  cases covers with
  | @outermost _ parts _ outside holds =>
    have added : (group.add term).opening = none := outside
    have grown := Covers.outermost added (holds.absorb atom begins)
    simpa [Phrase.tokensAll_append, Phrase.tokensAll, begins] using grown
  | @nested _ _ _ opening parts _ _ around opens place holds =>
    have added : (group.add term).opening = some opening.span := place
    have grown := Covers.nested around opens added (holds.absorb atom begins)
    simpa [Phrase.tokensAll_append, Phrase.tokensAll, begins] using grown

theorem Holds.derivesTerm {group : Group} {parts : List Phrase} {stop : Int} {term : Term}
    (holds : reader.Holds group parts []) (closed : group.close? stop reader.source = some term)
    (last : ∀ otherwise, Token.lastStop otherwise (Phrase.tokensAll parts) = stop) :
    reader.DerivesTerm parts term := by
  obtain ⟨head, args, listed, rfl⟩ := (Group.close?_eq_some_iff ..).mp closed
  have atoms := holds.atoms
  rw [listed] at atoms
  have filled : Phrase.tokensAll parts ≠ [] := by
    cases atoms with
    | cons => simp [Phrase.tokensAll, Phrase.tokens_ne_nil]
  have start := holds.start
  rw [List.append_nil, Token.firstStart_of_ne_nil filled _ 0] at start
  refine derivesTerm_iff.mpr ⟨head, args, atoms, ?_⟩
  rw [Token.extent, start, last]

/-- The state of the reader after some tokens. -/
structure Reached (reader : Reader) (nesting : Nesting) (tokens : List Token) : Prop where
  covers : reader.Covers nesting.inner nesting.outer [] tokens
  lastStop : Token.lastStop 0 tokens = nesting.lastStop

theorem reached_nil (reader : Reader) : reader.Reached {} [] where
  covers := @Covers.outermost reader {} [] [] rfl ⟨.nil, rfl⟩
  lastStop := rfl

/-- A token that stands for a term, like a group that closes, adds an atom to the innermost group;
a parenthesis opens a group that is still empty. -/
theorem Moves.reached {nesting next : Nesting} {tokens : List Token} {token : Token}
    (moves : reader.Moves nesting token next) (before : reader.Reached nesting tokens) :
    reader.Reached next (tokens ++ [token]) := by
  obtain ⟨inner, outer, lastStop⟩ := nesting
  obtain ⟨covers, last⟩ := before
  cases moves with
  | opening lexeme =>
    refine ⟨?_, Token.lastStop_concat ..⟩
    have empty : reader.Holds { start := token.span.stop, opening := some token.span } [] [] :=
      ⟨.nil, rfl⟩
    have opened := Covers.nested (covers.await token) lexeme rfl empty
    simpa [Phrase.tokensAll] using opened
  | closing lexeme around closed =>
    refine ⟨?_, Token.lastStop_concat ..⟩
    have begun : inner.terms ≠ [] := by simpa using Group.ne_nil_of_close? closed
    rw [Group.startAt_of_ne_nil begun] at closed
    cases covers with
    | outermost outside holds => cases around
    | @nested _ group _ opening parts _ earlier outside opens place holds =>
      cases around
      have filled : Phrase.tokensAll parts ≠ [] := holds.tokens_ne_nil begun
      have inside := holds.derivesTerm closed fun otherwise => by
        rw [← last, List.append_nil, Token.lastStop_append]
        exact Token.lastStop_of_ne_nil filled _ _
      have grown := outside.absorb (.group opens lexeme inside) rfl
      simpa using grown
  | leaf meaning =>
    refine ⟨?_, Token.lastStop_concat ..⟩
    have grown := (covers.await token).absorb (.token meaning) rfl
    simpa using grown

theorem reached_of_foldlM {text : String} {nesting : Nesting} {tokens : List Token}
    (run : tokens.foldlM (reader.step text) {} = .ok nesting) : reader.Reached nesting tokens := by
  have reached := holds_of_foldlM (P := reader.Reached) Moves.reached
    (reached_nil reader) run
  rwa [List.nil_append] at reached

theorem derivesTerm_of_finish {text : String} {nesting : Nesting} {tokens : List Token}
    {term : Term} (reached : reader.Reached nesting tokens)
    (finished : reader.finish text nesting = .ok term) :
    ∃ parts, Phrase.tokensAll parts = tokens ∧ reader.DerivesTerm parts term := by
  obtain ⟨inner, outer, lastStop⟩ := nesting
  obtain ⟨covers, last⟩ := reached
  obtain ⟨outside, closed⟩ := (reader.finish_eq_ok_iff ..).mp finished
  cases covers with
  | nested _ _ place _ => cases outside.symm.trans place
  | @outermost _ parts _ _ holds =>
    refine ⟨parts, (List.append_nil _).symm, holds.derivesTerm closed fun otherwise => ?_⟩
    rw [← last, List.append_nil]
    exact Token.lastStop_of_ne_nil (holds.tokens_ne_nil (Group.ne_nil_of_close? closed)) _ _

/-- What is read is derived by the tokens of the text. -/
theorem derivesTerm_of_read {text : String} {term : Term} (read : reader.read text = .ok term) :
    ∃ parts, Token.ofText text reader.source = .ok (Phrase.tokensAll parts) ∧
      reader.DerivesTerm parts term := by
  simp only [Reader.read, bind_eq_ok_iff] at read
  obtain ⟨tokens, cut, nesting, run, finished⟩ := read
  have reached := reached_of_foldlM run
  obtain ⟨parts, rfl, derivation⟩ := derivesTerm_of_finish reached finished
  exact ⟨parts, cut, derivation⟩

end Reader

end UnaryNumeral
