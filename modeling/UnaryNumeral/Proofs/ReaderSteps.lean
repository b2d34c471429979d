import UnaryNumeral.Proofs.NameResolution

namespace UnaryNumeral

namespace Reader

variable {reader : Reader}

/-- Everything that a step can do: open a group, close the innermost one into the group around it,
or add what a single token stands for. -/
inductive Moves (reader : Reader) (nesting : Nesting) (token : Token) : Nesting → Prop where
  | opening (lexeme : token.lexeme = .opening) :
      Moves reader nesting token
        ⟨{ start := token.span.stop, opening := some token.span },
          nesting.inner.startAt token.span.start :: nesting.outer, token.span.stop⟩
  | closing {group : Group} {outer : List Group} {term : Term} (lexeme : token.lexeme = .closing)
      (around : nesting.outer = group :: outer)
      (closed : (nesting.inner.startAt token.span.start).close? nesting.lastStop reader.source =
        some term) :
      Moves reader nesting token ⟨group.add term, outer, token.span.stop⟩
  | leaf {term : Term} (meaning : reader.Means token term) :
      Moves reader nesting token
        ⟨(nesting.inner.startAt token.span.start).add term, nesting.outer, token.span.stop⟩

theorem step_eq_ok_iff (reader : Reader) (text : String) (nesting : Nesting) (token : Token)
    (next : Nesting) :
    reader.step text nesting token = .ok next ↔ reader.Moves nesting token next := by
  unfold step
  constructor
  · intro stepped
    cases lexeme : token.lexeme with
    | blank => simp [lexeme] at stepped
    | opening =>
      simp only [lexeme, pure_eq_ok_iff] at stepped
      subst stepped
      exact .opening lexeme
    | closing =>
      simp only [lexeme] at stepped
      split at stepped
      · rename_i group outer term around closed
        rw [pure_eq_ok_iff] at stepped
        subst stepped
        exact .closing lexeme around closed
      · cases stepped
    | numeral =>
      simp only [lexeme, bind_eq_ok_iff, pure_eq_ok_iff] at stepped
      obtain ⟨term, elaborated, same⟩ := stepped
      subst same
      exact .leaf (.numeral lexeme elaborated)
    | name =>
      simp only [lexeme, bind_eq_ok_iff, pure_eq_ok_iff] at stepped
      obtain ⟨term, resolved, same⟩ := stepped
      subst same
      exact .leaf (.name lexeme ((reader.resolveName_eq_ok_iff ..).mp resolved))
  · intro moves
    cases moves with
    | opening lexeme => simp [lexeme]
    | closing lexeme around closed => simp [lexeme, around, closed]
    | leaf meaning =>
      cases meaning with
      | numeral lexeme elaborated =>
        simp only [lexeme]
        exact bind_eq_ok_iff.mpr ⟨_, elaborated, rfl⟩
      | name lexeme named =>
        simp only [lexeme]
        exact bind_eq_ok_iff.mpr ⟨_, (reader.resolveName_eq_ok_iff ..).mpr named, rfl⟩

theorem foldlM_cons_of_moves {text : String} {nesting next : Nesting} {token : Token}
    (moves : reader.Moves nesting token next) (rest : List Token) :
    (token :: rest).foldlM (reader.step text) nesting = rest.foldlM (reader.step text) next := by
  rw [List.foldlM_cons, (reader.step_eq_ok_iff text nesting token next).mpr moves]
  rfl

theorem foldlM_append_of_eq_ok {text : String} {nesting next : Nesting} {tokens : List Token}
    (done : tokens.foldlM (reader.step text) nesting = .ok next) (rest : List Token) :
    (tokens ++ rest).foldlM (reader.step text) nesting = rest.foldlM (reader.step text) next := by
  rw [List.foldlM_append, done]
  rfl

/-- What each step keeps, with one more token taken, holds at the end of a run. -/
theorem holds_of_foldlM {P : Nesting → List Token → Prop}
    (keeps : ∀ {nesting next tokens token}, reader.Moves nesting token next →
      P nesting tokens → P next (tokens ++ [token]))
    {text : String} {nesting next : Nesting} {before tokens : List Token}
    (start : P nesting before)
    (run : tokens.foldlM (reader.step text) nesting = .ok next) :
    P next (before ++ tokens) := by
  induction tokens generalizing nesting before with
  | nil =>
    cases run
    simpa using start
  | cons token rest ih =>
    rw [List.foldlM_cons, bind_eq_ok_iff] at run
    obtain ⟨middle, stepped, later⟩ := run
    have moves := (reader.step_eq_ok_iff ..).mp stepped
    simpa using ih (keeps moves start) later

/-- A group with several terms added from left to right. -/
def addAll (group : Group) (terms : List Term) : Group :=
  { group with terms := terms.reverse ++ group.terms }

mutual

theorem DerivesAtom.foldlM_eq {part : Phrase} {term : Term} (text : String) (nesting : Nesting)
    (derivation : DerivesAtom reader part term) :
    part.tokens.foldlM (reader.step text) nesting =
      .ok ⟨(nesting.inner.startAt (Token.firstStart 0 part.tokens)).add term, nesting.outer,
        Token.lastStop 0 part.tokens⟩ := by
  match derivation with
  | .token meaning => exact foldlM_cons_of_moves (.leaf meaning) []
  | @DerivesAtom.group _ opening closing parts _ opens closes inside =>
    obtain ⟨inner, filled, -, begun, closed⟩ := inside.foldlM_eq text
      ⟨{ start := opening.span.stop, opening := some opening.span },
        nesting.inner.startAt opening.span.start :: nesting.outer, opening.span.stop⟩ rfl
    have moves : reader.Moves
        ⟨inner, nesting.inner.startAt opening.span.start :: nesting.outer,
          Token.lastStop 0 (Phrase.tokensAll parts)⟩ closing
        ⟨(nesting.inner.startAt opening.span.start).add term, nesting.outer, closing.span.stop⟩ :=
      .closing closes rfl (by rw [Group.startAt_of_ne_nil begun]; exact closed)
    rw [Phrase.tokens, foldlM_cons_of_moves (.opening opens), foldlM_append_of_eq_ok filled,
      foldlM_cons_of_moves moves, ← List.cons_append, Token.lastStop_concat]
    rfl

/-- The tokens of a term fill a group that then closes as the term. -/
theorem DerivesTerm.foldlM_eq {parts : List Phrase} {term : Term} (text : String)
    (nesting : Nesting) (derivation : DerivesTerm reader parts term)
    (fresh : nesting.inner.terms = []) :
    ∃ inner,
      (Phrase.tokensAll parts).foldlM (reader.step text) nesting =
        .ok ⟨inner, nesting.outer, Token.lastStop 0 (Phrase.tokensAll parts)⟩ ∧
      inner.opening = nesting.inner.opening ∧ inner.terms ≠ [] ∧
      inner.close? (Token.lastStop 0 (Phrase.tokensAll parts)) reader.source = some term := by
  match derivation with
  | @DerivesTerm.single _ part _ atom =>
    refine ⟨(nesting.inner.startAt (Token.firstStart 0 part.tokens)).add term, ?_, ?_, ?_, ?_⟩
    · rw [Phrase.tokensAll, Phrase.tokensAll, List.append_nil]
      exact atom.foldlM_eq text nesting
    · simp [Group.add]
    · simp [Group.add]
    · exact (Group.close?_eq_some_iff ..).mpr ⟨term, [], by simp [Group.add, fresh], rfl⟩
  | @DerivesTerm.application _ part next rest head args first others =>
    have begun := first.foldlM_eq text nesting
    have filled := others.foldlM_eq text
      ⟨(nesting.inner.startAt (Token.firstStart 0 part.tokens)).add head, nesting.outer,
        Token.lastStop 0 part.tokens⟩ (by simp [Group.add])
    have several : args.isEmpty = false := by cases others; rfl
    have start : Token.firstStart 0 part.tokens =
        Token.firstStart 0 (Phrase.tokensAll (part :: next :: rest)) := by
      rw [Phrase.tokensAll, Token.firstStart_append]
      exact Token.firstStart_of_ne_nil part.tokens_ne_nil _ _
    refine ⟨addAll ((nesting.inner.startAt (Token.firstStart 0 part.tokens)).add head) args,
      ?_, ?_, ?_, ?_⟩
    · rw [Phrase.tokensAll, foldlM_append_of_eq_ok begun, filled, Token.lastStop_append]
    · simp [addAll, Group.add]
    · simp [addAll, Group.add]
    · refine (Group.close?_eq_some_iff ..).mpr ⟨head, args, by simp [addAll, Group.add, fresh], ?_⟩
      simp [several, addAll, Group.add, Group.startAt_start_of_eq_nil fresh, start, Token.extent]

theorem DerivesAtoms.foldlM_eq {parts : List Phrase} {terms : List Term} (text : String)
    (nesting : Nesting) (derivation : DerivesAtoms reader parts terms)
    (begun : nesting.inner.terms ≠ []) :
    (Phrase.tokensAll parts).foldlM (reader.step text) nesting =
      .ok ⟨addAll nesting.inner terms, nesting.outer,
        Token.lastStop nesting.lastStop (Phrase.tokensAll parts)⟩ := by
  match derivation with
  | .nil => rfl
  | @DerivesAtoms.cons _ part rest term _ first others =>
    have taken := first.foldlM_eq text nesting
    rw [Group.startAt_of_ne_nil begun] at taken
    rw [Phrase.tokensAll, foldlM_append_of_eq_ok taken,
      others.foldlM_eq text ⟨nesting.inner.add term, _, _⟩ (by simp [Group.add]),
      Token.lastStop_append, Token.lastStop_of_ne_nil part.tokens_ne_nil nesting.lastStop 0]
    simp [addAll, Group.add]

end

/-- What the grammar derives is read. -/
theorem DerivesTerm.read {parts : List Phrase} {term : Term} (text : String)
    (derivation : reader.DerivesTerm parts term)
    (cut : Token.ofText text reader.source = .ok (Phrase.tokensAll parts)) :
    reader.read text = .ok term := by
  obtain ⟨inner, filled, opening, -, closed⟩ := derivation.foldlM_eq text {} rfl
  simp only [Reader.read, bind_eq_ok_iff]
  exact ⟨_, cut, _, filled, (reader.finish_eq_ok_iff ..).mpr ⟨opening, closed⟩⟩

end Reader

end UnaryNumeral
