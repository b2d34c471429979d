import UnaryNumeral.Proofs.ReaderErrors
import UnaryNumeral.Proofs.SourceSpans
import UnaryNumeral.Proofs.Tokenization

/-! Which error a reader reports. A text that cannot be cut into tokens comes first, whatever the
tokens in front mean; then, from left to right, the first token with a defect decides; and at the
end the last parenthesis that is still open. A text with none of these is read. -/

namespace UnaryNumeral

namespace Token

/-- The open parentheses behind a token, the latest first. -/
def nest (opened : List Token) (token : Token) : List Token :=
  match token.lexeme with
  | .opening => token :: opened
  | .closing => opened.tail
  | _ => opened

/-- The parentheses that some tokens leave open, the latest first. -/
def unclosed (tokens : List Token) : List Token := tokens.foldl nest []

theorem unclosed_concat (tokens : List Token) (token : Token) :
    unclosed (tokens ++ [token]) = nest (unclosed tokens) token := by
  rw [unclosed, List.foldl_append]
  rfl

end Token

theorem Group.close?_eq_none_iff (group : Group) (stop : Int) (source : Option String) :
    group.close? stop source = none ↔ group.terms = [] := by
  constructor
  · intro unfinished
    by_cases begun : group.terms = []
    · exact begun
    · obtain ⟨head, args, listed⟩ :=
        List.exists_cons_of_ne_nil (List.reverse_eq_nil_iff.not.mpr begun)
      have closed := (group.close?_eq_some_iff stop source _).mpr ⟨head, args, listed, rfl⟩
      cases unfinished.symm.trans closed
  · intro fresh
    rw [close?, fresh]
    rfl

namespace Reader

variable {reader : Reader} {text : String}

/-- What is wrong with a token that comes behind others. -/
inductive Defect (reader : Reader) (text : String) (before : List Token) (token : Token) :
    Error → Prop where
  | closesNothing (lexeme : token.lexeme = .closing) (none : Token.unclosed before = []) :
      Defect reader text before token (.malformed text token.span (.strayToken token.text))
  | closesEmpty {opening : Token} (lexeme : token.lexeme = .closing)
      (last : before.getLast? = some opening) (opens : opening.lexeme = .opening) :
      Defect reader text before token (.malformed text token.span (.strayToken token.text))
  | numeral {error : Error} (lexeme : token.lexeme = .numeral)
      (rejected : reader.notations.elaborate token.text (some token.span) reader.defaultScope =
        .error error) : Defect reader text before token error
  | name {error : Error} (lexeme : token.lexeme = .name)
      (unresolved : reader.resolveName token.text token.span = .error error) :
      Defect reader text before token error

theorem defect_numeral_iff {before : List Token} {token : Token}
    (lexeme : token.lexeme = .numeral) (error : Error) :
    reader.Defect text before token error ↔
      reader.notations.elaborate token.text (some token.span) reader.defaultScope =
        .error error := by
  constructor
  · intro defect
    cases defect with
    | closesNothing other _ => cases lexeme.symm.trans other
    | closesEmpty other _ _ => cases lexeme.symm.trans other
    | numeral _ rejected => exact rejected
    | name other _ => cases lexeme.symm.trans other
  · exact .numeral lexeme

theorem defect_name_iff {before : List Token} {token : Token} (lexeme : token.lexeme = .name)
    (error : Error) :
    reader.Defect text before token error ↔
      reader.resolveName token.text token.span = .error error := by
  constructor
  · intro defect
    cases defect with
    | closesNothing other _ => cases lexeme.symm.trans other
    | closesEmpty other _ _ => cases lexeme.symm.trans other
    | numeral other _ => cases lexeme.symm.trans other
    | name _ unresolved => exact unresolved
  · exact .name lexeme

/-- None of the tokens has a defect. -/
def Flawless (reader : Reader) (text : String) (tokens : List Token) : Prop :=
  ∀ before token after error, tokens = before ++ token :: after →
    ¬reader.Defect text before token error

/-- What the tokens so far say about the open groups: which parentheses opened them, and whether the
innermost one is still empty. -/
structure Follows (nesting : Nesting) (tokens : List Token) : Prop where
  stack : (nesting.inner :: nesting.outer).map Group.opening =
    (Token.unclosed tokens).map (fun opening => some opening.span) ++ [none]
  empty : nesting.inner.terms = [] ↔ ∀ last ∈ tokens.getLast?, last.lexeme = .opening

theorem follows_nil : Follows {} [] where
  stack := rfl
  empty := by simp

theorem Moves.follows {nesting next : Nesting} {tokens : List Token} {token : Token}
    (moves : reader.Moves nesting token next) (before : Follows nesting tokens) :
    Follows next (tokens ++ [token]) := by
  have stack := before.stack
  cases moves with
  | opening lexeme =>
    constructor
    · rw [Token.unclosed_concat]
      simpa [Token.nest, lexeme] using stack
    · simp [lexeme]
  | @closing group outer term lexeme around closed =>
    constructor
    · rw [Token.unclosed_concat]
      rw [around, List.map_cons] at stack
      cases opened : Token.unclosed tokens with
      | nil => simp [opened] at stack
      | cons innermost further =>
        -- The group that closes is the one that the latest open parenthesis opened.
        simp only [opened, List.map_cons, List.cons_append, List.cons.injEq] at stack
        simpa [Token.nest, lexeme, Group.add] using stack.2
    · simp [lexeme, Group.add]
  | leaf meaning =>
    have kept : Token.nest (Token.unclosed tokens) token = Token.unclosed tokens := by
      cases meaning with
      | numeral lexeme _ => simp [Token.nest, lexeme]
      | name lexeme _ => simp [Token.nest, lexeme]
    have other : token.lexeme ≠ .opening := by
      cases meaning with
      | numeral lexeme _ => simp [lexeme]
      | name lexeme _ => simp [lexeme]
    constructor
    · rw [Token.unclosed_concat, kept]
      simpa [Group.add] using stack
    · simp [other, Group.add]

theorem follows_of_foldlM {nesting : Nesting} {tokens : List Token}
    (run : tokens.foldlM (reader.step text) {} = .ok nesting) : Follows nesting tokens := by
  have follows := holds_of_foldlM (P := Follows) Moves.follows follows_nil run
  rwa [List.nil_append] at follows

namespace Follows

variable {nesting : Nesting} {tokens : List Token}

theorem outer_eq_nil_iff (follows : Follows nesting tokens) :
    nesting.outer = [] ↔ Token.unclosed tokens = [] := by
  have size := congrArg List.length follows.stack
  simp only [List.length_map, List.length_cons, List.length_append, List.length_nil] at size
  rw [← List.length_eq_zero_iff, ← List.length_eq_zero_iff]
  omega

/-- A closing parenthesis has a defect when no group is open, or the innermost one is empty. -/
theorem defect_closing_iff (follows : Follows nesting tokens) {token : Token}
    (lexeme : token.lexeme = .closing) (error : Error) :
    reader.Defect text tokens token error ↔
      (nesting.outer = [] ∨ nesting.inner.terms = []) ∧
        error = .malformed text token.span (.strayToken token.text) := by
  constructor
  · intro defect
    cases defect with
    | closesNothing _ none => exact ⟨.inl (follows.outer_eq_nil_iff.mpr none), rfl⟩
    | closesEmpty _ last opens =>
      refine ⟨.inr (follows.empty.mpr ?_), rfl⟩
      intro other same
      cases last.symm.trans same
      exact opens
    | numeral other _ => cases lexeme.symm.trans other
    | name other _ => cases lexeme.symm.trans other
  · intro vain
    obtain ⟨outermost | fresh, rfl⟩ := vain
    · exact .closesNothing lexeme (follows.outer_eq_nil_iff.mp outermost)
    · have opened := follows.empty.mp fresh
      cases last : tokens.getLast? with
      | none =>
        obtain rfl := List.getLast?_eq_none_iff.mp last
        exact .closesNothing lexeme rfl
      | some opening => exact .closesEmpty lexeme last (opened opening last)

end Follows

theorem step_eq_error_of_closing {nesting : Nesting} {token : Token}
    (lexeme : token.lexeme = .closing) (error : Error) :
    reader.step text nesting token = .error error ↔
      (nesting.outer = [] ∨ nesting.inner.terms = []) ∧
        error = .malformed text token.span (.strayToken token.text) := by
  unfold step
  simp only [lexeme]
  cases around : nesting.outer with
  | nil => simp [eq_comm]
  | cons group outer =>
    have fresh := (nesting.inner.startAt token.span.start).close?_eq_none_iff nesting.lastStop
      reader.source
    rw [Group.startAt_terms] at fresh
    cases closed : (nesting.inner.startAt token.span.start).close? nesting.lastStop
        reader.source with
    | none => simp [fresh.mp closed, eq_comm]
    | some term =>
      have begun : nesting.inner.terms ≠ [] := by simpa using Group.ne_nil_of_close? closed
      constructor
      · intro failed
        cases failed
      · intro vain
        simp [begun] at vain

/-- A step fails just at a token with a defect, and as the defect says. -/
theorem Follows.step_eq_error_iff {nesting : Nesting} {tokens : List Token}
    (follows : Follows nesting tokens) {token : Token} (solid : token.lexeme ≠ .blank)
    (error : Error) :
    reader.step text nesting token = .error error ↔ reader.Defect text tokens token error := by
  cases lexeme : token.lexeme with
  | blank => exact absurd lexeme solid
  | opening =>
    constructor
    · intro failed
      simp only [step, lexeme] at failed
      cases failed
    · intro defect
      cases defect <;> simp_all
  | closing => rw [step_eq_error_of_closing lexeme, follows.defect_closing_iff lexeme]
  | numeral =>
    rw [defect_numeral_iff lexeme]
    simp only [step, lexeme, bind_eq_error_iff]
    constructor
    · intro failed
      rcases failed with rejected | ⟨term, -, impossible⟩
      · exact rejected
      · cases impossible
    · exact .inl
  | name =>
    rw [defect_name_iff lexeme]
    simp only [step, lexeme, bind_eq_error_iff]
    constructor
    · intro failed
      rcases failed with unresolved | ⟨term, -, impossible⟩
      · exact unresolved
      · cases impossible
    · exact .inl

theorem step_eq_error_iff_defect {nesting : Nesting} {before : List Token} {token : Token}
    (passed : before.foldlM (reader.step text) {} = .ok nesting) (solid : token.lexeme ≠ .blank)
    (error : Error) :
    reader.step text nesting token = .error error ↔ reader.Defect text before token error :=
  (follows_of_foldlM passed).step_eq_error_iff solid error

/-- The steps get through just the tokens of which none has a defect. -/
theorem foldlM_succeeds_iff_flawless (text : String) {tokens : List Token}
    (solid : ∀ token ∈ tokens, token.lexeme ≠ .blank) :
    (∃ nesting, tokens.foldlM (reader.step text) {} = .ok nesting) ↔
      reader.Flawless text tokens := by
  constructor
  · intro taken before token after error split defect
    obtain ⟨nesting, taken⟩ := taken
    subst split
    rw [List.foldlM_append, bind_eq_ok_iff] at taken
    obtain ⟨middle, passed, later⟩ := taken
    rw [List.foldlM_cons, bind_eq_ok_iff] at later
    obtain ⟨next, stepped, -⟩ := later
    have failed := (step_eq_error_iff_defect passed (solid token (by simp)) error).mpr defect
    cases failed.symm.trans stepped
  · intro flawless
    cases run : tokens.foldlM (reader.step text) {} with
    | ok nesting => exact ⟨nesting, rfl⟩
    | error error =>
      obtain ⟨before, token, after, middle, rfl, passed, failed⟩ := exists_step_of_foldlM run
      have defect := (step_eq_error_iff_defect passed (solid token (by simp)) error).mp failed
      exact absurd defect (flawless before token after error rfl)

/-- The steps fail at the first token with a defect. -/
theorem foldlM_eq_error_iff (text : String) {tokens : List Token}
    (solid : ∀ token ∈ tokens, token.lexeme ≠ .blank) (error : Error) :
    tokens.foldlM (reader.step text) {} = .error error ↔
      ∃ before token after, tokens = before ++ token :: after ∧ reader.Flawless text before ∧
        reader.Defect text before token error := by
  have earlier {before after : List Token} {token : Token}
      (split : tokens = before ++ token :: after) : ∀ other ∈ before, other.lexeme ≠ .blank :=
    fun other member => solid other (by simp [split, member])
  constructor
  · intro run
    obtain ⟨before, token, after, middle, split, passed, failed⟩ := exists_step_of_foldlM run
    have flawless := (foldlM_succeeds_iff_flawless text (earlier split)).mp ⟨middle, passed⟩
    have defect :=
      (step_eq_error_iff_defect passed (solid token (by simp [split])) error).mp failed
    exact ⟨before, token, after, split, flawless, defect⟩
  · intro first
    obtain ⟨before, token, after, split, flawless, defect⟩ := first
    obtain ⟨middle, passed⟩ := (foldlM_succeeds_iff_flawless text (earlier split)).mpr flawless
    have failed :=
      (step_eq_error_iff_defect passed (solid token (by simp [split])) error).mpr defect
    rw [split, foldlM_append_of_eq_ok passed, List.foldlM_cons, failed]
    rfl

/-- When no parenthesis is open, only in front of the first token nothing has been read. -/
theorem Follows.fresh_iff {nesting : Nesting} {tokens : List Token}
    (follows : Follows nesting tokens) (closed : Token.unclosed tokens = []) :
    nesting.inner.terms = [] ↔ tokens = [] := by
  rw [follows.empty]
  constructor
  · intro opens
    rcases List.eq_nil_or_concat tokens with rfl | ⟨front, last, rfl⟩
    · rfl
    · rw [List.concat_eq_append] at opens closed
      have lexeme := opens last (by simp)
      simp [Token.unclosed_concat, Token.nest, lexeme] at closed
  · rintro rfl
    simp

/-- Behind the tokens an open parenthesis is an error, and so is the lack of tokens. -/
theorem Follows.finish_eq_error_iff {nesting : Nesting} {tokens : List Token}
    (follows : Follows nesting tokens) (error : Error) :
    reader.finish text nesting = .error error ↔
      tokens = [] ∧ error = .malformed text ⟨0, 0, reader.source⟩ .emptyTerm ∨
        ∃ opening further, Token.unclosed tokens = opening :: further ∧
          error = .malformed text opening.span .unclosed := by
  have stack := follows.stack
  cases opened : Token.unclosed tokens with
  | cons opening further =>
    simp only [opened, List.map_cons, List.cons_append, List.cons.injEq] at stack
    have some : tokens ≠ [] := by
      rintro rfl
      cases opened
    rw [finish, stack.1]
    simp [some, eq_comm]
  | nil =>
    simp only [opened, List.map_cons, List.map_nil, List.nil_append, List.cons.injEq] at stack
    have none := nesting.inner.close?_eq_none_iff nesting.lastStop reader.source
    rw [follows.fresh_iff opened] at none
    rw [finish, stack.1]
    by_cases empty : tokens = []
    · simp [none.mpr empty, empty, eq_comm]
    · obtain ⟨term, closed⟩ := Option.ne_none_iff_exists'.mp (none.not.mpr empty)
      simp [closed, empty]

/-- Everything that can be wrong with a text, in the order in which it is looked for. -/
inductive Fails (reader : Reader) (text : String) : Error → Prop where
  | stray {place : Nat} (stuck : Token.StuckAt text reader.source place) :
      Fails reader text
        (.malformed text ⟨place, place + 1, reader.source⟩ (.strayCharacter place))
  | empty (cut : Token.ofText text reader.source = .ok []) :
      Fails reader text (.malformed text ⟨0, 0, reader.source⟩ .emptyTerm)
  | defect {before after : List Token} {token : Token} {error : Error}
      (cut : Token.ofText text reader.source = .ok (before ++ token :: after))
      (earlier : reader.Flawless text before)
      (defect : reader.Defect text before token error) : Fails reader text error
  | unclosed {tokens further : List Token} {opening : Token}
      (cut : Token.ofText text reader.source = .ok tokens)
      (flawless : reader.Flawless text tokens)
      (opened : Token.unclosed tokens = opening :: further) :
      Fails reader text (.malformed text opening.span .unclosed)

theorem ne_blank_of_ofText {source : Option String} {tokens : List Token}
    (cut : Token.ofText text source = .ok tokens) : ∀ token ∈ tokens, token.lexeme ≠ .blank :=
  fun token member => (((Token.ofText_eq_ok_iff ..).mp cut).exact token member).1

theorem fails_of_read {error : Error} (failed : reader.read text = .error error) :
    reader.Fails text error := by
  rw [Reader.read, bind_eq_error_iff] at failed
  rcases failed with uncut | ⟨tokens, cut, later⟩
  · obtain ⟨place, stuck, rfl⟩ := (Token.ofText_eq_error_iff ..).mp uncut
    exact .stray stuck
  have solid := ne_blank_of_ofText cut
  rw [bind_eq_error_iff] at later
  rcases later with stopped | ⟨nesting, taken, unfinished⟩
  · obtain ⟨before, token, after, rfl, earlier, defect⟩ :=
      (foldlM_eq_error_iff text solid error).mp stopped
    exact .defect cut earlier defect
  · have flawless := (foldlM_succeeds_iff_flawless text solid).mp ⟨nesting, taken⟩
    rcases ((follows_of_foldlM taken).finish_eq_error_iff error).mp unfinished with
      ⟨rfl, rfl⟩ | ⟨opening, further, opened, rfl⟩
    · exact .empty cut
    · exact .unclosed cut flawless opened

theorem Fails.read {error : Error} (fails : reader.Fails text error) :
    reader.read text = .error error := by
  rw [Reader.read, bind_eq_error_iff]
  cases fails with
  | stray stuck => exact .inl stuck.ofText_eq_error
  | empty cut => exact .inr ⟨[], cut, rfl⟩
  | defect cut earlier defect =>
    refine .inr ⟨_, cut, ?_⟩
    rw [bind_eq_error_iff]
    exact .inl ((foldlM_eq_error_iff text (ne_blank_of_ofText cut) error).mpr
      ⟨_, _, _, rfl, earlier, defect⟩)
  | @unclosed tokens further opening cut flawless opened =>
    refine .inr ⟨tokens, cut, ?_⟩
    obtain ⟨nesting, taken⟩ :=
      (foldlM_succeeds_iff_flawless text (ne_blank_of_ofText cut)).mpr flawless
    rw [bind_eq_error_iff]
    exact .inr ⟨nesting, taken,
      ((follows_of_foldlM taken).finish_eq_error_iff _).mpr (.inr ⟨opening, further, opened, rfl⟩)⟩

/-- A text is not read just if something is wrong with it, and the error is the first thing that is
wrong. A text that cannot be cut fails whatever names and numerals mean; the error of a numeral
stands at its token, and the error of a name says that the name is not declared. -/
theorem read_fails_at_first_defect (ready : reader.Ready) (text : String) :
    (∀ error, reader.read text = .error error ↔ reader.Fails text error) ∧
      ((∀ error, ¬reader.Fails text error) → ∃ term, reader.read text = .ok term) ∧
      (∀ (other : Reader) (place : Nat), other.source = reader.source →
        Token.StuckAt text reader.source place → other.read text =
          .error (.malformed text ⟨place, place + 1, reader.source⟩ (.strayCharacter place))) ∧
      ∀ before token after error,
        Token.ofText text reader.source = .ok (before ++ token :: after) →
        reader.Defect text before token error →
          (token.lexeme = .numeral →
            reader.notations.Rejects token.text reader.defaultScope token.span error) ∧
          (token.lexeme = .name → error.IsUnresolved) := by
  refine ⟨fun error => ⟨fails_of_read, Fails.read⟩, ?_, ?_, ?_⟩
  · intro sound
    cases read : reader.read text with
    | ok term => exact ⟨term, rfl⟩
    | error error => exact absurd (fails_of_read read) (sound error)
  · intro other place same stuck
    rw [← same] at stuck ⊢
    exact (Fails.stray stuck).read
  · intro before token after error cut defect
    have exact := ((Token.ofText_eq_ok_iff ..).mp cut).exact token (by simp)
    constructor
    · intro lexeme
      exact NotationTable.rejects_of_elaborate ready.numerals
        ((defect_numeral_iff lexeme error).mp defect)
    · intro lexeme
      exact isUnresolved_of_resolveName ready exact lexeme
        ((defect_name_iff lexeme error).mp defect)

theorem ready_standard : standard.Ready where
  paths := by
    intro values member
    obtain rfl : values = libraryPath.map .text := List.mem_singleton.mp member
    exact ⟨libraryPath, rfl⟩
  numerals := standard_encodesNumerals

/-- An unknown key comes before the parenthesis that is left open, and a stray character comes
before the unknown key. -/
theorem read_fails_at_first_defect_standard :
    standard.Ready ∧ standard.Fails "f (x 1%zz" (.unknownScope "zz") ∧
      standard.read "1%zz ?" = .error (.malformed "1%zz ?" ⟨5, 6, none⟩ (.strayCharacter 5)) := by
  have cut : Token.scan none 0 "f (x 1%zz".toList [] =
      .ok [⟨.name, "f", ⟨0, 1, none⟩⟩, ⟨.opening, "(", ⟨2, 3, none⟩⟩, ⟨.name, "x", ⟨3, 4, none⟩⟩,
        ⟨.numeral, "1%zz", ⟨5, 9, none⟩⟩] := by decide +kernel
  have uncut : Token.scan none 0 "1%zz ?".toList [] = .error 5 := by decide +kernel
  have source : standard.source = none := rfl
  refine ⟨ready_standard, ?_, ?_⟩
  · apply ((read_fails_at_first_defect ready_standard "f (x 1%zz").1 _).mp
    rw [Reader.read, Token.ofText, source, cut]
    rfl
  · have failed : Token.ofText "1%zz ?" none =
        .error (.malformed "1%zz ?" ⟨5, 6, none⟩ (.strayCharacter 5)) := by
      rw [Token.ofText, uncut]
      rfl
    obtain ⟨place, stuck, same⟩ := (Token.ofText_eq_error_iff ..).mp failed
    cases same
    exact (read_fails_at_first_defect ready_standard "1%zz ?").2.2.1 standard 5 rfl stuck

end Reader

end UnaryNumeral
