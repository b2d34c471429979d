import UnaryNumeral.Proofs.Grammar
import UnaryNumeral.Proofs.LeadingLexeme

/-! How tokens lie in a text. They come one behind the other, with nothing but blanks in between,
and a part of the text that is cut out along tokens has just these tokens. -/

namespace UnaryNumeral

/-- The part of a text that a span covers. -/
def Span.excerpt (span : Span) (text : String) : String :=
  String.ofList ((text.toList.take span.stop.toNat).drop span.start.toNat)

namespace Token

/-- The tokens of a text that stands at a position: one lexeme behind the other up to the end, the
blanks left out. -/
inductive Tiles (source : Option String) : Nat → List Char → List Token → Prop where
  | done {position : Nat} : Tiles source position [] []
  | blank {position length : Nat} {text : List Char} {tokens : List Token}
      (leads : Lexeme.Leads text .blank length)
      (later : Tiles source (position + length) (text.drop length) tokens) :
      Tiles source position text tokens
  | token {position length : Nat} {text : List Char} {lexeme : Lexeme} {tokens : List Token}
      (leads : Lexeme.Leads text lexeme length) (solid : lexeme ≠ .blank)
      (later : Tiles source (position + length) (text.drop length) tokens) :
      Tiles source position text
        (⟨lexeme, String.ofList (text.take length), ⟨position, position + length, source⟩⟩ ::
          tokens)

theorem tiles_of_scan {source : Option String} {position : Nat} {text : List Char}
    {earlier tokens : List Token} (cut : scan source position text earlier = .ok tokens) :
    ∃ later, tokens = earlier.reverse ++ later ∧ Tiles source position text later := by
  fun_induction scan source position text earlier with
  | case1 position text earlier none empty =>
    cases cut
    rw [List.isEmpty_iff.mp empty]
    exact ⟨[], (List.append_nil _).symm, .done⟩
  | case2 position text earlier none rest => cases cut
  | case3 position text earlier lexeme length found token ih =>
    have leads := (Lexeme.first?_eq_some_iff ..).mp found
    obtain ⟨later, rfl, tiles⟩ := ih cut
    by_cases blank : lexeme = .blank
    · rw [dif_pos blank]
      subst blank
      exact ⟨later, rfl, .blank leads tiles⟩
    · rw [dif_neg blank]
      exact ⟨token :: later, by simp, .token leads blank tiles⟩

theorem Tiles.scan {source : Option String} {position : Nat} {text : List Char}
    {tokens : List Token} (tiles : Tiles source position text tokens) (earlier : List Token) :
    scan source position text earlier = .ok (earlier.reverse ++ tokens) := by
  induction tiles generalizing earlier with
  | done => rw [scan_nil, List.append_nil]
  | blank leads later ih =>
    rw [scan_of_first? _ _ _ ((Lexeme.first?_eq_some_iff ..).mpr leads), if_pos rfl, ih]
  | token leads solid later ih =>
    rw [scan_of_first? _ _ _ ((Lexeme.first?_eq_some_iff ..).mpr leads), if_neg solid, ih]
    simp

/-- A text has the tokens that tile it. -/
theorem ofText_eq_ok_iff (text : String) (source : Option String) (tokens : List Token) :
    ofText text source = .ok tokens ↔ Tiles source 0 text.toList tokens := by
  unfold ofText
  constructor
  · intro given
    split at given
    · rename_i cut
      cases given
      obtain ⟨later, rfl, tiles⟩ := tiles_of_scan cut
      exact tiles
    · cases given
  · intro tiles
    rw [tiles.scan []]
    rfl

/-- A token of another text, so far away from this place. -/
def moved (distance : Int) (source : Option String) (token : Token) : Token :=
  { token with span := ⟨token.span.start + distance, token.span.stop + distance, source⟩ }

theorem Tiles.moved {source other : Option String} {position place : Nat} {text : List Char}
    {tokens : List Token} {distance : Int} (tiles : Tiles source position text tokens)
    (same : (position : Int) + distance = place) :
    Tiles other place text (tokens.map (moved distance other)) := by
  induction tiles generalizing place with
  | done => exact .done
  | blank leads later ih => exact .blank leads (ih (by omega))
  | @token position length text lexeme tokens leads solid later ih =>
    have behind : (position : Int) + length + distance = (place : Int) + length := by omega
    have first : Token.moved distance other
          ⟨lexeme, String.ofList (text.take length), ⟨position, position + length, source⟩⟩ =
        ⟨lexeme, String.ofList (text.take length), ⟨place, place + length, other⟩⟩ := by
      simp only [Token.moved, same, behind]
    rw [List.map_cons, first]
    exact .token leads solid (ih (by omega))

theorem Tiles.dropBlanks {source : Option String} {position : Nat} {text : List Char}
    {first : Token} {tokens : List Token} (tiles : Tiles source position text (first :: tokens)) :
    ∃ count ≤ text.length, first.span.start = (position + count : Nat) ∧
      Tiles source (position + count) (text.drop count) (first :: tokens) := by
  generalize listed : first :: tokens = all at tiles ⊢
  induction tiles with
  | done => cases listed
  | @blank position length text _ leads later ih =>
    obtain ⟨count, inside, starts, behind⟩ := ih listed
    have short := leads.length_le
    rw [List.length_drop] at inside
    refine ⟨length + count, by omega, by rw [starts]; omega, ?_⟩
    rw [← Nat.add_assoc, ← List.drop_drop]
    exact behind
  | token leads solid later =>
    cases listed
    exact ⟨0, Nat.zero_le _, rfl, .token leads solid later⟩

/-- A text can be cut behind each of its tokens. -/
theorem Tiles.split {source : Option String} {position : Nat} {text : List Char}
    {front back : List Token} (tiles : Tiles source position text (front ++ back)) :
    ∃ count ≤ text.length, front.length ≤ count ∧
      lastStop position front = (position + count : Nat) ∧
      Tiles source position (text.take count) front ∧
      Tiles source (position + count) (text.drop count) back := by
  generalize listed : front ++ back = all at tiles
  induction tiles generalizing front with
  | done =>
    obtain ⟨rfl, rfl⟩ := List.append_eq_nil_iff.mp listed
    exact ⟨0, Nat.le_refl _, Nat.le_refl _, rfl, .done, .done⟩
  | @blank position length text tokens leads later ih =>
    cases front with
    | nil =>
      subst listed
      exact ⟨0, Nat.zero_le _, Nat.le_refl _, rfl, .done, .blank leads later⟩
    | cons first others =>
      obtain ⟨count, inside, enough, stops, before, behind⟩ := ih listed
      have short := leads.length_le
      rw [List.length_drop] at inside
      refine ⟨length + count, by omega, by omega, ?_, ?_, ?_⟩
      · rw [lastStop_of_ne_nil (List.cons_ne_nil _ _) _ ((position + length : Nat) : Int), stops]
        omega
      · refine .blank (leads.take (Nat.le_add_right ..)) ?_
        rw [List.drop_take, Nat.add_sub_cancel_left]
        exact before
      · rw [← Nat.add_assoc, ← List.drop_drop]
        exact behind
  | @token position length text lexeme tokens leads solid later ih =>
    cases front with
    | nil =>
      subst listed
      exact ⟨0, Nat.zero_le _, Nat.le_refl _, rfl, .done, .token leads solid later⟩
    | cons first others =>
      obtain ⟨rfl, remaining⟩ := List.cons.inj listed
      obtain ⟨count, inside, enough, stops, before, behind⟩ := ih remaining
      have short := leads.length_le
      have positive := leads.length_pos
      rw [List.length_drop] at inside
      refine ⟨length + count, by omega, by rw [List.length_cons]; omega, ?_, ?_, ?_⟩
      · rw [← List.singleton_append, lastStop_append]
        simp only [lastStop, List.getLast?_singleton, Option.map_some, Option.getD_some]
          at stops ⊢
        push_cast at stops
        omega
      · have cut := leads.take (Nat.le_add_right length count)
        have taken : (text.take (length + count)).take length = text.take length := by
          rw [List.take_take, Nat.min_eq_left (Nat.le_add_right ..)]
        rw [← taken]
        refine .token cut solid ?_
        rw [List.drop_take, Nat.add_sub_cancel_left]
        exact before
      · rw [← Nat.add_assoc, ← List.drop_drop]
        exact behind

theorem Tiles.source_eq {source : Option String} {position : Nat} {text : List Char}
    {tokens : List Token} (tiles : Tiles source position text tokens) :
    ∀ token ∈ tokens, token.span.source = source := by
  induction tiles with
  | done => simp
  | blank leads later ih => exact ih
  | token leads solid later ih => exact List.forall_mem_cons.mpr ⟨rfl, ih⟩

/-- Tokens none of which is empty, each behind the one before. -/
structure InOrder (tokens : List Token) : Prop where
  nonempty : ∀ token ∈ tokens, token.span.start < token.span.stop
  apart : tokens.Pairwise fun token next => token.span.stop ≤ next.span.start

theorem Tiles.le_start {source : Option String} {position : Nat} {text : List Char}
    {tokens : List Token} (tiles : Tiles source position text tokens) :
    ∀ token ∈ tokens, (position : Int) ≤ token.span.start := by
  induction tiles with
  | done => simp
  | blank leads later ih =>
    intro token member
    have behind := ih token member
    push_cast at behind
    omega
  | token leads solid later ih =>
    refine List.forall_mem_cons.mpr ⟨Int.le_refl _, fun token member => ?_⟩
    have behind := ih token member
    push_cast at behind
    omega

theorem Tiles.inOrder {source : Option String} {position : Nat} {text : List Char}
    {tokens : List Token} (tiles : Tiles source position text tokens) : InOrder tokens := by
  induction tiles with
  | done => exact ⟨by simp, .nil⟩
  | blank leads later ih => exact ih
  | token leads solid later ih =>
    have positive := leads.length_pos
    refine ⟨List.forall_mem_cons.mpr ⟨?_, ih.nonempty⟩, .cons ?_ ih.apart⟩
    · simp only
      omega
    · intro next member
      have behind := later.le_start next member
      push_cast at behind
      exact behind

/-- Adjacent tokens of a text are all the tokens of the part of the text that they span. -/
theorem Tiles.excerpt {source : Option String} {text : String} {before inside after : List Token}
    (tiles : Tiles source 0 text.toList (before ++ (inside ++ after))) (some : inside ≠ [])
    (other : Option String) :
    ∃ start stop : Nat, extent inside source = ⟨start, stop, source⟩ ∧ start < stop ∧
      stop ≤ text.length ∧
      ofText ((extent inside source).excerpt text) other =
        .ok (inside.map (Token.moved (-(start : Int)) other)) := by
  obtain ⟨skipped, -, -, -, -, behind⟩ := tiles.split
  obtain ⟨first, others, rfl⟩ := List.exists_cons_of_ne_nil some
  obtain ⟨blanks, within, starts, onward⟩ := behind.dropBlanks
  change Tiles source _ _ (first :: others ++ after) at onward
  rw [List.drop_drop] at onward
  obtain ⟨count, fits, enough, stops, exact, -⟩ := onward.split
  rw [List.length_drop] at within fits
  rw [Nat.zero_add] at starts stops exact
  rw [List.length_cons] at enough
  have size : text.toList.length = text.length := String.length_toList
  have spans : extent (first :: others) source =
      ⟨(skipped + blanks : Nat), (skipped + blanks + count : Nat), source⟩ := by
    rw [extent, firstStart, lastStop_of_ne_nil some 0 ((skipped + blanks : Nat) : Int), stops]
    simp only [List.head?_cons, Option.map_some, Option.getD_some, starts]
  refine ⟨skipped + blanks, skipped + blanks + count, spans, by omega, by omega, ?_⟩
  rw [spans, ofText_eq_ok_iff, Span.excerpt, String.toList_ofList, Int.toNat_natCast,
    Int.toNat_natCast, List.drop_take, Nat.add_sub_cancel_left]
  have toFront : ((skipped + blanks : Nat) : Int) + -((skipped + blanks : Nat) : Int) =
      (0 : Nat) := by omega
  exact exact.moved toFront

end Token

end UnaryNumeral
