import UnaryNumeral.Proofs.Reading
import UnaryNumeral.Proofs.Relocation

/-! Where the nodes of a term that was read come from. Each node spans the part of the text that
reads as the node; the nodes inside a numeral all span the whole numeral. -/

namespace UnaryNumeral

namespace Token

theorem InOrder.middle {before inside after : List Token}
    (ordered : InOrder (before ++ (inside ++ after))) : InOrder inside where
  nonempty := fun token member => ordered.nonempty token (by simp [member])
  apart := (List.pairwise_append.mp (List.pairwise_append.mp ordered.apart).2.1).1

theorem InOrder.within_extent {tokens : List Token} (ordered : InOrder tokens) {token : Token}
    (member : token ∈ tokens) :
    firstStart 0 tokens ≤ token.span.start ∧ token.span.stop ≤ lastStop 0 tokens := by
  constructor
  · obtain ⟨first, rest, rfl⟩ := List.exists_cons_of_ne_nil (List.ne_nil_of_mem member)
    have positive := ordered.nonempty first (List.mem_cons_self ..)
    rcases List.mem_cons.mp member with rfl | later
    · exact Int.le_refl _
    · have apart := (List.pairwise_cons.mp ordered.apart).1 token later
      exact Int.le_of_lt (Int.lt_of_lt_of_le positive apart)
  · rcases List.eq_nil_or_concat tokens with rfl | ⟨earlier, last, rfl⟩
    · cases member
    · rw [List.concat_eq_append] at member ordered ⊢
      rw [lastStop_concat]
      have positive := ordered.nonempty last (by simp)
      rcases List.mem_append.mp member with early | same
      · have apart := (List.pairwise_append.mp ordered.apart).2.2 token early last (by simp)
        exact Int.le_of_lt (Int.lt_of_le_of_lt apart positive)
      · obtain rfl := List.mem_singleton.mp same
        exact Int.le_refl _

end Token

namespace Reader

variable {reader : Reader}

/-- How a node came out of some tokens: a single token stands for it, or it is an application of
atoms side by side, or it is further down in what a numeral was elaborated to. -/
inductive Origin (reader : Reader) (tokens : List Token) : Term → Prop where
  | token {before after : List Token} {token : Token} {node : Term}
      (place : tokens = before ++ ([token] ++ after)) (meaning : reader.Means token node) :
      Origin reader tokens node
  | juxtaposed {before after : List Token} {parts : List Phrase} {head : Term} {args : List Term}
      (place : tokens = before ++ (Phrase.tokensAll parts ++ after)) (several : args ≠ [])
      (atoms : reader.DerivesAtoms parts (head :: args)) :
      Origin reader tokens
        (.app head args (Token.extent (Phrase.tokensAll parts) reader.source))
  | below {token : Token} {literal node : Term} (member : token ∈ tokens)
      (meaning : reader.Means token literal) (lexeme : token.lexeme = .numeral)
      (inside : node.Within literal) (deeper : node ≠ literal) : Origin reader tokens node

theorem Origin.widen {tokens : List Token} {node : Term} (origin : reader.Origin tokens node)
    (front back : List Token) : reader.Origin (front ++ (tokens ++ back)) node := by
  cases origin with
  | @token before after token node place meaning =>
    exact .token (by simp [place, List.append_assoc] :
      _ = (front ++ before) ++ ([token] ++ (after ++ back))) meaning
  | @juxtaposed before after parts head args place several atoms =>
    exact .juxtaposed (by simp [place, List.append_assoc] :
      _ = (front ++ before) ++ (Phrase.tokensAll parts ++ (after ++ back))) several atoms
  | below member meaning lexeme inside deeper =>
    exact .below (by simp [member]) meaning lexeme inside deeper

mutual

theorem DerivesAtom.origin {part : Phrase} {term node : Term}
    (derivation : DerivesAtom reader part term) (inside : node.Within term) :
    reader.Origin part.tokens node := by
  match derivation with
  | .token meaning =>
    by_cases top : node = term
    · exact top ▸ @Origin.token _ _ [] [] _ _ rfl meaning
    · cases meaning with
      | numeral lexeme elaborated =>
        exact .below (List.mem_singleton_self _) (.numeral lexeme elaborated) lexeme inside top
      | name lexeme named =>
        cases named with
        | qualified _ _ => exact absurd (Term.within_ref_iff.mp inside) top
        | opened _ _ => exact absurd (Term.within_ref_iff.mp inside) top
        | free _ _ _ => exact absurd (Term.within_var_iff.mp inside) top
  | @DerivesAtom.group _ opening closing _ _ _ _ enclosed =>
    have widened := (enclosed.origin inside).widen [opening] [closing]
    exact widened

theorem DerivesTerm.origin {parts : List Phrase} {term node : Term}
    (derivation : DerivesTerm reader parts term) (inside : node.Within term) :
    reader.Origin (Phrase.tokensAll parts) node := by
  match derivation with
  | .single atom =>
    have widened := (atom.origin inside).widen [] []
    exact widened
  | @DerivesTerm.application _ part next rest head args first others =>
    rcases Term.within_app_iff.mp inside with rfl | inHead | ⟨arg, member, below⟩
    · have several : args ≠ [] := by
        cases others
        simp
      exact .juxtaposed (by simp : _ = [] ++ (Phrase.tokensAll (part :: next :: rest) ++ []))
        several (.cons first others)
    · have widened := (first.origin inHead).widen [] (Phrase.tokensAll (next :: rest))
      exact widened
    · have widened := (others.origin member below).widen part.tokens []
      simpa [Phrase.tokensAll] using widened

theorem DerivesAtoms.origin {parts : List Phrase} {terms : List Term} {term node : Term}
    (derivation : DerivesAtoms reader parts terms) (member : term ∈ terms)
    (inside : node.Within term) : reader.Origin (Phrase.tokensAll parts) node := by
  match derivation with
  | .nil => cases member
  | @DerivesAtoms.cons _ part rest _ _ first others =>
    rcases List.mem_cons.mp member with rfl | later
    · have widened := (first.origin inside).widen [] (Phrase.tokensAll rest)
      exact widened
    · have widened := (others.origin later inside).widen part.tokens []
      simpa [Phrase.tokensAll] using widened

end

theorem Means.span_eq {token : Token} {term : Term} (meaning : reader.Means token term)
    (numerals : reader.notations.EncodesNumerals) : term.span = token.span := by
  cases meaning with
  | numeral lexeme elaborated =>
    obtain ⟨codec, n, rfl, -⟩ := numerals.elaborate elaborated
    exact Codec.span_of_within_numeral .self
  | name lexeme named => cases named <;> rfl

mutual

/-- What is derived starts where one of its tokens starts and stops where one stops. -/
theorem DerivesAtom.ends {part : Phrase} {term : Term} (derivation : DerivesAtom reader part term)
    (numerals : reader.notations.EncodesNumerals) :
    ∃ first ∈ part.tokens, ∃ last ∈ part.tokens,
      term.span.start = first.span.start ∧ term.span.stop = last.span.stop := by
  match derivation with
  | @DerivesAtom.token _ only _ meaning =>
    have spans := meaning.span_eq numerals
    exact ⟨only, List.mem_singleton_self _, only, List.mem_singleton_self _, by rw [spans],
      by rw [spans]⟩
  | .group _ _ inside =>
    obtain ⟨first, firstMember, last, lastMember, ends⟩ := inside.ends numerals
    exact ⟨first, by simp [Phrase.tokens, firstMember], last, by simp [Phrase.tokens, lastMember],
      ends⟩

theorem DerivesTerm.ends {parts : List Phrase} {term : Term}
    (derivation : DerivesTerm reader parts term)
    (numerals : reader.notations.EncodesNumerals) :
    ∃ first ∈ Phrase.tokensAll parts, ∃ last ∈ Phrase.tokensAll parts,
      term.span.start = first.span.start ∧ term.span.stop = last.span.stop := by
  match derivation with
  | .single atom =>
    obtain ⟨first, firstMember, last, lastMember, ends⟩ := atom.ends numerals
    exact ⟨first, List.mem_append_left _ firstMember, last, List.mem_append_left _ lastMember, ends⟩
  | .application begun others =>
    have filled := (DerivesTerm.application begun others).tokens_ne_nil
    refine ⟨_, List.head_mem filled, _, List.getLast_mem filled, ?_, ?_⟩
    · simp [Term.span, Token.extent, Token.firstStart, List.head?_eq_some_head filled]
    · simp [Term.span, Token.extent, Token.lastStop, List.getLast?_eq_some_getLast filled]

end

section

variable (numerals : reader.notations.EncodesNumerals)
include numerals

theorem DerivesAtoms.ends {parts : List Phrase} {terms : List Term}
    (derivation : reader.DerivesAtoms parts terms) :
    ∀ term ∈ terms, ∃ first ∈ Phrase.tokensAll parts, ∃ last ∈ Phrase.tokensAll parts,
      term.span.start = first.span.start ∧ term.span.stop = last.span.stop := by
  induction terms generalizing parts with
  | nil => simp
  | cons term rest ih =>
    cases derivation with
    | cons atom others =>
      refine List.forall_mem_cons.mpr ⟨?_, fun next member => ?_⟩
      · obtain ⟨first, firstMember, last, lastMember, ends⟩ := atom.ends numerals
        exact ⟨first, List.mem_append_left _ firstMember, last, List.mem_append_left _ lastMember,
          ends⟩
      · obtain ⟨first, firstMember, last, lastMember, ends⟩ := ih others next member
        exact ⟨first, List.mem_append_right _ firstMember, last,
          List.mem_append_right _ lastMember, ends⟩

/-- Atoms side by side stand one behind the other, as their tokens do. -/
theorem DerivesAtoms.pairwise_apart {parts : List Phrase} {terms : List Term}
    (derivation : reader.DerivesAtoms parts terms)
    (ordered : Token.InOrder (Phrase.tokensAll parts)) :
    terms.Pairwise fun node next => node.span.stop ≤ next.span.start := by
  induction terms generalizing parts with
  | nil => exact .nil
  | cons term rest ih =>
    cases derivation with
    | @cons part others _ _ atom later =>
      obtain ⟨-, behind, across⟩ := List.pairwise_append.mp ordered.apart
      have rest : Token.InOrder (Phrase.tokensAll others) :=
        ⟨fun token member => ordered.nonempty token (List.mem_append_right _ member), behind⟩
      refine .cons (fun next member => ?_) (ih later rest)
      obtain ⟨-, -, last, lastMember, -, stops⟩ := atom.ends numerals
      obtain ⟨first, firstMember, -, -, starts, -⟩ := later.ends numerals next member
      rw [stops, starts]
      exact across last lastMember first firstMember

end

/-- A span covers a part of the text, and what it covers reads as the term, whatever the source is
called. -/
def ReadsBack (reader : Reader) (text : String) (span : Span) (term : Term) : Prop :=
  ∃ start stop : Nat, span = ⟨start, stop, reader.source⟩ ∧ start < stop ∧ stop ≤ text.length ∧
    ∀ source, ∃ found, (reader.inSource source).read (span.excerpt text) = .ok found ∧
      found.same term = true

section

variable {text : String} {tokens : List Token}
  (tiles : Token.Tiles reader.source 0 text.toList tokens)
  (numerals : reader.notations.EncodesNumerals)
include tiles numerals

/-- What adjacent tokens derive can be read from the part of the text that they span. -/
theorem DerivesTerm.readsBack {before after : List Token} {parts : List Phrase} {term : Term}
    (derivation : reader.DerivesTerm parts term)
    (place : tokens = before ++ (Phrase.tokensAll parts ++ after)) :
    reader.ReadsBack text (Token.extent (Phrase.tokensAll parts) reader.source) term := by
  subst place
  obtain ⟨start, stop, spans, positive, inside, -⟩ :=
    tiles.excerpt derivation.tokens_ne_nil reader.source
  refine ⟨start, stop, spans, positive, inside, fun source => ?_⟩
  obtain ⟨start, -, -, -, -, cut⟩ := tiles.excerpt derivation.tokens_ne_nil source
  obtain ⟨found, again, same⟩ :=
    derivation.relocate numerals (Token.relocates_moved (-(start : Int)) source) source
  rw [← Phrase.tokensAll_mapAll] at cut
  exact ⟨found, again.read _ cut, (Term.same_eq_true_iff ..).mpr same⟩

theorem Means.readsBack {token : Token} {term : Term} (meaning : reader.Means token term)
    (member : token ∈ tokens) : reader.ReadsBack text token.span term := by
  obtain ⟨before, after, place⟩ := List.append_of_mem member
  have derivation : reader.DerivesTerm [.leaf token] term := .single (.token meaning)
  have back := derivation.readsBack tiles numerals place
  have spans : Token.extent (Phrase.tokensAll [.leaf token]) reader.source = token.span := by
    rw [← tiles.source_eq token member]
    rfl
  rwa [spans] at back

end

/-- A node is further down in what one of the numeral tokens was elaborated to. -/
def BelowLiteral (reader : Reader) (tokens : List Token) (node : Term) : Prop :=
  ∃ token ∈ tokens, ∃ literal, token.lexeme = .numeral ∧
    reader.notations.elaborate token.text (some token.span) reader.defaultScope = .ok literal ∧
    node.Within literal ∧ node ≠ literal

/-- Source spans are exact. Whatever text is read: a node that is not further down in a numeral
spans a part of the text that reads as the node; a numeral spans its own text, and so does every
node in it; and the head and the arguments of an application that came with no numeral stand inside
the span of the application, each behind the one before. -/
theorem read_spans (numerals : reader.notations.EncodesNumerals) {text : String} {term : Term}
    (read : reader.read text = .ok term) :
    ∃ tokens, Token.ofText text reader.source = .ok tokens ∧
      (∀ node, node.Within term → ¬ reader.BelowLiteral tokens node →
        reader.ReadsBack text node.span node) ∧
      (∀ token ∈ tokens, ∀ literal, token.lexeme = .numeral →
        reader.notations.elaborate token.text (some token.span) reader.defaultScope = .ok literal →
        reader.ReadsBack text token.span literal ∧
          ∀ node : Term, node.Within literal → node.span = token.span) ∧
      (∀ head args span, (Term.app head args span).Within term →
        ¬ reader.InLiteral tokens (.app head args span) →
        ((head :: args).Pairwise fun node next => node.span.stop ≤ next.span.start) ∧
          ∀ child ∈ head :: args, span.start ≤ child.span.start ∧ child.span.stop ≤ span.stop) := by
  obtain ⟨parts, cut, derivation⟩ := derivesTerm_of_read read
  have tiles := (Token.ofText_eq_ok_iff ..).mp cut
  refine ⟨_, cut, ?_, ?_, ?_⟩
  · intro node inside apart
    cases derivation.origin inside with
    | @token before after token _ place meaning =>
      rw [meaning.span_eq numerals]
      exact meaning.readsBack tiles numerals (by simp [place])
    | juxtaposed place several atoms =>
      have whole := derivesTerm_iff.mpr ⟨_, _, atoms, rfl⟩
      rw [if_neg (by simpa using several)] at whole
      exact whole.readsBack tiles numerals place
    | below member meaning lexeme within deeper =>
      cases meaning with
      | numeral _ elaborated =>
        exact absurd ⟨_, member, _, lexeme, elaborated, within, deeper⟩ apart
      | name named _ => rw [lexeme] at named; cases named
  · intro token member literal lexeme elaborated
    have meaning : reader.Means token literal := .numeral lexeme elaborated
    refine ⟨meaning.readsBack tiles numerals member, fun node inside => ?_⟩
    obtain ⟨codec, n, rfl, -⟩ := numerals.elaborate elaborated
    exact Codec.span_of_within_numeral inside
  · intro head args span inside apart
    cases derivation.origin inside with
    | @token before after token _ place meaning =>
      cases meaning with
      | numeral lexeme elaborated =>
        exact absurd ⟨token, by simp [place], _, lexeme, elaborated, .self⟩ apart
      | name _ named => cases named
    | @juxtaposed before after parts _ _ place several atoms =>
      have ordered := tiles.inOrder
      rw [place] at ordered
      have inside := ordered.middle
      refine ⟨atoms.pairwise_apart numerals inside, fun child member => ?_⟩
      obtain ⟨first, firstMember, last, lastMember, starts, stops⟩ :=
        atoms.ends numerals child member
      rw [starts, stops]
      exact ⟨(inside.within_extent firstMember).1, (inside.within_extent lastMember).2⟩
    | below member meaning lexeme within deeper =>
      cases meaning with
      | numeral _ elaborated => exact absurd ⟨_, member, _, lexeme, elaborated, within⟩ apart
      | name named _ => rw [lexeme] at named; cases named

/-- With the standard tables, nested groups, a numeral in one of them. -/
theorem read_spans_standard :
    standard.notations.EncodesNumerals ∧
      ∃ term tokens, standard.read "((f)) (1%nat (S x))" = .ok term ∧
        Token.ofText "((f)) (1%nat (S x))" = .ok tokens ∧
        ∀ node, node.Within term → ¬ standard.BelowLiteral tokens node →
          standard.ReadsBack "((f)) (1%nat (S x))" node.span node := by
  have accepted : (standard.read "((f)) (1%nat (S x))").toOption.isSome = true := by
    decide +kernel
  obtain ⟨term, read⟩ := exists_ok_of_isSome accepted
  obtain ⟨tokens, cut, back, -, -⟩ := read_spans standard_encodesNumerals read
  exact ⟨standard_encodesNumerals, term, tokens, read, cut, back⟩

end Reader

end UnaryNumeral
