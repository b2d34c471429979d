import Mathlib.Tactic.Choose
import UnaryNumeral.Proofs.Measures
import UnaryNumeral.Proofs.RoundTrip

/-! The numerals that stand in a printed text. Every numeral in a term is printed, or it is part of a
larger one that is; so the tokens of the printed text bound the digits of all of them. -/

namespace UnaryNumeral

namespace Token

/-- The texts of the numerals among some tokens. -/
def numerals (tokens : List Token) : List String :=
  (tokens.filter fun token => token.lexeme = .numeral).map Token.text

theorem numerals_append (tokens others : List Token) :
    numerals (tokens ++ others) = numerals tokens ++ numerals others := by
  simp [numerals]

/-- Wherever the text stands in front of a delimiter, its tokens have these numerals. -/
def Lexes (chars : List Char) (found : List String) : Prop :=
  ∀ source position behind tokens, Delimits behind →
    ∃ own, numerals own = found ∧
      scan source position (chars ++ behind) tokens =
        scan source (position + chars.length) behind (own.reverse ++ tokens)

variable {chars more : List Char} {found others : List String}

theorem lexes_name (named : Text.isName chars = true) : Lexes chars [] := by
  intro source position behind tokens delimits
  refine ⟨[_], ?_, scan_append _ _ _ (Lexeme.spells_name named behind delimits) (by decide)⟩
  rfl

theorem lexes_numeral {text : String} {literal : Literal}
    (spelt : Literal.ofText? text.toList = some literal) : Lexes text.toList [text] := by
  intro source position behind tokens delimits
  refine ⟨[_], ?_,
    scan_append _ _ _ (Literal.spells_of_ofText? spelt behind delimits) (by decide)⟩
  simp [numerals]

theorem Lexes.space (first : Lexes chars found) (later : Lexes more others) :
    Lexes (chars ++ ' ' :: more) (found ++ others) := by
  intro source position behind tokens delimits
  obtain ⟨own, same, scanned⟩ := first source position (' ' :: (more ++ behind)) tokens
    (delimits_space _)
  obtain ⟨next, otherSame, otherScanned⟩ :=
    later source (position + chars.length + 1) behind (own.reverse ++ tokens) delimits
  refine ⟨own ++ next, by rw [numerals_append, same, otherSame], ?_⟩
  rw [List.append_assoc, List.cons_append, scanned, scan_space, otherScanned, List.reverse_append,
    List.append_assoc, List.length_append, List.length_cons]
  congr 1
  omega

theorem Lexes.enclose (inside : Lexes chars found) : Lexes ('(' :: (chars ++ [')'])) found := by
  intro source position behind tokens delimits
  let opening : Token := ⟨.opening, "(", ⟨position, (position + 1 : Nat), source⟩⟩
  obtain ⟨own, same, scanned⟩ :=
    inside source (position + 1) (')' :: behind) (opening :: tokens) (delimits_closing _)
  let stop := position + 1 + chars.length
  let closing : Token := ⟨.closing, ")", ⟨stop, (stop + 1 : Nat), source⟩⟩
  refine ⟨opening :: (own ++ [closing]), ?_, ?_⟩
  · simpa [numerals, opening, closing] using same
  · rw [List.cons_append, List.append_assoc, List.singleton_append, scan_opening, scanned,
      scan_closing]
    congr 1
    · simp only [List.length_cons, List.length_append, List.length_nil]
      omega
    · simp [opening, closing, stop]

theorem Lexes.ofText {text : String} (lexes : Lexes text.toList found) (source : Option String) :
    ∃ tokens, ofText text source = .ok tokens ∧ numerals tokens = found := by
  obtain ⟨own, same, scanned⟩ := lexes source 0 [] [] delimits_nil
  rw [List.append_nil, List.append_nil, scan_nil, List.reverse_reverse] at scanned
  exact ⟨own, by rw [Token.ofText, scanned], same⟩

end Token

namespace Piece

/-- The numerals in the text of a piece, which stay the same inside an application. -/
structure Lexes (piece : Piece) (found : List String) : Prop where
  whole : Token.Lexes piece.text.toList found
  part : Token.Lexes piece.enclosed.toList found

theorem lexes_of_atomic {text : String} {found : List String}
    (lexes : Token.Lexes text.toList found) : Lexes ⟨text, true⟩ found := ⟨lexes, lexes⟩

theorem lexes_intercalate (first : Piece × List String) (others : List (Piece × List String))
    (lexes : ∀ pair ∈ first :: others, pair.1.Lexes pair.2) :
    Token.Lexes (" ".intercalate ((first :: others).map fun pair => pair.1.enclosed)).toList
      ((first :: others).flatMap Prod.snd) := by
  induction others generalizing first with
  | nil => simpa using (lexes first (List.mem_singleton_self first)).part
  | cons second rest ih =>
    obtain ⟨here, later⟩ := List.forall_mem_cons.mp lexes
    have joined := here.part.space (ih second later)
    simpa [String.intercalate_cons_cons] using joined

theorem lexes_juxtapose (first : Piece × List String) (others : List (Piece × List String))
    (lexes : ∀ pair ∈ first :: others, pair.1.Lexes pair.2) :
    (juxtapose ((first :: others).map Prod.fst) false).Lexes
      ((first :: others).flatMap Prod.snd) := by
  have whole := lexes_intercalate first others lexes
  constructor
  · simpa [juxtapose, Function.comp_def] using whole
  · simpa [juxtapose, enclosed, Function.comp_def] using whole.enclose

end Piece

/-- The names in a term lead the reader to what they are the names of. -/
structure Reader.Recalls (reader : Reader) (term : Term) : Prop where
  refs : ∀ handle span, (Term.ref handle span).Within term →
    Text.isName handle.name.toList = true ∧ reader.Opens handle.name handle
  vars : ∀ name span, (Term.var name span).Within term →
    Text.isName name.toList = true ∧ Reader.isVariableName name = true ∧ reader.Unopened name

theorem Reader.Recalls.child {reader : Reader} {term child : Term} (recalls : reader.Recalls term)
    (member : child ∈ term.children) : reader.Recalls child where
  refs := fun handle span inside => recalls.refs handle span (.child member inside)
  vars := fun name span inside => recalls.vars name span (.child member inside)

def Token.LiteralsFit (tokens : List Token) : Prop :=
  ∀ numeral ∈ numerals tokens, ∀ literal ∈ Literal.ofText? numeral.toList,
    literal.digits.length ≤ Literal.digitLimit

/-- No literal among the numerals of a text has too many digits. -/
def NumeralsFit (text : String) : Prop :=
  ∀ tokens, Token.ofText text = .ok tokens → Token.LiteralsFit tokens

instance (tokens : List Token) : Decidable (Token.LiteralsFit tokens) :=
  inferInstanceAs (Decidable (∀ numeral ∈ Token.numerals tokens,
    ∀ literal ∈ Literal.ofText? numeral.toList, literal.digits.length ≤ Literal.digitLimit))

instance (text : String) : Decidable (NumeralsFit text) :=
  match cut : Token.ofText text with
  | .error _ => .isTrue fun _ same => nomatch cut.symm.trans same
  | .ok tokens => decidable_of_iff (Token.LiteralsFit tokens)
      ⟨fun fits _ same => Except.ok.inj (cut.symm.trans same) ▸ fits, fun fits => fits tokens cut⟩

namespace Printer

variable {printer : Printer} {reader : Reader}

/-- Each numeral in a term has at most as many digits as one of the literals. -/
def Bounds (printer : Printer) (term : Term) (found : List String) : Prop :=
  ∀ sub value scope, sub.Within term →
    printer.notations.uninterpret sub printer.scopes = some (value, scope) →
    ∃ text ∈ found, ∃ literal, Literal.ofText? text.toList = some literal ∧
      (Text.decimal value).length ≤ literal.digits.length

theorem Bounds.mono {term : Term} {found more : List String} (bounds : printer.Bounds term found)
    (kept : found ⊆ more) : printer.Bounds term more := by
  intro sub value scope inside known
  obtain ⟨text, listed, longer⟩ := bounds sub value scope inside known
  exact ⟨text, kept listed, longer⟩

theorem bounds_of_children {term : Term} {found : List String}
    (unknown : printer.notations.uninterpret term printer.scopes = none)
    (each : ∀ child ∈ term.children, printer.Bounds child found) : printer.Bounds term found := by
  intro sub value scope inside known
  cases inside with
  | self => cases unknown.symm.trans known
  | child member deeper => exact each _ member sub value scope deeper known

section

variable (agrees : printer.AgreesWith reader)
include agrees

/-- A numeral stands for its own depth. -/
theorem AgreesWith.value_eq_depth {term : Term} {value : Int} {scope : String}
    (known : printer.notations.uninterpret term printer.scopes = some (value, scope)) :
    value = Int.ofNat term.depth := by
  obtain ⟨interpreter, matching, answer⟩ := NotationTable.exists_of_uninterpret known
  obtain ⟨codec, -, decodes⟩ := agrees.codecs scope interpreter matching
  rw [decodes] at answer
  exact Codec.depth_of_decoder answer

/-- A numeral is printed as a literal, which bounds the numerals inside it as well, since they are
not deeper. -/
theorem lexes_format {term : Term} {value : Int} {scope : String}
    (known : printer.notations.uninterpret term printer.scopes = some (value, scope)) :
    ∃ found, Piece.Lexes ⟨printer.notations.format value scope printer.openScopes, true⟩ found ∧
      printer.Bounds term found := by
  obtain ⟨interpreter, matching, -⟩ := NotationTable.exists_of_uninterpret known
  have keyed := agrees.keyed scope matching.listed
  obtain rfl := agrees.value_eq_depth known
  obtain ⟨literal, spelt, digits, -⟩ := NotationTable.ofText?_format keyed term.depth
  refine ⟨_, Piece.lexes_of_atomic (Token.lexes_numeral spelt), ?_⟩
  intro sub value scope inside part
  refine ⟨_, List.mem_singleton_self _, literal, spelt, ?_⟩
  rw [agrees.value_eq_depth part, digits, String.length_toList]
  exact Text.length_repr_mono inside.depth_le

/-- The literals in the plain rendering bound all numerals of the term. -/
theorem plain_lexes {term : Term} (recalls : reader.Recalls term) (depth : Nat) :
    ∃ found, (printer.plain term depth).Lexes found ∧ printer.Bounds term found := by
  refine agrees.plain_induct
    (motive := fun term piece => reader.Recalls term →
      ∃ found, piece.Lexes found ∧ printer.Bounds term found)
    ?numeral ?ref ?var ?nothing ?juxtaposed term depth recalls
  case numeral =>
    intro term value scope known _
    exact lexes_format agrees known
  case ref =>
    intro handle span known recalls
    have named := (recalls.refs handle span .self).1
    exact ⟨[], Piece.lexes_of_atomic (Token.lexes_name named),
      bounds_of_children known (List.forall_mem_nil _)⟩
  case var =>
    intro name span known recalls
    have named := (recalls.vars name span .self).1
    exact ⟨[], Piece.lexes_of_atomic (Token.lexes_name named),
      bounds_of_children known (List.forall_mem_nil _)⟩
  case nothing =>
    intro head span piece known headLexes recalls
    obtain ⟨found, lexes, bounds⟩ := headLexes (recalls.child (List.mem_cons_self ..))
    exact ⟨found, lexes, bounds_of_children known (List.forall_mem_singleton.mpr bounds)⟩
  case juxtaposed =>
    intro head first others span headPiece argPiece known headLexes argLexes recalls
    obtain ⟨headFound, lexes, bounds⟩ := headLexes (recalls.child (List.mem_cons_self ..))
    have each : ∀ arg ∈ first :: others, ∃ found,
        (argPiece arg).Lexes found ∧ printer.Bounds arg found := by
      intro arg member
      exact argLexes arg member (recalls.child (List.mem_cons_of_mem _ member))
    choose! argFound lexesArg boundsArg using each
    let pair (arg : Term) : Piece × List String := (argPiece arg, argFound arg)
    have pieces : ∀ entry ∈ (headPiece, headFound) :: (first :: others).map pair,
        entry.1.Lexes entry.2 := by
      rw [List.forall_mem_cons, List.forall_mem_map]
      exact ⟨lexes, lexesArg⟩
    have joined := Piece.lexes_juxtapose _ _ pieces
    have below : ∀ child ∈ head :: first :: others,
        printer.Bounds child (headFound ++ (first :: others).flatMap argFound) := by
      refine List.forall_mem_cons.mpr ⟨bounds.mono (List.subset_append_left ..), ?_⟩
      intro arg member
      apply (boundsArg arg member).mono
      intro text listed
      exact List.mem_append_right _ (List.mem_flatMap.mpr ⟨arg, member, listed⟩)
    refine ⟨_, ?_, bounds_of_children known below⟩
    simpa [pair, Function.comp_def, List.flatMap_map] using joined

/-- When the literals that are printed fit, the term has no numeral with too many digits. -/
theorem legible_of_fits {term : Term} (recalls : reader.Recalls term)
    (fits : NumeralsFit (printer.print term)) : printer.Legible reader term where
  refs := recalls.refs
  vars := recalls.vars
  numerals := by
    intro sub value scope inside known
    obtain ⟨calls, rendered⟩ := render_eq_plain agrees.respectsRuns term
    have printed : printer.print term = (printer.plain term 0).text := by rw [print, rendered]
    obtain ⟨found, lexes, bounds⟩ := plain_lexes agrees recalls 0
    obtain ⟨tokens, cut, rfl⟩ := lexes.whole.ofText none
    obtain ⟨text, listed, literal, spelt, longer⟩ := bounds sub value scope inside known
    rw [printed] at fits
    exact Nat.le_trans longer (fits tokens cut text listed literal spelt)

end

end Printer

end UnaryNumeral
