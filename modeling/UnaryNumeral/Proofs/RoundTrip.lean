import UnaryNumeral.Proofs.LiteralElaboration
import UnaryNumeral.Proofs.PlainRendering
import UnaryNumeral.Proofs.Spelling
import UnaryNumeral.Proofs.Subterm

/-! Reading undoes printing: a term that is printed without limits is read back up to spans, its
applications to nothing replaced by their heads. -/

namespace UnaryNumeral

namespace Piece

/-- The reader takes the text of a piece for a term, and what stands for the piece inside an
application for an atom. -/
structure Spells (piece : Piece) (reader : Reader) (term : Term) : Prop where
  whole : reader.SpellsTerm piece.text.toList term
  part : reader.SpellsAtoms piece.enclosed.toList [term]

variable {reader : Reader}

theorem spells_of_atomic {text : String} {term : Term}
    (atom : reader.SpellsAtoms text.toList [term]) : Spells ⟨text, true⟩ reader term where
  whole := atom.spellsTerm .nowhere
  part := atom

theorem spells_of_not_atomic {text : String} {term : Term}
    (whole : reader.SpellsTerm text.toList term) : Spells ⟨text, false⟩ reader term where
  whole := whole
  part := by
    have grouped := whole.enclose
    simpa [enclosed] using grouped

theorem spellsAtoms_intercalate (first : Piece × Term) (others : List (Piece × Term))
    (spells : ∀ pair ∈ first :: others, pair.1.Spells reader pair.2) :
    reader.SpellsAtoms
      (" ".intercalate ((first :: others).map fun pair => pair.1.enclosed)).toList
      ((first :: others).map Prod.snd) := by
  induction others generalizing first with
  | nil => simpa using (spells first (List.mem_singleton_self first)).part
  | cons second rest ih =>
    obtain ⟨here, later⟩ := List.forall_mem_cons.mp spells
    have joined := here.part.space (ih second later)
    simpa [String.intercalate_cons_cons] using joined

theorem spells_juxtapose (head : Piece × Term) (first : Piece × Term)
    (others : List (Piece × Term)) (span : Span)
    (spells : ∀ pair ∈ head :: first :: others, pair.1.Spells reader pair.2) :
    (juxtapose ((head :: first :: others).map Prod.fst) false).Spells reader
      (.app head.2 ((first :: others).map Prod.snd) span) := by
  apply spells_of_not_atomic
  have atoms := spellsAtoms_intercalate head (first :: others) spells
  have whole := atoms.spellsTerm span
  simpa [Function.comp_def] using whole

end Piece

/-- A printer without limits and a reader that go together: one notation table; each interpreter
that prints encodes and decodes as some codec does; of the printed scopes only the default one of
the reader may be open; and a literal can spell the keys of the others. -/
structure Printer.AgreesWith (printer : Printer) (reader : Reader) : Prop where
  notations : reader.notations = printer.notations
  deep : printer.maxDepth = none
  wide : printer.maxWidth = none
  codecs : ∀ scope interpreter, printer.notations.Matches printer.scopes scope interpreter →
    ∃ codec : Codec, interpreter.encode = codec.encoder ∧
      interpreter.decode = codec.decoder
  opened : ∀ scope ∈ printer.scopes, scope ∈ printer.openScopes →
    reader.defaultScope = some scope
  keyed : ∀ scope ∈ printer.scopes, scope ∉ printer.openScopes →
    ∃ key, printer.notations.delimiterOfScope scope = some key ∧ Text.isKey key.toList = true

/-- A term whose text can be understood: the short name of each reference finds it under the open
paths, the name of each variable is found under none, and no numeral has too many digits. -/
structure Printer.Legible (printer : Printer) (reader : Reader) (term : Term) : Prop where
  refs : ∀ handle span, (Term.ref handle span).Within term →
    Text.isName handle.name.toList = true ∧ reader.Opens handle.name handle
  vars : ∀ name span, (Term.var name span).Within term →
    Text.isName name.toList = true ∧ Reader.isVariableName name = true ∧ reader.Unopened name
  numerals : ∀ sub value scope, sub.Within term →
    printer.notations.uninterpret sub printer.scopes = some (value, scope) →
    (Text.decimal value).length ≤ Literal.digitLimit

namespace Printer

variable {printer : Printer} {reader : Reader}

theorem Legible.child {term child : Term} (legible : printer.Legible reader term)
    (member : child ∈ term.children) : printer.Legible reader child where
  refs := fun handle span inside => legible.refs handle span (.child member inside)
  vars := fun name span inside => legible.vars name span (.child member inside)
  numerals := fun sub value scope inside =>
    legible.numerals sub value scope (.child member inside)

theorem AgreesWith.respectsRuns (agrees : printer.AgreesWith reader) : printer.RespectsRuns := by
  intro scope interpreter matching
  obtain ⟨codec, -, decodes⟩ := agrees.codecs scope interpreter matching
  unfold Decoder.RespectsRuns
  rw [decodes]
  exact codec.decoder_respectsRuns

/-- A numeral reads back as the numeral of its number, in the scope that printed it. -/
theorem spells_format (agrees : printer.AgreesWith reader) {term : Term} {value : Int}
    {scope : String}
    (known : printer.notations.uninterpret term printer.scopes = some (value, scope))
    (short : (Text.decimal value).length ≤ Literal.digitLimit) :
    Piece.Spells ⟨printer.notations.format value scope printer.openScopes, true⟩ reader
      term.collapsed := by
  obtain ⟨interpreter, matching, answer⟩ := NotationTable.exists_of_uninterpret known
  obtain ⟨codec, encodes, decodes⟩ := agrees.codecs scope interpreter matching
  rw [decodes] at answer
  obtain ⟨n, decoded, rfl⟩ := Option.map_eq_some_iff.mp answer
  have opened := agrees.opened scope matching.listed
  have keyed := agrees.keyed scope matching.listed
  obtain ⟨literal, spelt, -⟩ := NotationTable.ofText?_format keyed n
  apply Piece.spells_of_atomic
  apply Reader.spellsAtoms_numeral spelt
  intro span
  refine ⟨codec.numeral span n, ?_, ?_⟩
  · have encoded : interpreter.encode (some span) (.int n) = .ok (codec.numeral span n) := by
      rw [encodes]
      exact codec.encode_ofNat (some span) n
    rw [agrees.notations]
    exact NotationTable.elaborate_format matching.found opened keyed short encoded
  · rw [Codec.bare_numeral, Codec.bare_collapsed_of_decode decoded]

section

variable (agrees : printer.AgreesWith reader)
include agrees

theorem AgreesWith.isTooDeep (depth : Nat) : printer.isTooDeep depth = false := by
  simp [Printer.isTooDeep, agrees.deep]

theorem AgreesWith.isTooWide (count : Nat) : printer.isTooWide count = false := by
  simp [Printer.isTooWide, agrees.wide]

theorem AgreesWith.withinWidth (args : List Term) : printer.withinWidth args = args := by
  rw [withinWidth_eq_keptArgs]
  exact printer.keptArgs_of_not_isTooWide args (agrees.isTooWide args.length)

/-- Induction along the plain rendering without limits: what holds of numerals and of names with
their texts, of an application to nothing with the text of its head, and of any other application
with the pieces of its parts side by side, holds of each term with its rendering. -/
theorem AgreesWith.plain_induct {motive : Term → Piece → Prop}
    (numeral : ∀ term value scope,
      printer.notations.uninterpret term printer.scopes = some (value, scope) →
      motive term ⟨printer.notations.format value scope printer.openScopes, true⟩)
    (ref : ∀ handle span, printer.notations.uninterpret (.ref handle span) printer.scopes = none →
      motive (.ref handle span) ⟨handle.name, true⟩)
    (var : ∀ name span, printer.notations.uninterpret (.var name span) printer.scopes = none →
      motive (.var name span) ⟨name, true⟩)
    (nothing : ∀ head span piece,
      printer.notations.uninterpret (.app head [] span) printer.scopes = none →
      motive head piece → motive (.app head [] span) piece)
    (juxtaposed : ∀ head first others span headPiece argPiece,
      printer.notations.uninterpret (.app head (first :: others) span) printer.scopes = none →
      motive head headPiece → (∀ arg ∈ first :: others, motive arg (argPiece arg)) →
      motive (.app head (first :: others) span)
        (.juxtapose (headPiece :: (first :: others).map argPiece) false))
    (term : Term) (depth : Nat) : motive term (printer.plain term depth) := by
  have near := agrees.isTooDeep
  have of_unknown {term : Term} {depth : Nat}
      (unknown : printer.notations.uninterpret term printer.scopes = none →
        motive term (printer.plain term depth)) : motive term (printer.plain term depth) := by
    cases known : printer.notations.uninterpret term printer.scopes with
    | some found =>
      rw [plain_of_uninterpret (near depth) known]
      exact numeral term found.1 found.2 known
    | none => exact unknown known
  induction term generalizing depth with
  | ref handle span =>
    apply of_unknown
    intro known
    rw [plain_ref (near depth) known]
    exact ref handle span known
  | var name span =>
    apply of_unknown
    intro known
    rw [plain_var (near depth) known]
    exact var name span known
  | app head args span ihHead ihArgs =>
    apply of_unknown
    intro known
    cases args with
    | nil =>
      rw [plain_app_nil (near depth) known]
      exact nothing head span _ known (ihHead depth)
    | cons first others =>
      rw [plain_app_cons (near depth) known, agrees.withinWidth, agrees.isTooWide]
      exact juxtaposed head first others span _ _ known (ihHead depth)
        fun arg member => ihArgs arg member (depth + 1)

/-- The plain rendering of a term reads back as the term, at any depth: every node is a numeral, a
name, or pieces that its children spell. -/
theorem plain_spells {term : Term} (legible : printer.Legible reader term) (depth : Nat) :
    (printer.plain term depth).Spells reader term.collapsed := by
  refine agrees.plain_induct
    (motive := fun term piece => printer.Legible reader term → piece.Spells reader term.collapsed)
    ?numeral ?ref ?var ?nothing ?juxtaposed term depth legible
  case numeral =>
    intro term value scope known legible
    exact spells_format agrees known (legible.numerals term value scope .self known)
  case ref =>
    intro handle span _ legible
    obtain ⟨named, opens⟩ := legible.refs handle span .self
    exact Piece.spells_of_atomic (Reader.spellsAtoms_ref named opens span)
  case var =>
    intro name span _ legible
    obtain ⟨named, lower, unknown⟩ := legible.vars name span .self
    exact Piece.spells_of_atomic (Reader.spellsAtoms_var named lower unknown span)
  case nothing =>
    intro head span piece _ headSpells legible
    exact headSpells (legible.child (List.mem_cons_self ..))
  case juxtaposed =>
    intro head first others span headPiece argPiece _ headSpells argSpells legible
    let pair (arg : Term) : Piece × Term := (argPiece arg, arg.collapsed)
    have pieces : ∀ entry ∈ (headPiece, head.collapsed) :: (first :: others).map pair,
        entry.1.Spells reader entry.2 := by
      rw [List.forall_mem_cons, List.forall_mem_map]
      refine ⟨headSpells (legible.child (List.mem_cons_self ..)), fun arg member => ?_⟩
      exact argSpells arg member (legible.child (List.mem_cons_of_mem _ member))
    have joined := Piece.spells_juxtapose _ _ _ span pieces
    rw [Term.collapsed_app_cons]
    simpa [pair, Function.comp_def] using joined

end

end Printer

namespace Reader

/-- Reading undoes printing. A term of any shape that is printed without limits is read back
successfully, and what is read is, up to spans, the term with each application to nothing replaced
by its head. -/
theorem read_print {printer : Printer} {reader : Reader} (agrees : printer.AgreesWith reader)
    {term : Term} (legible : printer.Legible reader term) :
    ∃ found, reader.read (printer.print term) = .ok found ∧
      found.same term.collapsed = true := by
  obtain ⟨calls, rendered⟩ := Printer.render_eq_plain agrees.respectsRuns term
  have spells := Printer.plain_spells agrees legible 0
  rw [Printer.print, rendered]
  exact spells.whole.read

theorem agreesWith_standard : Tables.standard.notations.printer.AgreesWith standard where
  notations := rfl
  deep := rfl
  wide := rfl
  codecs := by
    intro scope interpreter matching
    rw [(Tables.standard_find? matching.found).2]
    exact ⟨Codec.standard, rfl, rfl⟩
  opened := by
    intro scope listed _
    have only : scope ∈ [standardScope] := Tables.standard_scopes ▸ listed
    rw [List.mem_singleton.mp only]
    rfl
  keyed := fun _ listed closed => absurd listed closed

/-- With the standard tables, a compound head, an application to nothing and a numeral. -/
theorem read_print_standard :
    let printer := Tables.standard.notations.printer
    let head := Term.app (.app (.var "f" .nowhere) [] .nowhere) [.var "x" .nowhere] .nowhere
    let term := Term.app head [Codec.standard.numeral .nowhere 1] .nowhere
    printer.AgreesWith standard ∧ printer.Legible standard term ∧
      printer.print term = "(f x) 1" ∧
      ∃ found, standard.read (printer.print term) = .ok found ∧
        found.same term.collapsed = true := by
  intro printer head term
  have within : ∀ sub, sub.Within term →
      sub = term ∨ sub = head ∨ sub = .app (.var "f" .nowhere) [] .nowhere ∨
        sub = Codec.standard.numeral .nowhere 1 ∨ sub = .var "f" .nowhere ∨
        sub = .var "x" .nowhere ∨ sub = .ref Codec.standard.succ .nowhere ∨
        sub = .ref Codec.standard.zero .nowhere := by
    intro sub inside
    simp only [term, head, Codec.numeral_succ, Codec.numeral_zero, Term.applyTo,
      Term.within_app_iff, Term.within_ref_iff, Term.within_var_iff, List.mem_singleton,
      exists_eq_left, List.not_mem_nil, false_and, exists_false, or_false] at inside ⊢
    grind
  have legible : printer.Legible standard term := by
    refine ⟨fun handle span inside => ?_, fun name span inside => ?_,
      fun sub value scope inside known => ?_⟩
    · have found := within _ inside
      simp only [term, head, Codec.numeral_succ, Term.applyTo, reduceCtorEq, Term.ref.injEq,
        false_or] at found
      rcases found with ⟨rfl, -⟩ | ⟨rfl, -⟩
      · exact ⟨by decide, [], libraryPath.map .text, [], rfl, by simp, rfl⟩
      · exact ⟨by decide, [], libraryPath.map .text, [], rfl, by simp, rfl⟩
    · have found := within _ inside
      simp only [term, head, Codec.numeral_succ, Term.applyTo, reduceCtorEq, Term.var.injEq,
        false_or, or_false] at found
      rcases found with ⟨rfl, -⟩ | ⟨rfl, -⟩
      · exact ⟨by decide, by decide, List.forall_mem_singleton.mpr rfl⟩
      · exact ⟨by decide, by decide, List.forall_mem_singleton.mpr rfl⟩
    · have short : (printer.notations.uninterpret sub printer.scopes).all (fun found =>
          decide ((Text.decimal found.1).length ≤ Literal.digitLimit)) = true := by
        rcases within sub inside with rfl | rfl | rfl | rfl | rfl | rfl | rfl | rfl <;> decide +kernel
      simpa [known] using short
  exact ⟨agreesWith_standard, legible, by decide +kernel, read_print agreesWith_standard legible⟩

end Reader

end UnaryNumeral
