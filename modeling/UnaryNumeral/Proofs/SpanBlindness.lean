import UnaryNumeral.Proofs.PlainRendering
import UnaryNumeral.Proofs.ScopeOrder
import UnaryNumeral.Proofs.TermEquality

/-! Nothing that is asked about a term looks at its spans. Printing does not either, as long as no
decoder does; those of codecs do not. -/

namespace UnaryNumeral

theorem Term.headRef_bare (term : Term) : term.bare.headRef = term.headRef := by
  cases term with
  | ref handle span => rfl
  | var name span => rfl
  | app head args span => rw [bare_app, headRef, headRef, asRef_bare]

namespace NotationTable

variable {table : NotationTable} (decodesNumerals : table.DecodesNumerals)
include decodesNumerals

theorem numberIn_bare (term : Term) (scope : String) :
    table.numberIn term.bare scope = table.numberIn term scope := by
  unfold numberIn
  rw [term.headRef_bare]
  cases found : table.interpreters.find? scope with
  | none => rfl
  | some interpreter =>
    cases term.headRef with
    | none => rfl
    | some head =>
      by_cases asked : interpreter.matchesTerms = true ∧ head ∈ interpreter.printableHeads
      · obtain ⟨codec, decodes⟩ := decodesNumerals scope interpreter found asked.1
        have answer : interpreter.decode term.bare = interpreter.decode term := by
          rw [decodes]
          exact congrArg (Option.map Int.ofNat) (codec.decode_bare term)
        simp only [asked, and_self, ↓reduceIte, answer]
      · simp only [asked, ↓reduceIte]

theorem uninterpret_bare (term : Term) (scopes : List String) :
    table.uninterpret term.bare scopes = table.uninterpret term scopes := by
  rw [uninterpret_eq_findSome?, uninterpret_eq_findSome?]
  simp only [numberIn_bare decodesNumerals]

end NotationTable

namespace Printer

variable {printer : Printer}

/-- Whether a term is a numeral does not depend on its spans. -/
def IgnoresSpans (printer : Printer) : Prop :=
  ∀ term : Term, printer.notations.uninterpret term.bare printer.scopes =
    printer.notations.uninterpret term printer.scopes

theorem withinWidth_map {α β : Type} (printer : Printer) (f : α → β) (args : List α) :
    printer.withinWidth (args.map f) = (printer.withinWidth args).map f := by
  rw [withinWidth_eq_keptArgs, withinWidth_eq_keptArgs, map_keptArgs]

/-- It is enough to look at nodes that are near enough and no numerals. -/
private theorem plain_bare_of_unknown (ignores : printer.IgnoresSpans) {term : Term} {depth : Nat}
    (unknown : printer.isTooDeep depth = false →
      printer.notations.uninterpret term printer.scopes = none →
      printer.notations.uninterpret term.bare printer.scopes = none →
      printer.plain term.bare depth = printer.plain term depth) :
    printer.plain term.bare depth = printer.plain term depth := by
  have asked := ignores term
  by_cases deep : printer.isTooDeep depth = true
  · rw [plain_of_isTooDeep _ deep, plain_of_isTooDeep _ deep]
  · have near : printer.isTooDeep depth = false := Bool.eq_false_iff.mpr deep
    cases known : printer.notations.uninterpret term printer.scopes with
    | some answer =>
      rw [known] at asked
      rw [plain_of_uninterpret near asked, plain_of_uninterpret near known]
    | none =>
      rw [known] at asked
      exact unknown near known asked

theorem plain_bare (ignores : printer.IgnoresSpans) (term : Term) (depth : Nat) :
    printer.plain term.bare depth = printer.plain term depth := by
  induction term generalizing depth with
  | ref handle span =>
    apply plain_bare_of_unknown ignores
    intro near known asked
    rw [plain_ref near known, Term.bare_ref, plain_ref near asked]
  | var name span =>
    apply plain_bare_of_unknown ignores
    intro near known asked
    rw [plain_var near known, Term.bare_var, plain_var near asked]
  | app head args span ihHead ihArgs =>
    apply plain_bare_of_unknown ignores
    intro near known asked
    rw [Term.bare_app] at asked ⊢
    cases args with
    | nil =>
      rw [plain_app_nil near known, List.map_nil, plain_app_nil near asked]
      exact ihHead depth
    | cons first others =>
      have below : ((printer.withinWidth (first :: others)).map Term.bare).map
            (fun arg => printer.plain arg (depth + 1)) =
          (printer.withinWidth (first :: others)).map
            fun arg => printer.plain arg (depth + 1) := by
        rw [List.map_map]
        apply List.map_congr_left
        intro arg kept
        exact ihArgs arg (mem_of_mem_withinWidth kept) (depth + 1)
      rw [List.map_cons] at asked ⊢
      rw [plain_app_cons near known, plain_app_cons near asked, ihHead, ← List.map_cons,
        withinWidth_map, below, List.length_map]

theorem respectsRuns_of_decodesNumerals (decodes : printer.notations.DecodesNumerals) :
    printer.RespectsRuns := by
  intro scope interpreter matching
  obtain ⟨codec, answers⟩ := decodes scope interpreter matching.found matching.matchesTerms
  unfold Decoder.RespectsRuns
  rw [answers]
  exact codec.decoder_respectsRuns

theorem ignoresSpans_of_decodesNumerals (decodes : printer.notations.DecodesNumerals) :
    printer.IgnoresSpans := by
  intro term
  exact NotationTable.uninterpret_bare decodes term printer.scopes

theorem print_congr (respects : printer.RespectsRuns) (ignores : printer.IgnoresSpans)
    {term other : Term} (same : term.bare = other.bare) :
    printer.print term = printer.print other := by
  obtain ⟨calls, rendered⟩ := render_eq_plain respects term
  obtain ⟨otherCalls, otherRendered⟩ := render_eq_plain respects other
  rw [print, rendered, print, otherRendered, ← plain_bare ignores term, same, plain_bare ignores]

end Printer

/-- Two terms that nothing tells apart which can be asked about a term: neither codecs nor scopes,
neither its head nor its measures, nor a printer with the decoders of codecs. -/
structure Term.Indistinguishable (a b : Term) : Prop where
  decode : ∀ codec : Codec, codec.decode a = codec.decode b
  headRef : a.headRef = b.headRef
  depth : a.depth = b.depth
  countNodes : a.countNodes = b.countNodes
  isClosed : a.isClosed = b.isClosed
  uninterpret : ∀ (table : NotationTable) (scopes : List String), table.DecodesNumerals →
    table.uninterpret a scopes = table.uninterpret b scopes
  print : ∀ (table : NotationTable) (layout : Layout), table.DecodesNumerals →
    (table.printer layout).print a = (table.printer layout).print b

/-- Terms that are the same up to spans are told apart by nothing. -/
theorem Term.indistinguishable_of_bare_eq {a b : Term} (same : a.bare = b.bare) :
    a.Indistinguishable b where
  decode := by
    intro codec
    rw [← codec.decode_bare, same, codec.decode_bare]
  headRef := by rw [← headRef_bare, same, headRef_bare]
  depth := by rw [← depth_bare, same, depth_bare]
  countNodes := by rw [← countNodes_bare, same, countNodes_bare]
  isClosed := by rw [← isClosed_bare, same, isClosed_bare]
  uninterpret := by
    intro table scopes decodes
    rw [← NotationTable.uninterpret_bare decodes, same, NotationTable.uninterpret_bare decodes]
  print := by
    intro table layout decodes
    exact Printer.print_congr (Printer.respectsRuns_of_decodesNumerals decodes)
      (Printer.ignoresSpans_of_decodesNumerals decodes) same

end UnaryNumeral
