import UnaryNumeral.Proofs.CommandReports
import UnaryNumeral.Proofs.PrintedNumerals
import UnaryNumeral.Proofs.SourceSpans
import UnaryNumeral.Proofs.SpanBlindness

namespace UnaryNumeral

namespace NotationTable

variable {path : Path}

theorem decodesNumerals_under : (under path).DecodesNumerals := by
  intro scope interpreter found _
  rw [(find?_under found).2]
  exact ⟨.under path, rfl⟩

theorem uninterpret_nil (table : NotationTable) (term : Term) :
    table.uninterpret term [] = none := by
  rw [uninterpret_eq_none_iff]
  intro scope interpreter head matching
  cases matching.listed

end NotationTable

theorem SymbolTable.opens_under {path : Path}
    (valid : ∀ segment ∈ path, Path.isSegment segment = true) {key : Path × String}
    {handle : Handle} (found : (under path).entries.find? key = some handle) :
    Text.isName handle.name.toList = true ∧
      (Environment.under path).reader.Opens handle.name handle := by
  have names : Text.isName succName.toList = true ∧ Text.isName zeroName.toList = true ∧
      Text.isName natName.toList = true := by decide
  have known : key = (path, handle.name) ∧ Text.isName handle.name.toList = true := by
    have stored := found
    rw [find?_under] at stored
    split at stored
    · rename_i same
      cases stored
      exact ⟨same, names.1⟩
    · split at stored
      · rename_i same
        cases stored
        exact ⟨same, names.2.1⟩
      · split at stored
        · rename_i same
          cases stored
          exact ⟨same, names.2.2⟩
        · cases stored
  obtain ⟨rfl, named⟩ := known
  refine ⟨named, [], path.map .text, [], rfl, List.forall_mem_nil _, ?_⟩
  have spelt := PathSpelling.toPath_spelled path valid
  exact (bind_eq_ok_iff ..).mpr ⟨path, spelt, congrArg Except.ok found⟩

namespace Environment

variable {path : Path}

theorem agreesWith_printer : (under path).printer.AgreesWith (under path).reader where
  notations := rfl
  deep := rfl
  wide := rfl
  codecs := by
    intro scope interpreter matching
    rw [(NotationTable.find?_under matching.found).2]
    exact ⟨.under path, rfl, rfl⟩
  opened := by
    intro scope _ opened
    rw [List.mem_singleton.mp opened]
    rfl
  keyed := by
    intro scope listed closed
    have only : scope ∈ [standardScope] := NotationTable.scopes_under ▸ listed
    exact absurd only closed

theorem agreesWith_plainPrinter : (under path).plainPrinter.AgreesWith (under path).reader where
  notations := rfl
  deep := rfl
  wide := rfl
  codecs := fun _ _ matching => nomatch matching.listed
  opened := fun _ listed => nomatch listed
  keyed := fun _ listed => nomatch listed

theorem stored_of_means {token : Token} {term : Term} {handle : Handle} {span : Span}
    (meaning : (under path).reader.Means token term)
    (inside : (Term.ref handle span).Within term) :
    ∃ key, (SymbolTable.under path).entries.find? key = some handle := by
  cases meaning with
  | numeral lexeme elaborated =>
    obtain ⟨literal, -, -, -, rfl⟩ := NotationTable.elaborate_under elaborated
    rcases Codec.ref_within_numeral inside with rfl | rfl
    · exact ⟨(path, succName), by rw [SymbolTable.find?_under, if_pos rfl]⟩
    · exact ⟨(path, zeroName), by simp [SymbolTable.find?_under, zeroName, succName]⟩
  | name lexeme named =>
    cases named with
    | qualified dotted found =>
      cases Term.within_ref_iff.mp inside
      obtain ⟨found, -, stored⟩ := (SymbolTable.resolve_eq_ok_iff ..).mp found
      exact ⟨_, stored⟩
    | opened undotted found =>
      cases Term.within_ref_iff.mp inside
      obtain ⟨before, place, after, -, -, looked⟩ := found
      obtain ⟨found, -, stored⟩ := (bind_eq_ok_iff ..).mp looked
      exact ⟨_, Except.ok.inj stored⟩
    | free undotted unknown lower => cases Term.within_var_iff.mp inside

/-- A variable in what a token stands for is the token itself, a name that is not found. -/
theorem free_of_means {token : Token} {term : Term} {name : String} {span : Span}
    (exact : token.Exact) (meaning : (under path).reader.Means token term)
    (inside : (Term.var name span).Within term) :
    Text.isName name.toList = true ∧ Reader.isVariableName name = true ∧
      (under path).reader.Unopened name := by
  cases meaning with
  | numeral lexeme elaborated =>
    obtain ⟨literal, -, -, -, rfl⟩ := NotationTable.elaborate_under elaborated
    exact absurd inside Codec.not_var_within_numeral
  | name lexeme named =>
    cases named with
    | qualified dotted found => cases Term.within_ref_iff.mp inside
    | opened undotted found => cases Term.within_ref_iff.mp inside
    | free undotted unknown lower =>
      cases Term.within_var_iff.mp inside
      exact ⟨exact.isName lexeme undotted, lower, unknown⟩

/-- The names in a term that was read are found again. -/
theorem recalls_of_read (valid : ∀ segment ∈ path, Path.isSegment segment = true) {text : String}
    {term : Term} (read : (under path).reader.read text = .ok term) :
    (under path).reader.Recalls term := by
  obtain ⟨parts, cut, derivation⟩ := Reader.derivesTerm_of_read read
  have exact := ((Token.ofText_eq_ok_iff ..).mp cut).exact
  constructor
  · intro handle span inside
    have stored : ∃ key, (SymbolTable.under path).entries.find? key = some handle := by
      cases derivation.origin inside with
      | token place meaning => exact stored_of_means meaning .self
      | below member meaning lexeme inside deeper => exact stored_of_means meaning inside
    obtain ⟨key, found⟩ := stored
    exact SymbolTable.opens_under valid found
  · intro name span inside
    cases derivation.origin inside with
    | token place meaning => exact free_of_means (exact _ (by simp [place])) meaning .self
    | below member meaning lexeme inside deeper =>
      exact free_of_means (exact _ member) meaning inside

theorem saturated_of_read {text : String} {term : Term}
    (read : (under path).reader.read text = .ok term) : term.Saturated := by
  obtain ⟨parts, -, derivation⟩ := Reader.derivesTerm_of_read read
  exact derivation.saturated NotationTable.encodesSaturated_under

/-- What was read can be printed and read again, as long as the numerals are not too long. -/
theorem exists_read_print {printer : Printer} (agrees : printer.AgreesWith (under path).reader)
    {text : String} {term : Term} (read : (under path).reader.read text = .ok term)
    (legible : printer.Legible (under path).reader term) :
    ∃ found, (under path).reader.read (printer.print term) = .ok found ∧
      found.bare = term.bare := by
  obtain ⟨calls, rendered⟩ := Printer.render_eq_plain agrees.respectsRuns term
  have spells := (Printer.plain_spells agrees legible 0).whole
  obtain ⟨found, again, same⟩ := spells.read
  refine ⟨found, by rw [Printer.print, rendered, again], ?_⟩
  have bare := (Term.same_eq_true_iff ..).mp same
  rw [bare, Term.collapsed_of_saturated (saturated_of_read read)]

end Environment

end UnaryNumeral
