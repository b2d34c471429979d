import UnaryNumeral.Proofs.FreshReading

namespace UnaryNumeral

theorem NotationTable.elaborate_decimal {path : Path} {n : Nat}
    (short : (Nat.repr n).length ≤ Literal.digitLimit) (span : Span) :
    (NotationTable.under path).elaborate (Nat.repr n) (some span) (some standardScope) =
      .ok ((Codec.under path).numeral span n) := by
  have found : (NotationTable.under path).interpreters.find? standardScope =
      some ((Codec.under path).interpreterOf standardScope) := by
    rw [under, OrderedMap.find?_insert, if_pos rfl]
  have encoded : ((Codec.under path).interpreterOf standardScope).encode (some span) (.int n) =
      .ok ((Codec.under path).numeral span n) := (Codec.under path).encode_ofNat (some span) n
  have listed : standardScope ∈ [standardScope] := List.mem_singleton_self _
  exact elaborate_format found (fun _ => rfl) (fun closed => absurd listed closed) short encoded

namespace CommandLine

/-- The texts from which a command can be repeated: what it printed, unless there is a numeral in it
that is too long to be read, and the plain form. -/
inductive Findings.Offers (findings : Findings) : Command → String → Prop where
  | printed (command : Command) (fits : command = .print → NumeralsFit findings.printed) :
      Offers findings command findings.printed
  | plain {text : String} (given : findings.plain = some text) : Offers findings .print text

/-- The path is chosen once more: nothing has changed by which it was chosen, or it is given. -/
inductive ChoosesAgain (settings : Settings) (arguments : Arguments) (path : Path) :
    Settings → Arguments → Prop where
  | unchanged {words : Arguments} (same : words.path = arguments.path)
      (mode : words.development = arguments.development) :
      ChoosesAgain settings arguments path settings words
  | given {later : Settings} {words : Arguments} (written : words.path = some path.dotted) :
      ChoosesAgain settings arguments path later words

theorem ChoosesAgain.choosePath_eq {settings later : Settings} {arguments words : Arguments}
    {path : Path} (again : ChoosesAgain settings arguments path later words)
    (chosen : choosePath settings arguments = .ok path) : choosePath later words = .ok path := by
  cases again with
  | unchanged same mode => rw [← chosen, choosePath, choosePath, same, mode]
  | given written =>
    rw [choosePath, written]
    exact Path.toPath_dotted (choosePath_valid chosen)

variable {path : Path}

theorem examine_congr {term other : Term} (same : term.bare = other.bare) :
    examine (.under path) term = examine (.under path) other := by
  have alike := Term.indistinguishable_of_bare_eq same
  have printed (layout : Layout) := alike.print (.under path) layout
    NotationTable.decodesNumerals_under
  have value : (Environment.under path).codec.decode term =
      (Environment.under path).codec.decode other := alike.decode _
  have notations : (Environment.under path).tables.notations = .under path := rfl
  simp only [examine, value, alike.depth, notations, printed]

/-- The number of a literal is written with no more digits, so that it is a literal again. -/
theorem elaborate_parse_printed {text : String} {term : Term}
    (elaborated : elaborate (.under path) .parse text = .ok term) :
    ∃ found, elaborate (.under path) .parse (examine (.under path) term).printed = .ok found ∧
      found.bare = term.bare := by
  have parsed : (NotationTable.under path).elaborate text (some ⟨0, text.length, none⟩)
      (Environment.under path).defaultScope = .ok term := elaborated
  obtain ⟨literal, spelt, few, -, numeral⟩ := NotationTable.elaborate_under parsed
  have short := Nat.le_trans (Literal.length_repr_value_le spelt) few
  have decoded : (Codec.under path).decode term = some literal.value.toNat := by
    rw [numeral, Codec.decode_numeral]
  have printed : (examine (.under path) term).printed = Nat.repr literal.value.toNat :=
    Environment.print_of_decode decoded
  rw [printed, numeral]
  exact ⟨_, NotationTable.elaborate_decimal short _, by rw [Codec.bare_numeral, Codec.bare_numeral]⟩

section

variable (valid : ∀ segment ∈ path, Path.isSegment segment = true) {text : String} {term : Term}
include valid

theorem elaborate_print_printed (elaborated : elaborate (.under path) .print text = .ok term)
    (fits : NumeralsFit (examine (.under path) term).printed) :
    ∃ found, elaborate (.under path) .print (examine (.under path) term).printed = .ok found ∧
      found.bare = term.bare := by
  have read : (Environment.under path).reader.read text = .ok term := elaborated
  have recalls := Environment.recalls_of_read valid read
  have legible := Printer.legible_of_fits Environment.agreesWith_printer recalls fits
  exact Environment.exists_read_print Environment.agreesWith_printer read legible

theorem elaborate_print_plain (elaborated : elaborate (.under path) .print text = .ok term)
    {again : String} (given : (examine (.under path) term).plain = some again) :
    ∃ found, elaborate (.under path) .print again = .ok found ∧ found.bare = term.bare := by
  have read : (Environment.under path).reader.read text = .ok term := elaborated
  have recalls := Environment.recalls_of_read valid read
  have legible :
      (Environment.under path).plainPrinter.Legible (Environment.under path).reader term :=
    { refs := recalls.refs
      vars := recalls.vars
      numerals := fun sub value scope _ known =>
        nomatch (NotationTable.uninterpret_nil _ sub).symm.trans known }
  have printed : again = (Environment.under path).plainPrinter.print term := by
    simp only [examine, Option.ite_none_right_eq_some, Option.some.injEq] at given
    exact given.2.symm
  rw [printed]
  exact Environment.exists_read_print Environment.agreesWith_plainPrinter read legible

theorem elaborate_offered {command : Command}
    (elaborated : elaborate (.under path) command text = .ok term) {again : String}
    (offers : (examine (.under path) term).Offers command again) :
    ∃ found, elaborate (.under path) command again = .ok found ∧
      examine (.under path) found = examine (.under path) term := by
  have reread : ∃ found, elaborate (.under path) command again = .ok found ∧
      found.bare = term.bare := by
    cases offers with
    | printed _ fits =>
      cases command with
      | parse => exact elaborate_parse_printed elaborated
      | print => exact elaborate_print_printed valid elaborated (fits rfl)
    | plain given => exact elaborate_print_plain valid elaborated given
  obtain ⟨found, accepted, same⟩ := reread
  exact ⟨found, accepted, examine_congr same⟩

end

/-- The output of a command replays. Where a command reports on a text without an error, it can be
given what it printed, or the plain form, instead of the text; with nothing else changed, or with
the path of the report given to it and any settings, it then reports the same. -/
theorem perform_replays {settings : Settings} {arguments : Arguments} {command : Command}
    {text : String} (asks : arguments.Asks command text)
    (chosen : choosePath settings arguments = .ok path) {output diagnostics : String}
    (finished : (perform settings arguments).result = .ok (.finished 0 output diagnostics)) :
    ∃ findings,
      let report (input : String) : Report := ⟨command, input, path, .ok findings⟩
      (execute settings path command text).result = .ok (report text) ∧
      output = (report text).json arguments.pretty ++ "\n" ∧
      ∀ again, findings.Offers command again →
        ∀ later words, ChoosesAgain settings arguments path later words →
          words.Asks command again →
          ∃ notes, (perform later words).result =
            .ok (.finished 0 ((report again).json words.pretty ++ "\n") notes) := by
  have valid := choosePath_valid chosen
  rcases execute_cases valid settings command text with
    ⟨term, elaborated, executed⟩ | ⟨error, title, -, -, executed⟩ | ⟨count, -, executed⟩
  · obtain ⟨notes, performed⟩ := perform_of_execute asks chosen executed
    cases finished.symm.trans performed
    refine ⟨examine (.under path) term, executed, rfl, ?_⟩
    intro again offers later words rechosen reasks
    -- The offered text is elaborated to another term, but what is reported does not show that.
    obtain ⟨found, accepted, same⟩ := elaborate_offered valid elaborated offers
    have reexecuted := execute_of_elaborate valid later accepted
    rw [same] at reexecuted
    exact perform_of_execute reasks (rechosen.choosePath_eq chosen) reexecuted
  · obtain ⟨notes, performed⟩ := perform_of_execute asks chosen executed
    cases finished.symm.trans performed
  · cases finished.symm.trans (perform_of_execute_error asks chosen executed)

/-- A qualified name and a numeral under a variable, run again with the path given although the
settings say otherwise. -/
theorem perform_replays_standard :
    let text := "Coq.Init.Datatypes.S (f 02%nat)"
    let findings : Findings := ⟨none, "S (f 2)", some "S (f (S (S O)))", 4⟩
    let arguments : Arguments := { command := some .print, text := some text }
    let later : Settings := { path := some "Lib", development := some "1" }
    let words (again : String) : Arguments :=
      { command := some .print, text := some again, path := some "Coq.Init.Datatypes" }
    let report (input : String) : Report := ⟨.print, input, libraryPath, .ok findings⟩
    (∃ notes, (perform {} arguments).result =
      .ok (.finished 0 ((report text).json false ++ "\n") notes)) ∧
    ∀ again ∈ ["S (f 2)", "S (f (S (S O)))"],
      ∃ notes, (perform later (words again)).result =
        .ok (.finished 0 ((report again).json false ++ "\n") notes) := by
  intro text findings arguments later words report
  have asks : arguments.Asks .print text := ⟨rfl, rfl, rfl⟩
  have chosen : choosePath {} arguments = .ok libraryPath := rfl
  have computed : (perform {} arguments).result.toOption =
      some (.finished 0 ((report text).json false ++ "\n") "") := by decide +kernel
  have finished : (perform {} arguments).result =
      .ok (.finished 0 ((report text).json false ++ "\n") "") := by
    cases result : (perform {} arguments).result with
    | ok ending =>
      rw [result] at computed
      exact congrArg Except.ok (Option.some.inj computed)
    | error error =>
      rw [result] at computed
      cases computed
  obtain ⟨found, executed, -, replays⟩ := perform_replays asks chosen finished
  have known : found = findings := by
    have reported : ((execute {} libraryPath .print text).result.toOption.bind
        fun report => report.findings.toOption) = some findings := by decide +kernel
    rw [executed] at reported
    exact Option.some.inj reported
  have fits : NumeralsFit findings.printed := by decide +kernel
  have offered : ∀ again ∈ ["S (f 2)", "S (f (S (S O)))"], findings.Offers .print again :=
    List.forall_mem_cons.mpr
      ⟨.printed .print fun _ => fits, List.forall_mem_singleton.mpr (.plain rfl)⟩
  rw [known] at replays
  refine ⟨⟨"", finished⟩, ?_⟩
  intro again member
  exact replays again (offered again member) later (words again) (.given rfl) ⟨rfl, rfl, rfl⟩

end CommandLine

end UnaryNumeral
