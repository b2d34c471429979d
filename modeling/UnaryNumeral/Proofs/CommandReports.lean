import UnaryNumeral.CommandLine.Run
import UnaryNumeral.Proofs.FreshEnvironment
import UnaryNumeral.Proofs.JsonText
import UnaryNumeral.Proofs.Measures
import UnaryNumeral.Proofs.PlainRendering
import UnaryNumeral.Proofs.ReaderErrors

/-! What a command answers. Whatever text and path it is given, it writes one report and says by its
status whether the text was elaborated; only an overlong literal keeps it from reporting. -/

namespace UnaryNumeral

namespace Environment

def reader (environment : Environment) : Reader :=
  .ofPaths environment.tables.symbols environment.tables.notations
    (environment.openPaths.map Path.spelled) environment.defaultScope

/-- The printer that a report uses, with the numerals of all scopes. -/
def printer (environment : Environment) : Printer :=
  environment.tables.notations.printer { openScopes := some environment.openScopes }

/-- The printer for the plain form, without numerals. -/
def plainPrinter (environment : Environment) : Printer :=
  environment.tables.notations.printer { scopes := some [] }

variable {path : Path}

theorem ready_under (valid : ∀ segment ∈ path, Path.isSegment segment = true) :
    (under path).reader.Ready where
  paths := by
    intro values member
    have only : values = path.map .text := List.mem_singleton.mp member
    subst only
    exact ⟨path, PathSpelling.toPath_spelled path valid⟩
  numerals := NotationTable.encodesNumerals_under

theorem respectsRuns_printer : (under path).printer.RespectsRuns := by
  intro scope interpreter matching
  rw [(NotationTable.find?_under matching.found).2]
  exact (Codec.under path).decoder_respectsRuns

theorem print_of_decode {term : Term} {n : Nat}
    (decoded : (Codec.under path).decode term = some n) :
    (under path).printer.print term = Nat.repr n := by
  have scopes : (under path).printer.scopes = [standardScope] := NotationTable.scopes_under
  have known : (under path).printer.notations.uninterpret term (under path).printer.scopes =
      some (Int.ofNat n, standardScope) := by
    rw [scopes]
    exact (NotationTable.uninterpret_under term).trans (by rw [decoded, Option.map_some])
  obtain ⟨calls, rendered⟩ := Printer.render_eq_plain respectsRuns_printer term
  rw [Printer.print, rendered, Printer.plain_of_uninterpret rfl known]
  rfl

end Environment

/-- The titles of the errors that a report can show. -/
def Error.titles : List String :=
  ["ResolutionError", "DuplicateSymbolError", "NegativeNumeralError", "NumeralSyntaxError",
    "NotationConflictError", "UnknownScopeError"]

theorem Error.mem_titles_of_title? {error : Error} {title : String}
    (titled : error.title? = some title) : title ∈ titles := by
  cases error <;> cases titled <;> decide

namespace CommandLine

/-- The arguments ask for a command on a text. -/
structure Arguments.Asks (arguments : Arguments) (command : Command) (text : String) : Prop where
  schema : arguments.schema = false
  command : arguments.command = some command
  text : arguments.text = some text

theorem choosePath_valid {settings : Settings} {arguments : Arguments} {path : Path}
    (chosen : choosePath settings arguments = .ok path) :
    ∀ segment ∈ path, Path.isSegment segment = true := by
  unfold choosePath at chosen
  split at chosen
  · exact Settings.resolutionPath_valid chosen
  · split at chosen
    · cases chosen
      exact developmentPath_valid
    · exact Settings.resolutionPath_valid chosen

/-- The elaboration of a text gets to a literal with a scope and with too many digits: the text is
one, or the reader gets to one. -/
def MeetsOverlong (environment : Environment) (text : String) : Command → Prop
  | .parse => environment.tables.notations.Overlong text environment.defaultScope
  | .print => environment.reader.ReachesOverlong text

theorem MeetsOverlong.elaborate {environment : Environment} {text : String} {command : Command}
    (meets : MeetsOverlong environment text command) :
    ∃ count, elaborate environment command text = .error (.tooManyDigits count) := by
  cases command with
  | parse =>
    have overlong : environment.tables.notations.Overlong text environment.defaultScope := meets
    exact overlong.elaborate none
  | print =>
    have reaches : environment.reader.ReachesOverlong text := meets
    exact reaches.read

section

variable {path : Path} (valid : ∀ segment ∈ path, Path.isSegment segment = true)
include valid

theorem isTitled_or_meetsOverlong {text : String} {command : Command} {error : Error}
    (failed : elaborate (.under path) command text = .error error) :
    error.IsTitled ∨ MeetsOverlong (.under path) text command ∧
      ∃ count, error = .tooManyDigits count := by
  cases command with
  | parse =>
    exact NotationTable.isTitled_or_overlong_of_elaborate NotationTable.encodesNumerals_under failed
  | print => exact Reader.isTitled_or_reaches_of_read (Environment.ready_under valid) failed

theorem execute_result (settings : Settings) (command : Command) (text : String) :
    (execute settings path command text).result =
      ((report (.under path) path command text).run ()).result := by
  have built := (Tables.bootstrap_fresh valid settings).result
  simp only [execute, built]

theorem execute_of_elaborate (settings : Settings) {command : Command} {text : String} {term : Term}
    (elaborated : elaborate (.under path) command text = .ok term) :
    (execute settings path command text).result =
      .ok ⟨command, text, path, .ok (examine (.under path) term)⟩ := by
  rw [execute_result valid, report, elaborated]
  rfl

/-- A command on a text is answered by a report, unless the error of the elaboration has no title. -/
theorem execute_cases (settings : Settings) (command : Command) (text : String) :
    (∃ term, elaborate (.under path) command text = .ok term ∧
      (execute settings path command text).result =
        .ok ⟨command, text, path, .ok (examine (.under path) term)⟩) ∨
    (∃ error title, elaborate (.under path) command text = .error error ∧
      error.title? = some title ∧
      (execute settings path command text).result =
        .ok ⟨command, text, path, .error (title ++ ": " ++ error.message)⟩) ∨
    ∃ count, MeetsOverlong (.under path) text command ∧
      (execute settings path command text).result = .error (.tooManyDigits count) := by
  cases elaborated : elaborate (.under path) command text with
  | ok term => exact .inl ⟨term, rfl, execute_of_elaborate valid settings elaborated⟩
  | error error =>
    rw [execute_result valid, report, elaborated]
    rcases isTitled_or_meetsOverlong valid elaborated with ⟨title, titled⟩ | ⟨meets, count, rfl⟩
    · refine .inr (.inl ⟨error, title, rfl, titled, ?_⟩)
      simp only [titled]
      rfl
    · exact .inr (.inr ⟨count, meets, rfl⟩)

end

def Report.member (report : Report) (name : String) : Option Scalar := report.fields.lookup name

def memberNames : List String :=
  ["schema", "schema_doc", "command", "input", "ok", "error", "path", "value", "printed",
    "structure", "depth"]

/-- What a report says when there was an error. -/
structure Report.Refuses (report : Report) (error : Error) : Prop where
  value : report.member "value" = some .null
  printed : report.member "printed" = some .null
  plain : report.member "structure" = some .null
  depth : report.member "depth" = some .null
  named : ∃ title ∈ Error.titles, error.title? = some title ∧
    report.member "error" = some (.text (title ++ ": " ++ error.message))

/-- What a report says of a term. -/
structure Report.Presents (report : Report) (term : Term) : Prop where
  printed : ∃ text, report.member "printed" = some (.text text) ∧
    ∀ n, report.member "value" = some (.number n) → text = Nat.repr n
  depth : report.member "depth" = some (.number term.depth)
  value : report.member "value" = some .null ∨ report.member "value" = some (.number term.depth)
  literal : report.command = .parse → report.member "value" ≠ some .null
  plain : report.member "structure" = some .null ↔ plainDepthLimit < term.depth

/-- What a report says next to the exit status and the outcome of the elaboration. -/
structure Report.Answers (report : Report) (status : Nat) (outcome : Except Error Term) : Prop where
  exit : status = 0 ∨ status = 1
  accepted : status = 0 ↔ report.member "ok" = some (.bool true)
  rejected : status = 1 ↔ report.member "ok" = some (.bool false)
  clean : status = 0 ↔ report.member "error" = some .null
  elaborated : status = 0 ↔ ∃ term, outcome = .ok term
  refuses : report.member "ok" = some (.bool false) →
    ∃ error, outcome = .error error ∧ report.Refuses error
  presents : ∀ term, outcome = .ok term → report.Presents term

namespace Report

theorem map_fst_fields (report : Report) : report.fields.map Prod.fst = memberNames := rfl

/-- No two members share a name, so that each field can be looked up. -/
theorem member_of_mem {report : Report} {name : String} {value : Scalar}
    (listed : (name, value) ∈ report.fields) : report.member name = some value := by
  have distinct : (report.fields.map Prod.fst).Nodup := by
    rw [map_fst_fields]
    decide
  obtain ⟨before, after, split⟩ := List.append_of_mem listed
  rw [member, List.lookup_eq_some_iff]
  refine ⟨before, after, split, ?_⟩
  rw [split, List.map_append, List.map_cons, List.nodup_append] at distinct
  intro field earlier
  have apart := distinct.2.2 field.1 (List.mem_map_of_mem earlier) name (List.mem_cons_self ..)
  simpa using Ne.symm apart

variable {report : Report}

theorem answers_of_error {error : Error} {title : String} (titled : error.title? = some title)
    (failed : report.findings = .error (title ++ ": " ++ error.message)) :
    report.Answers 1 (.error error) := by
  have ok : report.member "ok" = some (.bool false) :=
    member_of_mem (by simp [fields, isOk, failed, Except.toBool])
  have message : report.member "error" = some (.text (title ++ ": " ++ error.message)) :=
    member_of_mem (by simp [fields, failed])
  have refuses : report.Refuses error := by
    refine ⟨?_, ?_, ?_, ?_, title, Error.mem_titles_of_title? titled, titled, message⟩
    all_goals exact member_of_mem (by simp [fields, failed, optional, Except.toOption])
  constructor
  · exact .inr rfl
  · simp [ok]
  · simp [ok]
  · simp [message]
  · simp
  · intro _
    exact ⟨error, rfl, refuses⟩
  · intro term impossible
    cases impossible

theorem answers_of_ok {path : Path} {term : Term}
    (found : report.findings = .ok (examine (.under path) term))
    (literal : report.command = .parse → ∃ n, (Codec.under path).decode term = some n) :
    report.Answers 0 (.ok term) := by
  have ok : report.member "ok" = some (.bool true) :=
    member_of_mem (by simp [fields, isOk, found, Except.toBool])
  have message : report.member "error" = some .null := member_of_mem (by simp [fields, found])
  have value : report.member "value" =
      some (optional .number ((Codec.under path).decode term)) :=
    member_of_mem (by simp [fields, found, Except.toOption, examine, Environment.under])
  have printed : report.member "printed" =
      some (.text ((Environment.under path).printer.print term)) :=
    member_of_mem (by
      simp [fields, found, Except.toOption, examine, optional, Environment.printer])
  have depth : report.member "depth" = some (.number term.depth) :=
    member_of_mem (by simp [fields, found, Except.toOption, examine, optional])
  have plain : report.member "structure" =
      some (optional .text (if term.depth ≤ plainDepthLimit then
        some ((Environment.under path).plainPrinter.print term) else none)) :=
    member_of_mem (by simp [fields, found, Except.toOption, examine, Environment.plainPrinter])
  have presents : report.Presents term := by
    constructor
    · refine ⟨_, printed, fun n known => ?_⟩
      cases decoded : (Codec.under path).decode term with
      | none => simp [value, decoded, optional] at known
      | some m =>
        have same : m = n := by simpa [value, decoded, optional] using known
        rw [← same]
        exact Environment.print_of_decode decoded
    · exact depth
    · cases decoded : (Codec.under path).decode term with
      | none => exact .inl (by simp [value, decoded, optional])
      | some n => exact .inr (by simp [value, decoded, optional, Codec.depth_of_decode decoded])
    · intro parsed
      obtain ⟨n, decoded⟩ := literal parsed
      simp [value, decoded, optional]
    · rw [plain]
      by_cases shallow : term.depth ≤ plainDepthLimit
      · simp [shallow, optional]
      · have deep := Nat.not_le.mp shallow
        simp [shallow, optional, deep]
  constructor
  · exact .inl rfl
  · simp [ok]
  · simp [ok]
  · simp [message]
  · simp
  · intro impossible
    simp [ok] at impossible
  · intro other same
    cases same
    exact presents

end Report

theorem decode_of_parse {path : Path} {text : String} {term : Term}
    (elaborated : elaborate (.under path) .parse text = .ok term) :
    ∃ n, (Codec.under path).decode term = some n := by
  have parsed : (NotationTable.under path).elaborate text (some ⟨0, text.length, none⟩)
      (Environment.under path).defaultScope = .ok term := elaborated
  obtain ⟨literal, -, -, -, rfl⟩ := NotationTable.elaborate_under parsed
  exact ⟨_, Codec.decode_numeral ..⟩

section

variable {settings : Settings} {arguments : Arguments} {command : Command} {text : String}
  {path : Path} (asks : arguments.Asks command text)
  (chosen : choosePath settings arguments = .ok path)
include asks chosen

theorem perform_result :
    perform settings arguments = finish arguments (execute settings path command text) := by
  unfold perform
  rw [asks.schema, if_neg Bool.false_ne_true, asks.command, asks.text]
  simp only [chosen]

theorem perform_of_execute {report : Report}
    (executed : (execute settings path command text).result = .ok report) :
    ∃ diagnostics, (perform settings arguments).result =
      .ok (.finished (if report.isOk then 0 else 1) (report.json arguments.pretty ++ "\n")
        diagnostics) := by
  rw [perform_result asks chosen, finish, executed]
  exact ⟨_, rfl⟩

theorem perform_of_execute_error {error : Error}
    (failed : (execute settings path command text).result = .error error) :
    (perform settings arguments).result = .error error := by
  rw [perform_result asks chosen, finish, failed]

end

/-- A command is answered by a report that fits the elaboration, or the elaboration gets to an
overlong literal. -/
theorem execute_answers {path : Path} (valid : ∀ segment ∈ path, Path.isSegment segment = true)
    (settings : Settings) (command : Command) (text : String) :
    (¬ MeetsOverlong (.under path) text command ∧
      ∃ report : Report, (execute settings path command text).result = .ok report ∧
        report.command = command ∧ report.input = text ∧ report.path = path ∧
        report.Answers (if report.isOk then 0 else 1) (elaborate (.under path) command text)) ∨
    MeetsOverlong (.under path) text command ∧
      ∃ count, (execute settings path command text).result = .error (.tooManyDigits count) := by
  rcases execute_cases valid settings command text with
    ⟨term, elaborated, executed⟩ | ⟨error, title, elaborated, titled, executed⟩ |
      ⟨count, meets, executed⟩
  · left
    refine ⟨fun meets => ?_, _, executed, rfl, rfl, rfl, ?_⟩
    · obtain ⟨count, refused⟩ := meets.elaborate
      cases elaborated.symm.trans refused
    · rw [elaborated]
      apply Report.answers_of_ok rfl
      intro parse
      have parse : command = .parse := parse
      subst parse
      exact decode_of_parse elaborated
  · left
    refine ⟨fun meets => ?_, _, executed, rfl, rfl, rfl, ?_⟩
    · obtain ⟨count, refused⟩ := meets.elaborate
      cases elaborated.symm.trans refused
      cases titled
    · rw [elaborated]
      exact Report.answers_of_error titled rfl
  · exact .inr ⟨meets, count, executed⟩

/-- The contract of the command line. Whatever command, text and path are asked for, an environment
is built. No report is written exactly when the elaboration gets to an overlong literal before any
other error. Otherwise one JSON object is all that is written, and its members, the exit status and
the outcome of the elaboration go together. -/
theorem perform_answers {settings : Settings} {arguments : Arguments} {command : Command}
    {text : String} {path : Path} (asks : arguments.Asks command text)
    (chosen : choosePath settings arguments = .ok path) :
    ∃ environment,
      ((Tables.bootstrap settings (some path.spelled)).run {}).result = .ok environment ∧
      ((∃ error, (perform settings arguments).result = .error error) ↔
        MeetsOverlong environment text command) ∧
      (∀ error, (perform settings arguments).result = .error error →
        ∃ count, error = .tooManyDigits count) ∧
      ∀ ending, (perform settings arguments).result = .ok ending →
        ∃ (report : Report) (status : Nat) (diagnostics : String),
          ending = .finished status (report.json arguments.pretty ++ "\n") diagnostics ∧
          Json.Object report.fields (report.json arguments.pretty).toList ∧
          report.fields.map Prod.fst = memberNames ∧
          report.command = command ∧ report.input = text ∧ report.path = path ∧
          report.Answers status (elaborate environment command text) := by
  have valid := choosePath_valid chosen
  refine ⟨.under path, (Tables.bootstrap_fresh valid settings).result, ?_⟩
  rcases execute_answers valid settings command text with
    ⟨apart, report, executed, named, given, placed, answers⟩ | ⟨meets, count, executed⟩
  · obtain ⟨diagnostics, performed⟩ := perform_of_execute asks chosen executed
    rw [performed]
    refine ⟨⟨fun failed => ?_, fun meets => absurd meets apart⟩, fun error failed => ?_,
      fun ending finished => ?_⟩
    · obtain ⟨error, impossible⟩ := failed
      cases impossible
    · cases failed
    · cases finished
      exact ⟨report, _, _, rfl, report.object_json arguments.pretty, report.map_fst_fields, named,
        given, placed, answers⟩
  · rw [perform_of_execute_error asks chosen executed]
    refine ⟨⟨fun _ => meets, fun _ => ⟨_, rfl⟩⟩, fun error failed => ?_, fun ending finished => ?_⟩
    · cases failed
      exact ⟨count, rfl⟩
    · cases finished

/-- A numeral under a successor, with the settings left alone. -/
theorem perform_answers_standard :
    let arguments : Arguments := { command := some .print, text := some "S 3%nat" }
    arguments.Asks .print "S 3%nat" ∧ choosePath {} arguments = .ok libraryPath ∧
      ∃ environment, ((Tables.bootstrap {} (some libraryPath.spelled)).run {}).result =
          .ok environment ∧
        ¬ MeetsOverlong environment "S 3%nat" .print ∧
        ∃ (report : Report) (status : Nat) (diagnostics : String),
          (perform {} arguments).result =
            .ok (.finished status (report.json false ++ "\n") diagnostics) ∧
          report.Answers status (elaborate environment .print "S 3%nat") := by
  intro arguments
  have asks : arguments.Asks .print "S 3%nat" := ⟨rfl, rfl, rfl⟩
  have chosen : choosePath {} arguments = .ok libraryPath := rfl
  have succeeds : (perform {} arguments).result.toOption.isSome = true := by decide +kernel
  obtain ⟨ending, finished⟩ := exists_ok_of_isSome succeeds
  obtain ⟨environment, built, errs, -, answers⟩ := perform_answers asks chosen
  have apart : ¬ MeetsOverlong environment "S 3%nat" .print := by
    intro meets
    obtain ⟨error, failed⟩ := errs.mpr meets
    cases finished.symm.trans failed
  obtain ⟨report, status, diagnostics, rfl, -, -, -, -, -, fits⟩ := answers ending finished
  exact ⟨asks, chosen, environment, built, apart, report, status, diagnostics, finished, fits⟩

end CommandLine

end UnaryNumeral
