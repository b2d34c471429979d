import Mathlib.Data.List.Induction
import UnaryNumeral.Proofs.FreshEnvironment
import UnaryNumeral.Proofs.NotationEffects

/-! What further registrations do to the literals of a strict table. The interpreter of a scope
stays for good, so that a literal that was read once is always read as the same number. Keys are not
guarded: each registration that succeeds takes its key over, and with the key the literals that are
spelled with it. -/

namespace UnaryNumeral

/-- A call that registers a codec: one that is at hand, or one that is looked up among symbols. -/
inductive Registration where
  | register (codec : Codec) (scope : String) (key : Option String)
  | install (symbols : SymbolTable) (settings : Settings) (path : Option PathSpelling)
      (scope : String)

namespace Registration

def scope : Registration → String
  | register _ scope _ => scope
  | install _ _ _ scope => scope

def key : Registration → Option String
  | register _ _ key => key
  | install .. => some standardKey

/-- The codec that a call registers, if it can be found. -/
def codec? : Registration → Option Codec
  | register codec _ _ => some codec
  | install symbols settings path _ => ((Codec.load settings path).run symbols).result.toOption

def perform : Registration → Action NotationTable Interpreter
  | register codec scope key => NotationTable.register codec scope key
  | install symbols settings path scope => do
    let installed ← (Tables.install settings path scope).within (Tables.mk symbols)
      fun _ => Tables.notations
    pure installed.2

/-- What a call does to a table: nothing, or it stores the interpreter of its codec in a scope that
is not refused. It declares its key just when it succeeds. -/
inductive Does (call : Registration) (table : NotationTable) : Prop where
  | nothing (error : Error) (failed : call.perform.Fails table error table)
  | stores (codec : Codec) (given : call.codec? = some codec) (room : ¬ table.Refuses call.scope)
      (error : Error) (failed : call.perform.Fails table error
        (table.withInterpreter (codec.interpreterOf call.scope)))
  | registers (codec : Codec) (given : call.codec? = some codec)
      (room : ¬ table.Refuses call.scope)
      (done : call.perform.Gives table (codec.interpreterOf call.scope)
        ((table.withInterpreter (codec.interpreterOf call.scope)).withKey call.scope call.key))

theorem does (call : Registration) (table : NotationTable) : call.Does table := by
  cases call with
  | register codec scope key =>
    rcases NotationTable.register_cases codec scope key table with
      ⟨-, failed⟩ | ⟨room, name, -, -, failed⟩ | ⟨room, -, done⟩
    · exact .nothing _ failed
    · exact .stores codec rfl room _ failed
    · exact .registers codec rfl room done
  | install symbols settings path scope =>
    rcases Codec.load_cases settings path symbols with ⟨error, failed⟩ | ⟨codec, loaded⟩
    · exact .nothing error (.bind (.within (Tables.install_fails_of_load failed table scope)) _)
    have given : (install symbols settings path scope).codec? = some codec := by
      simp only [codec?, loaded.result, Except.toOption]
    rcases NotationTable.register_cases codec scope (some standardKey) table with
      ⟨-, failed⟩ | ⟨room, name, -, -, failed⟩ | ⟨room, -, done⟩
    · exact .nothing _ (.bind (.within (Tables.install_fails loaded failed)) _)
    · exact .stores codec given room _ (.bind (.within (Tables.install_fails loaded failed)) _)
    · exact .registers codec given room
        (.bind (.within (Tables.install_gives loaded done)) (.pure ..))

/-- The type under development, installed for a scope of its own with the key that every
installation declares. -/
def development : Registration :=
  .install (.under developmentPath) {} (some developmentPath.spelled) "dev_scope"

end Registration

namespace NotationTable

theorem keeps_encodesNumerals (call : Registration) : call.perform.Keeps EncodesNumerals := by
  intro table numerals
  have stored (codec : Codec) :
      (table.withInterpreter (codec.interpreterOf call.scope)).EncodesNumerals := by
    intro scope interpreter found
    rw [find?_withInterpreter] at found
    split at found
    · cases found
      exact ⟨codec, rfl⟩
    · exact numerals scope interpreter found
  cases call.does table with
  | nothing error failed =>
    rw [failed.state]
    exact numerals
  | stores codec given room error failed =>
    rw [failed.state]
    exact stored codec
  | registers codec given room done =>
    rw [done.state]
    cases call.key <;> exact stored codec

/-- The last of some registrations that declares a key. -/
def claimant (done : List Registration) (key : String) : Option Registration :=
  (done.filter (·.key = some key)).getLast?

/-- A later table has all interpreters of an earlier one. The registrations that were successful in
between have their interpreters too, and the last of them that declares a key has the key. -/
structure Conserves (before after : NotationTable) (done : List Registration) : Prop where
  policy : after.policy = before.policy
  kept : ∀ scope interpreter, before.interpreters.find? scope = some interpreter →
    after.interpreters.find? scope = some interpreter
  stored : ∀ call ∈ done, ∃ codec, call.codec? = some codec ∧
    after.interpreters.find? call.scope = some (codec.interpreterOf call.scope)
  keys : ∀ key, after.delimiters.find? key =
    ((claimant done key).map Registration.scope).or (before.delimiters.find? key)

namespace Conserves

variable {before after : NotationTable} {done : List Registration}

theorem refl (table : NotationTable) : Conserves table table [] where
  policy := rfl
  kept := fun _ _ => id
  stored := by simp
  keys := fun _ => rfl

/-- An interpreter for a scope that a strict table does not refuse displaces no other. -/
theorem withInterpreter (conserves : Conserves before after done) (strict : before.policy = .strict)
    {interpreter : Interpreter} (room : ¬ after.Refuses interpreter.scope) :
    Conserves before (after.withInterpreter interpreter) done := by
  have remains {scope : String} {other : Interpreter}
      (found : after.interpreters.find? scope = some other) :
      (after.withInterpreter interpreter).interpreters.find? scope = some other := by
    rw [find?_withInterpreter, if_neg]
    · exact found
    · rintro rfl
      exact room ⟨conserves.policy.trans strict, by rw [found]; rfl⟩
  refine ⟨conserves.policy, ?_, ?_, conserves.keys⟩
  · intro scope other found
    exact remains (conserves.kept scope other found)
  · intro call member
    obtain ⟨codec, given, found⟩ := conserves.stored call member
    exact ⟨codec, given, remains found⟩

theorem withKey (conserves : Conserves before after done) {call : Registration} {codec : Codec}
    (given : call.codec? = some codec)
    (found : after.interpreters.find? call.scope = some (codec.interpreterOf call.scope)) :
    Conserves before (after.withKey call.scope call.key) (done ++ [call]) := by
  have same : (after.withKey call.scope call.key).interpreters = after.interpreters := by
    cases call.key <;> rfl
  refine ⟨?_, ?_, ?_, ?_⟩
  · rw [← conserves.policy]
    cases call.key <;> rfl
  · rw [same]
    exact conserves.kept
  · rw [same]
    intro other member
    rcases List.mem_append.mp member with earlier | last
    · exact conserves.stored other earlier
    · rw [List.mem_singleton.mp last]
      exact ⟨codec, given, found⟩
  · intro key
    rw [claimant, List.filter_append]
    cases declared : call.key with
    | none =>
      simp only [declared, NotationTable.withKey, List.filter_cons, reduceCtorEq, decide_false,
        Bool.false_eq_true, ↓reduceIte, List.filter_nil, List.append_nil]
      exact conserves.keys key
    | some name =>
      rw [find?_withKey]
      by_cases taken : key = name
      · simp [declared, taken]
      · simp only [declared, taken, Option.some.injEq, Ne.symm taken, List.filter_cons,
          decide_false, Bool.false_eq_true, ↓reduceIte, List.filter_nil, List.append_nil]
        exact conserves.keys key

end Conserves

/-- A strict table loses nothing but keys. -/
theorem conserves_afterAll {table : NotationTable} (strict : table.policy = .strict)
    (calls : List Registration) :
    Conserves table (Action.afterAll Registration.perform table calls)
      (Action.successes Registration.perform table calls) := by
  induction calls using List.reverseRecOn with
  | nil => exact .refl table
  | append_singleton calls call ih =>
    rw [Action.afterAll_concat, Action.successes_append]
    cases call.does (Action.afterAll Registration.perform table calls) with
    | nothing error failed =>
      rw [failed.state, Action.successes_of_fails failed, Action.successes, List.append_nil]
      exact ih
    | stores codec given room error failed =>
      rw [failed.state, Action.successes_of_fails failed, Action.successes, List.append_nil]
      exact ih.withInterpreter strict room
    | registers codec given room done =>
      rw [done.state, Action.successes_of_gives done, Action.successes]
      apply (ih.withInterpreter strict room).withKey given
      rw [find?_withInterpreter]
      exact if_pos rfl

/-- The codec that reads literals with a key, or without one, after some successful registrations:
that of the last one that declares the key, and if there is none, the codec from before. -/
def codecAfter (done : List Registration) (key : Option String) (earlier : Codec) : Codec :=
  ((key.bind (claimant done)).bind Registration.codec?).getD earlier

theorem claimant_eq_none_iff (done : List Registration) (key : String) :
    claimant done key = none ↔ ∀ call ∈ done, call.key ≠ some key := by
  simp [claimant]

theorem mem_of_claimant {done : List Registration} {key : String} {call : Registration}
    (last : claimant done key = some call) : call ∈ done :=
  (List.mem_filter.mp (List.mem_of_getLast? last)).1

/-- Where a literal leads after some registrations on a strict table: its scope has an interpreter
still, and that encodes numbers. -/
theorem Conserves.selects {before after : NotationTable} {done : List Registration}
    (conserves : Conserves before after done) {text : String} {place : Span} {literal : Literal}
    {defaultScope : Option String} {scope : String} {codec : Codec} {interpreter : Interpreter}
    (selected : before.scopeOfLiteral text place literal defaultScope = .ok scope)
    (found : before.interpreters.find? scope = some interpreter)
    (encodes : interpreter.encode = codec.encoder) :
    ∃ other taken, after.scopeOfLiteral text place literal defaultScope = .ok other ∧
      after.interpreters.find? other = some taken ∧
      taken.encode = (codecAfter done literal.key codec).encoder := by
  simp only [scopeOfLiteral_eq_ok_iff] at selected ⊢
  rcases selected with ⟨key, keyed, owner⟩ | ⟨keyless, default⟩
  · have now := conserves.keys key
    cases last : claimant done key with
    | none =>
      rw [last, owner] at now
      refine ⟨scope, interpreter, .inl ⟨key, keyed, now⟩, conserves.kept _ _ found, ?_⟩
      simpa [codecAfter, keyed, last] using encodes
    | some call =>
      rw [last] at now
      obtain ⟨codec, given, stored⟩ := conserves.stored call (mem_of_claimant last)
      refine ⟨call.scope, _, .inl ⟨key, keyed, now⟩, stored, ?_⟩
      simp [codecAfter, keyed, last, given, Codec.interpreterOf]
  · refine ⟨scope, interpreter, .inr ⟨keyless, default⟩, conserves.kept _ _ found, ?_⟩
    simpa [codecAfter, keyless] using encodes

/-- What registrations on a strict table leave of its literals, whatever codecs, scopes and keys
they are given and whether they succeed or not. A literal that is accepted stays accepted, for the
same number. It keeps its very term unless one of the registrations succeeds that declares the key
of the literal; then the codec of the last of these reads it. -/
theorem literals_after_registrations (earlier later : List Registration) :
    let before := Action.afterAll Registration.perform { policy := .strict } earlier
    let after := Action.afterAll Registration.perform before later
    let done := Action.successes Registration.perform before later
    ∀ (text : String) (span : Option Span) (defaultScope : Option String) (term : Term),
      before.elaborate text span defaultScope = .ok term →
      ∃ (literal : Literal) (codec : Codec),
        Literal.ofText? text.toList = some literal ∧
        term = codec.numeral (span.getD ⟨0, text.length, none⟩) literal.value.toNat ∧
        after.elaborate text span defaultScope =
          .ok ((codecAfter done literal.key codec).numeral (span.getD ⟨0, text.length, none⟩)
            literal.value.toNat) ∧
        ((∀ key, literal.key = some key → ∀ call ∈ done, call.key ≠ some key) →
          after.elaborate text span defaultScope = .ok term) := by
  intro before after done text span defaultScope term accepted
  have strict : before.policy = .strict :=
    (@conserves_afterAll { policy := .strict } rfl earlier).policy
  have numerals : before.EncodesNumerals := by
    apply Action.Keeps.afterAll keeps_encodesNumerals
    intro scope interpreter found
    cases found
  have conserves : Conserves before after done := conserves_afterAll strict later
  rw [← before.elaborate_getD] at accepted
  rw [← after.elaborate_getD]
  generalize span.getD ⟨0, text.length, none⟩ = place at accepted ⊢
  obtain ⟨literal, scope, interpreter, spelt, selected, few, found, encoded⟩ :=
    (elaborate_eq_ok_iff ..).mp accepted
  obtain ⟨codec, encodes⟩ := numerals scope interpreter found
  obtain ⟨other, taken, reselected, stored, reencodes⟩ := conserves.selects selected found encodes
  rw [encodes] at encoded
  obtain ⟨positive, rfl⟩ := (codec.encode_eq_ok_iff ..).mp encoded
  have again : after.elaborate text (some place) defaultScope =
      .ok ((codecAfter done literal.key codec).numeral place literal.value.toNat) := by
    refine (elaborate_eq_ok_iff ..).mpr ⟨literal, other, taken, spelt, reselected, few, stored, ?_⟩
    rw [reencodes]
    exact (Codec.encode_eq_ok_iff ..).mpr ⟨positive, rfl⟩
  refine ⟨literal, codec, spelt, rfl, again, ?_⟩
  intro unclaimed
  have kept : codecAfter done literal.key codec = codec := by
    cases keyed : literal.key with
    | none => rfl
    | some key =>
      have nobody := (claimant_eq_none_iff done key).mpr (unclaimed key keyed)
      simp [codecAfter, nobody]
  rw [again, kept]
  rfl

/-- Bare literals of the standard scope outlast an installation for another scope. -/
theorem bare_literal_after_installation :
    let before := Action.afterAll Registration.perform { policy := .strict }
      [.register .standard standardScope (some standardKey)]
    let after := Action.afterAll Registration.perform before [.development]
    before.elaborate "2" none (some standardScope) =
        .ok (Codec.standard.numeral ⟨0, 1, none⟩ 2) ∧
      after.elaborate "2" none (some standardScope) =
        .ok (Codec.standard.numeral ⟨0, 1, none⟩ 2) := by
  have accepted : (Action.afterAll Registration.perform { policy := .strict }
      [.register .standard standardScope (some standardKey)]).elaborate "2" none
        (some standardScope) = .ok (Codec.standard.numeral ⟨0, 1, none⟩ 2) := rfl
  obtain ⟨literal, codec, spelt, -, -, kept⟩ :=
    literals_after_registrations _ [.development] _ _ _ _ accepted
  refine ⟨accepted, kept ?_⟩
  intro key keyed
  cases spelt
  cases keyed

/-- A strict table lets a literal change its meaning: the key of the standard scope is taken over by
the next installation. -/
theorem key_taken_over :
    let before := Action.afterAll Registration.perform { policy := .strict }
      [.register .standard standardScope (some standardKey)]
    let after := Action.afterAll Registration.perform before [.development]
    before.elaborate "1%nat" none none = .ok (Codec.standard.numeral ⟨0, 5, none⟩ 1) ∧
      after.elaborate "1%nat" none none =
        .ok ((Codec.under developmentPath).numeral ⟨0, 5, none⟩ 1) ∧
      (Codec.standard.numeral ⟨0, 5, none⟩ 1).same
        ((Codec.under developmentPath).numeral ⟨0, 5, none⟩ 1) = false := by
  refine ⟨rfl, rfl, ?_⟩
  rw [Bool.eq_false_iff, ne_eq, Term.same_eq_true_iff]
  intro same
  have paths : libraryPath = developmentPath :=
    congrArg Handle.path (Option.some.inj (congrArg Term.headRef same))
  exact absurd paths (by decide)

end NotationTable

end UnaryNumeral
