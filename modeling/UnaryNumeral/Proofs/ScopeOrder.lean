import UnaryNumeral.Proofs.Measures
import UnaryNumeral.Proofs.NotationEffects
import UnaryNumeral.Proofs.Recognition
import UnaryNumeral.Proofs.StandardTables

/-! Scopes that print the same terms. Whichever codec counts, the number of a term is its depth; so
the order in which the scopes are asked decides which one answers, and never what it answers. -/

namespace UnaryNumeral

namespace Codec

/-- Two numerals that are one are taken apart together, down to the zero. -/
private theorem handles_eq_of_numeral_eq {first second : Codec} {n : Nat}
    (same : first.numeral .nowhere n = second.numeral .nowhere n) :
    first.zero = second.zero ∧ (0 < n → first.succ = second.succ) := by
  induction n with
  | zero =>
    simp only [numeral_zero, Term.ref.injEq, and_true] at same
    exact ⟨same, fun positive => absurd positive (Nat.lt_irrefl 0)⟩
  | succ n ih =>
    simp only [numeral_succ, Term.applyTo, Term.app.injEq, Term.ref.injEq, List.cons.injEq,
      and_true] at same
    obtain ⟨succ, below⟩ := same
    exact ⟨(ih below).1, fun _ => succ⟩

theorem agree_of_decode {first second : Codec} {term : Term} {m n : Nat}
    (one : first.decode term = some m) (two : second.decode term = some n) :
    m = n ∧ first.zero = second.zero ∧ (0 < m → first.succ = second.succ) := by
  obtain rfl : m = n := (depth_of_decode one).symm.trans (depth_of_decode two)
  exact ⟨rfl, handles_eq_of_numeral_eq ((bare_of_decode one).symm.trans (bare_of_decode two))⟩

theorem decoder_eq_some_iff (codec : Codec) (term : Term) (value : Int) :
    codec.decoder term = some value ↔
      ∃ encoding, codec.encode none value = .ok encoding ∧ term.same encoding = true := by
  simp only [encode_eq_ok_iff]
  constructor
  · intro answer
    obtain ⟨n, decoded, rfl⟩ := Option.map_eq_some_iff.mp answer
    exact ⟨_, ⟨Int.natCast_nonneg n, rfl⟩, (decode_eq_some_iff_same ..).mp decoded⟩
  · intro encodes
    obtain ⟨_, ⟨nonneg, rfl⟩, same⟩ := encodes
    have decoded := (decode_eq_some_iff_same ..).mpr same
    exact Option.map_eq_some_iff.mpr ⟨_, decoded, Int.toNat_of_nonneg nonneg⟩

end Codec

namespace NotationTable

/-- The interpreters that match terms decode as codecs do. -/
def DecodesNumerals (table : NotationTable) : Prop :=
  ∀ scope interpreter, table.interpreters.find? scope = some interpreter →
    interpreter.matchesTerms = true → ∃ codec : Codec, interpreter.decode = codec.decoder

/-- The scope prints the term as the value: its interpreter matches terms and may print the head of
this one, which is the encoding of the value by the codec of the interpreter, up to spans. -/
inductive PrintsAs (table : NotationTable) (term : Term) (value : Int) (scope : String) : Prop where
  | intro {interpreter : Interpreter} {codec : Codec} {head : Handle} {encoding : Term}
      (found : table.interpreters.find? scope = some interpreter)
      (matchesTerms : interpreter.matchesTerms = true)
      (headed : term.headRef = some head)
      (printable : head ∈ interpreter.printableHeads)
      (decodes : interpreter.decode = codec.decoder)
      (encodes : codec.encode none value = .ok encoding)
      (same : term.same encoding = true)

/-- A term is printed as its depth or not at all. -/
theorem PrintsAs.value_eq_depth {table : NotationTable} {term : Term} {value : Int}
    {scope : String} (prints : table.PrintsAs term value scope) : value = term.depth := by
  cases prints with
  | @intro _ codec _ encoding _ _ _ _ _ encodes same =>
    exact Codec.depth_of_decoder ((codec.decoder_eq_some_iff ..).mpr ⟨encoding, encodes, same⟩)

section

variable {table : NotationTable} (decodesNumerals : table.DecodesNumerals)
include decodesNumerals

theorem numberIn_eq_some_iff_printsAs (term : Term) (scope : String) (value : Int) :
    table.numberIn term scope = some value ↔ table.PrintsAs term value scope := by
  rw [numberIn_eq_some_iff]
  constructor
  · intro known
    obtain ⟨interpreter, head, found, matchesTerms, headed, printable, answer⟩ := known
    obtain ⟨codec, decodes⟩ := decodesNumerals scope interpreter found matchesTerms
    rw [decodes] at answer
    obtain ⟨encoding, encodes, same⟩ := (codec.decoder_eq_some_iff term value).mp answer
    exact .intro found matchesTerms headed printable decodes encodes same
  · intro prints
    cases prints with
    | @intro interpreter codec head encoding found matchesTerms headed printable decodes encodes
        same =>
      have answer := (codec.decoder_eq_some_iff term value).mpr ⟨encoding, encodes, same⟩
      rw [← decodes] at answer
      exact ⟨interpreter, head, found, matchesTerms, headed, printable, answer⟩

/-- A scope is silent when it does not print the depth of the term, the one value it could have. -/
theorem numberIn_eq_none_iff (term : Term) (scope : String) :
    table.numberIn term scope = none ↔ ¬ table.PrintsAs term term.depth scope := by
  constructor
  · intro silent prints
    exact nomatch silent.symm.trans ((numberIn_eq_some_iff_printsAs decodesNumerals ..).mpr prints)
  · intro apart
    rw [Option.eq_none_iff_forall_ne_some]
    intro value known
    have prints := (numberIn_eq_some_iff_printsAs decodesNumerals ..).mp known
    exact apart (prints.value_eq_depth ▸ prints)

/-- The value is there when one of the scopes has it, whatever its place among the others. -/
theorem map_fst_uninterpret_eq_some_iff (term : Term) (scopes : List String) (value : Int) :
    (table.uninterpret term scopes).map Prod.fst = some value ↔
      ∃ scope ∈ scopes, table.PrintsAs term value scope := by
  constructor
  · intro answer
    obtain ⟨⟨_, scope⟩, found, rfl⟩ := Option.map_eq_some_iff.mp answer
    obtain ⟨known, before, after, rfl, -⟩ := (uninterpret_eq_some_iff ..).mp found
    exact ⟨scope, by simp, (numberIn_eq_some_iff_printsAs decodesNumerals ..).mp known⟩
  · intro printed
    obtain ⟨scope, listed, prints⟩ := printed
    have known := (numberIn_eq_some_iff_printsAs decodesNumerals ..).mpr prints
    cases answer : table.uninterpret term scopes with
    | none =>
      have silent := (uninterpret_eq_none_iff_numberIn ..).mp answer scope listed
      exact nomatch silent.symm.trans known
    | some found =>
      obtain ⟨other, owner⟩ := found
      have first := ((uninterpret_eq_some_iff ..).mp answer).1
      have others := (numberIn_eq_some_iff_printsAs decodesNumerals ..).mp first
      rw [Option.map_some, others.value_eq_depth, prints.value_eq_depth]

/-- Lists of the same scopes find the same value, in any order and with any repetitions. -/
theorem map_fst_uninterpret_congr (term : Term) {scopes others : List String}
    (same : ∀ scope, scope ∈ scopes ↔ scope ∈ others) :
    (table.uninterpret term scopes).map Prod.fst = (table.uninterpret term others).map Prod.fst := by
  apply Option.ext
  intro value
  simp only [map_fst_uninterpret_eq_some_iff decodesNumerals, same]

/-- A term is recognised by the first scope that prints it, if there is one, and its value is its
depth. Another order of the scopes can change the scope but not the value; it cannot turn a term
that is printed into one that is not. Codecs that both know a term count the same, down to one zero
and, where there is something to count, with one successor. -/
theorem uninterpret_first (term : Term) (scopes : List String) :
    (∀ value scope, table.uninterpret term scopes = some (value, scope) ↔
      table.PrintsAs term value scope ∧
        ∃ before after, scopes = before ++ scope :: after ∧
          ∀ earlier ∈ before, ¬ table.PrintsAs term value earlier) ∧
    (∀ value scope, table.uninterpret term scopes = some (value, scope) → value = term.depth) ∧
    (∀ others, scopes.Perm others →
      (table.uninterpret term scopes).map Prod.fst =
        (table.uninterpret term others).map Prod.fst) ∧
    ∀ (first second : Codec) (m n : Nat),
      first.decode term = some m → second.decode term = some n →
      m = n ∧ first.zero = second.zero ∧ (0 < m → first.succ = second.succ) := by
  have prints (value : Int) (scope : String) :=
    numberIn_eq_some_iff_printsAs decodesNumerals term scope value
  refine ⟨?_, ?_, ?_, ?_⟩
  · intro value scope
    rw [uninterpret_eq_some_iff, prints]
    apply and_congr_right
    intro here
    -- an earlier scope that printed another value would print the depth, which is this value
    obtain rfl := here.value_eq_depth
    simp only [numberIn_eq_none_iff decodesNumerals]
  · intro value scope found
    exact ((prints value scope).mp ((uninterpret_eq_some_iff ..).mp found).1).value_eq_depth
  · intro others reordered
    exact map_fst_uninterpret_congr decodesNumerals term fun _ => reordered.mem_iff
  · intro first second m n one two
    exact Codec.agree_of_decode one two

end

/-- Two scopes share a zero: the one that is asked first recognises it, with the same value. -/
theorem uninterpret_first_shared_zero :
    let other : Codec := { Codec.standard with succ := Codec.standard.nat }
    let table := Tables.standard.notations.withInterpreter (other.interpreterOf "other")
    let zero := Term.ref Codec.standard.zero .nowhere
    table.DecodesNumerals ∧
      table.uninterpret zero ["unknown", "other", standardScope] = some (0, "other") ∧
      table.uninterpret zero [standardScope, "unknown", "other"] = some (0, standardScope) ∧
      table.PrintsAs zero 0 "other" ∧
      (table.uninterpret zero ["unknown", "other", standardScope]).map Prod.fst =
        (table.uninterpret zero [standardScope, "unknown", "other"]).map Prod.fst := by
  intro other table zero
  have decodes : table.DecodesNumerals := by
    intro scope interpreter found _
    rw [find?_withInterpreter] at found
    split at found
    · cases found
      exact ⟨other, rfl⟩
    · rw [(Tables.standard_find? found).2]
      exact ⟨.standard, rfl⟩
  have unknown : table.numberIn zero "unknown" = none := rfl
  have known (scope : String) (codec : Codec) (same : Codec.standard.zero = codec.zero)
      (registered : table.interpreters.find? scope = some (codec.interpreterOf scope)) :
      table.numberIn zero scope = some 0 := by
    rw [numberIn_of_interpreterOf registered, Codec.decode_ref, if_pos same]
    rfl
  have first : table.uninterpret zero ["unknown", "other", standardScope] = some (0, "other") := by
    simp [uninterpret_eq_findSome?, unknown, known "other" other rfl rfl]
  have second : table.uninterpret zero [standardScope, "unknown", "other"] =
      some (0, standardScope) := by
    simp [uninterpret_eq_findSome?, known standardScope .standard rfl rfl]
  obtain ⟨recognised, -, reordered, -⟩ :=
    uninterpret_first decodes zero ["unknown", "other", standardScope]
  exact ⟨decodes, first, second, ((recognised 0 "other").mp first).1,
    reordered _ (by decide +kernel)⟩

end NotationTable

end UnaryNumeral
