import UnaryNumeral.Codec
import UnaryNumeral.Proofs.TermEquality

namespace UnaryNumeral

namespace Codec

/-- Successors that were removed before only add to the count. -/
private theorem countFrom_eq (codec : Codec) (term : Term) (count : Nat) :
    codec.countFrom term count = (codec.countFrom term 0).map (· + count) := by
  induction term generalizing count with
  | ref handle span =>
    unfold countFrom
    by_cases zero : handle = codec.zero <;> simp [zero]
  | var name span => unfold countFrom; simp
  | app head args span _ ih =>
    unfold countFrom
    simp only [Term.asRef_app, reduceCtorEq, ↓reduceIte]
    rcases args with _ | ⟨arg, _ | ⟨second, more⟩⟩
    · rfl
    · by_cases succ : head.asRef = some codec.succ
      · have step := ih arg (List.mem_singleton_self arg)
        simp only [if_pos succ]
        rw [step (count + 1), step (0 + 1), Option.map_map]
        congr 1
        funext found
        simp only [Function.comp_apply]
        omega
      · simp only [if_neg succ, Option.map_none]
    · rfl

@[simp]
theorem decode_ref (codec : Codec) (handle : Handle) (span : Span) :
    codec.decode (.ref handle span) = if handle = codec.zero then some 0 else none := by
  unfold decode countFrom
  simp

@[simp]
theorem decode_var (codec : Codec) (name : String) (span : Span) :
    codec.decode (.var name span) = none := by
  unfold decode countFrom
  simp

@[simp]
theorem decode_app_one (codec : Codec) (head arg : Term) (span : Span) :
    codec.decode (.app head [arg] span) =
      if head.asRef = some codec.succ then (codec.decode arg).map (· + 1) else none := by
  unfold decode
  rw [countFrom]
  simp only [Term.asRef_app, reduceCtorEq, ↓reduceIte]
  rw [countFrom_eq codec arg (0 + 1)]

theorem decode_app_of_length_ne_one (codec : Codec) (head : Term) {args : List Term} (span : Span)
    (several : args.length ≠ 1) : codec.decode (.app head args span) = none := by
  unfold decode countFrom
  match args, several with
  | [], _ => rfl
  | [_], several => exact absurd rfl several
  | _ :: _ :: _, _ => rfl

theorem bare_numeral (codec : Codec) (span : Span) (n : Nat) :
    (codec.numeral span n).bare = codec.numeral .nowhere n := by
  induction n with
  | zero => rfl
  | succ n ih => simp [numeral_succ, Term.applyTo, ih]

theorem decode_numeral (codec : Codec) (span : Span) (n : Nat) :
    codec.decode (codec.numeral span n) = some n := by
  induction n with
  | zero => simp [numeral_zero]
  | succ n ih => simp [numeral_succ, Term.applyTo, ih]

/-- A term with a number is a numeral: by induction on the term, as the successors are removed. -/
theorem bare_of_decode {codec : Codec} {term : Term} {n : Nat}
    (found : codec.decode term = some n) : term.bare = codec.numeral .nowhere n := by
  induction term generalizing n with
  | ref handle span =>
    simp only [decode_ref, Option.ite_none_right_eq_some, Option.some.injEq] at found
    obtain ⟨rfl, rfl⟩ := found
    rfl
  | var name span => simp at found
  | app head args span _ ih =>
    by_cases one : args.length = 1
    · obtain ⟨arg, rfl⟩ := List.length_eq_one_iff.mp one
      simp only [decode_app_one, Option.ite_none_right_eq_some, Option.map_eq_some_iff] at found
      obtain ⟨succ, m, inner, rfl⟩ := found
      have below := ih arg (List.mem_singleton_self arg) inner
      cases head with
      | ref handle other =>
        cases succ
        simp [numeral_succ, Term.applyTo, below]
      | var name other => cases succ
      | app first rest other => cases succ
    · rw [decode_app_of_length_ne_one codec head span one] at found
      cases found

theorem headRef_of_decode {codec : Codec} {term : Term} {n : Nat}
    (found : codec.decode term = some n) :
    term.headRef = some codec.zero ∨ term.headRef = some codec.succ := by
  cases term with
  | ref handle span =>
    simp only [decode_ref, Option.ite_none_right_eq_some] at found
    exact .inl (congrArg some found.1)
  | var name span => simp at found
  | app head args span =>
    by_cases one : args.length = 1
    · obtain ⟨arg, rfl⟩ := List.length_eq_one_iff.mp one
      simp only [decode_app_one, Option.ite_none_right_eq_some] at found
      exact .inr found.1
    · rw [decode_app_of_length_ne_one codec head span one] at found
      cases found

theorem decode_bare (codec : Codec) (term : Term) : codec.decode term.bare = codec.decode term := by
  induction term with
  | ref handle span => simp
  | var name span => simp
  | app head args span _ ih =>
    by_cases one : args.length = 1
    · obtain ⟨arg, rfl⟩ := List.length_eq_one_iff.mp one
      simp [ih arg (List.mem_singleton_self arg)]
    · rw [decode_app_of_length_ne_one codec head span one, Term.bare_app,
        decode_app_of_length_ne_one codec head.bare .nowhere (by simpa using one)]

theorem decode_eq_some_iff (codec : Codec) (term : Term) (n : Nat) :
    codec.decode term = some n ↔ term.bare = codec.numeral .nowhere n := by
  constructor
  · exact bare_of_decode
  · intro equal
    rw [← decode_bare, equal, decode_numeral]

theorem encode_eq_ok_iff (codec : Codec) (span : Option Span) (n : Int) (term : Term) :
    codec.encode span n = .ok term ↔
      0 ≤ n ∧ term = codec.numeral (span.getD .nowhere) n.toNat := by
  unfold encode
  by_cases negative : n < 0
  · simp [negative, Int.not_le.mpr negative]
  · simp [negative, Int.not_lt.mp negative, eq_comm]

theorem encode_ofNat (codec : Codec) (span : Option Span) (n : Nat) :
    codec.encode span (n : Int) = .ok (codec.numeral (span.getD .nowhere) n) :=
  (encode_eq_ok_iff ..).mpr ⟨Int.natCast_nonneg n, rfl⟩

theorem decode_eq_some_iff_same (codec : Codec) (span : Span) (term : Term) (n : Nat) :
    codec.decode term = some n ↔ term.same (codec.numeral span n) = true := by
  rw [decode_eq_some_iff, Term.same_eq_true_iff, bare_numeral]

/-- A codec recognises exactly what it encodes: a term has the number `n` if and only if it is, up
to spans, the encoding of `n`. So an encoding is read back as its number, no two numbers share an
encoding, and what is no encoding has no number. The three handles are any, also when zero and
successor are one. -/
theorem decode_iff_same_as_encoding (codec : Codec) (span : Option Span) (term : Term) :
    (∀ n : Nat, ∃ encoding, codec.encode span n = .ok encoding ∧
      (codec.decode term = some n ↔ term.same encoding = true) ∧
      codec.decode encoding = some n) ∧
    (∀ (other : Option Span) (m n : Nat), ∃ first second,
      codec.encode span m = .ok first ∧ codec.encode other n = .ok second ∧
      (first.same second = true ↔ m = n)) ∧
    (codec.decode term = none ↔
      ¬ ∃ (n : Nat) (encoding : Term),
        codec.encode span n = .ok encoding ∧ term.same encoding = true) := by
  refine ⟨?_, ?_, ?_⟩
  · intro n
    have recognised := decode_eq_some_iff_same codec (span.getD .nowhere) term n
    exact ⟨_, encode_ofNat codec span n, recognised, decode_numeral codec _ n⟩
  · intro other m n
    refine ⟨_, _, encode_ofNat codec span m, encode_ofNat codec other n, ?_⟩
    rw [← decode_eq_some_iff_same, decode_numeral, Option.some.injEq]
  · constructor
    · intro unknown encoded
      obtain ⟨n, encoding, encodes, same⟩ := encoded
      rw [encode_ofNat, Except.ok.injEq] at encodes
      subst encodes
      rw [← decode_eq_some_iff_same, unknown] at same
      cases same
    · intro apart
      rw [Option.eq_none_iff_forall_ne_some]
      intro n found
      have same := (decode_eq_some_iff_same codec (span.getD .nowhere) term n).mp found
      exact apart ⟨n, _, encode_ofNat codec span n, same⟩

end Codec

end UnaryNumeral
