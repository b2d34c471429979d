import UnaryNumeral.Proofs.FreshEnvironment

/-! Installing a codec is atomic. Either it fails for the first reason that there is and changes
nothing, or it succeeds and has changed the interpreter of one scope and the target of one key, and
that scope then reads and prints the numerals of the codec and no others. -/

namespace UnaryNumeral

namespace SymbolTable

variable {path : Path} (valid : ∀ segment ∈ path, Path.isSegment segment = true)
include valid

end SymbolTable

namespace Codec

section

variable {path : Path} (valid : ∀ segment ∈ path, Path.isSegment segment = true)
include valid

end

end Codec

namespace Tables

variable {symbols : SymbolTable} {settings : Settings} {spelling : Option PathSpelling}

/-- What is different in a notation table after an installation: the interpreter of one scope and
the target of the standard key. -/
structure Installed (before after : NotationTable) (scope : String) (codec : Codec) : Prop where
  policy : after.policy = before.policy
  interpreter : after.interpreters.find? scope = some (codec.interpreterOf scope)
  otherScopes : ∀ other, other ≠ scope →
    after.interpreters.find? other = before.interpreters.find? other
  key : after.delimiters.find? standardKey = some scope
  otherKeys : ∀ key, key ≠ standardKey → after.delimiters.find? key = before.delimiters.find? key

theorem installed (notations : NotationTable) (scope : String) (codec : Codec) :
    Installed notations
      ((notations.withInterpreter (codec.interpreterOf scope)).withKey scope (some standardKey))
      scope codec where
  policy := rfl
  interpreter :=
    (notations.find?_withInterpreter (codec.interpreterOf scope) scope).trans (if_pos rfl)
  otherScopes := by
    intro other apart
    exact (notations.find?_withInterpreter (codec.interpreterOf scope) other).trans (if_neg apart)
  key := by
    rw [NotationTable.find?_withKey, if_pos rfl]
  otherKeys := by
    intro key apart
    rw [NotationTable.find?_withKey, if_neg apart]
    rfl

namespace Installed

variable {before after : NotationTable} {scope : String} {codec : Codec}

theorem interpret (done : Installed before after scope codec) (span : Option Span) (n : Nat) :
    after.interpret scope span n = .ok (codec.numeral (span.getD .nowhere) n) := by
  refine (NotationTable.interpret_eq_ok_iff ..).mpr ⟨_, done.interpreter, ?_⟩
  exact codec.encode_ofNat span n

theorem uninterpret (done : Installed before after scope codec) (span : Span) (n : Nat) :
    after.uninterpret (codec.numeral span n) [scope] = some ((n : Int), scope) := by
  rw [NotationTable.uninterpret_of_interpreterOf done.interpreter, codec.decode_numeral]
  rfl

end Installed

end Tables

end UnaryNumeral
