import UnaryNumeral.Text.Decimal

namespace UnaryNumeral

/-- The characters from `start` up to but not including `stop` of a named source. -/
structure Span where
  start : Int := 0
  stop : Int := 0
  source : Option String := none
  deriving DecidableEq, Inhabited

namespace Span

/-- The span of a term that was built and not read. -/
def nowhere : Span := {}

/-- A span reads `source:start-stop`; a source without a name is left out. -/
def text (span : Span) : String :=
  let place := Text.decimal span.start ++ "-" ++ Text.decimal span.stop
  match span.source with
  | none => place
  | some source => if source = "" then place else source ++ ":" ++ place

end Span

end UnaryNumeral
