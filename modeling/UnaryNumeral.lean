import UnaryNumeral.Main
import UnaryNumeral.Proofs.Reading
import UnaryNumeral.Proofs.RoundTrip
import UnaryNumeral.Proofs.SourceSpans
import UnaryNumeral.Proofs.SymbolInvariant
import UnaryNumeral.Proofs.CommandReports
import UnaryNumeral.Proofs.Replay
import UnaryNumeral.Proofs.NotationEffects
import UnaryNumeral.Proofs.NotationHistory
import UnaryNumeral.Proofs.FormattedLiterals
import UnaryNumeral.Proofs.Declarations
import UnaryNumeral.Proofs.StrictRegistration
import UnaryNumeral.Proofs.RegistrationFailures
import UnaryNumeral.Proofs.AppendedDeclarations
import UnaryNumeral.Proofs.Installation
import UnaryNumeral.Proofs.LexemeLanguage
import UnaryNumeral.Proofs.Tokenization
import UnaryNumeral.Proofs.FirstDefect
import UnaryNumeral.Proofs.LiteralOutcomes
import UnaryNumeral.Proofs.NumeralReading
import UnaryNumeral.Proofs.ScopeOrder
import UnaryNumeral.Proofs.ParallelReading
import UnaryNumeral.Proofs.DecoderCalls
import UnaryNumeral.Proofs.Isolation
import UnaryNumeral.Proofs.PrintingLimits
import UnaryNumeral.Proofs.EquivalentSpellings
import UnaryNumeral.Proofs.Occurrences
