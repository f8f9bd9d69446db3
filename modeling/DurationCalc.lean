import DurationCalc.Clock.Canonical
import DurationCalc.Expression.Grammar
import DurationCalc.Lexeme.Lossless
import DurationCalc.Main
import DurationCalc.Proofs.ClosestCount
import DurationCalc.Proofs.CommaIsolation
import DurationCalc.Proofs.ExpressionRuns
import DurationCalc.Proofs.GrammarRecognition
import DurationCalc.Proofs.NearestAway
import DurationCalc.Proofs.MillisecondGrid
import DurationCalc.Proofs.CanonicalReading
import DurationCalc.Proofs.AnswerStability
import DurationCalc.Proofs.CanonicalForm
import DurationCalc.Proofs.FirstMisfit
import DurationCalc.Proofs.BlanksAndCase
import DurationCalc.Proofs.LiveTyping
import DurationCalc.Proofs.ReportAlignment
import DurationCalc.Proofs.LineByLine
import DurationCalc.Proofs.LosslessDetour
import DurationCalc.Proofs.ExactConversion
import DurationCalc.Proofs.TotalDrift
import DurationCalc.Proofs.NegatedTerms
import DurationCalc.Proofs.OrderedConversion
import DurationCalc.Proofs.LosslessSplit
import DurationCalc.Proofs.TextAddition
import DurationCalc.Proofs.TrailingWords
import DurationCalc.Proofs.CalculationAgreement
import DurationCalc.Proofs.SettingsUnread
import DurationCalc.Proofs.WrittenPaths
import DurationCalc.Proofs.KeyByKey
import DurationCalc.Proofs.VariableLayer
import DurationCalc.Proofs.LayeredSettings
import DurationCalc.Proofs.CellOutcomes
import DurationCalc.Proofs.CellSums
import DurationCalc.Proofs.CellOperands
import DurationCalc.Proofs.FrameCadence
import DurationCalc.Proofs.FreeTextFaults
import DurationCalc.Proofs.RateText
import DurationCalc.Expression.Registers
import DurationCalc.Proofs.SoundRegisters
