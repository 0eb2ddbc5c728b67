import TypeSchema.Main
import TypeSchema.Proofs.Assertion.ErrorForms
import TypeSchema.Proofs.Assertion.Failures
import TypeSchema.Proofs.Cache.History
import TypeSchema.Proofs.Command.ArrayChecks
import TypeSchema.Proofs.Command.Compilation
import TypeSchema.Proofs.Command.Elementwise
import TypeSchema.Proofs.Command.ExitStatus
import TypeSchema.Proofs.Command.JsonReports
import TypeSchema.Proofs.Registry.LastWins
import TypeSchema.Proofs.Registry.NumericTypes
import TypeSchema.Proofs.Schema.Acceptance
import TypeSchema.Proofs.Schema.CanonicalText
import TypeSchema.Proofs.Schema.Dependence
import TypeSchema.Proofs.Schema.DisplayNames
