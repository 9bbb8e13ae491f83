import RecordValidation.Model.Group
import RecordValidation.Schema.Source
import RecordValidation.Proofs.Distinct
import RecordValidation.Proofs.Resolution
import RecordValidation.Proofs.ScenarioViews
import RecordValidation.Proofs.FaultOrigin
import RecordValidation.Proofs.FullPass
import RecordValidation.Proofs.CheckWalk
import RecordValidation.Proofs.Turns
import RecordValidation.Proofs.MassAssignment
import RecordValidation.Proofs.UnsafeMarks
import RecordValidation.Proofs.FirstComplaint
import RecordValidation.Proofs.Locality
import RecordValidation.Proofs.RecordFrame
import RecordValidation.Proofs.ScenarioIsolation
import RecordValidation.Proofs.Lifecycle
import RecordValidation.Proofs.RelevantValues
import RecordValidation.Proofs.PassWalk
import RecordValidation.Proofs.CacheSteps
import RecordValidation.Proofs.CacheHistory
import RecordValidation.Proofs.PassValidators
import RecordValidation.Proofs.ErrorLog
import RecordValidation.Proofs.CompileFaults
import RecordValidation.Proofs.UncompiledRules
import RecordValidation.Proofs.BuiltValidators
import RecordValidation.Proofs.RequiredAttributes
import RecordValidation.Proofs.RuleReading
import RecordValidation.Proofs.RuleForms
import RecordValidation.Proofs.AttributeSet
import RecordValidation.Proofs.CompiledEntries
import RecordValidation.Proofs.CreatedByAlias
import RecordValidation.Proofs.CheckCalls
import RecordValidation.Proofs.CheckedOnce
import RecordValidation.Proofs.GrowingErrors
import RecordValidation.Proofs.DeclaredAttributes
import RecordValidation.Proofs.TabularData
import RecordValidation.Proofs.NumberBounds
import RecordValidation.Proofs.IntegerTexts
import RecordValidation.Proofs.NumberAnswers
import RecordValidation.Proofs.TextOrder
import RecordValidation.Proofs.ForbiddenItems
import RecordValidation.Proofs.TemplateReadings
import RecordValidation.Proofs.UpperCase
import RecordValidation.Proofs.LabelWords
import RecordValidation.Proofs.FirstOccurrences
