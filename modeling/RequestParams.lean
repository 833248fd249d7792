import RequestParams.Text.Blank
import RequestParams.Text.CaseFold
import RequestParams.Text.CaseRun
import RequestParams.Text.Cased
import RequestParams.Text.Category
import RequestParams.Text.CharSet
import RequestParams.Text.Digits
import RequestParams.Text.Integer
import RequestParams.Text.Lowercase
import RequestParams.Text.Property
import RequestParams.Text.Quoted
import RequestParams.Text.Script
import RequestParams.Text.Unprintable
import RequestParams.Numeric
import RequestParams.Binary64
import RequestParams.Binary64.Reading
import RequestParams.Binary64.Rounding
import RequestParams.Binary64.Shortest
import RequestParams.Json
import RequestParams.Json.Numeral
import RequestParams.Json.Outline
import RequestParams.Json.Printer
import RequestParams.Json.Reader
import RequestParams.Json.Token
import RequestParams.Value
import RequestParams.Value.Conversion
import RequestParams.Attachment
import RequestParams.Calendar.Date
import RequestParams.Calendar.DateFormat
import RequestParams.Calendar.Fields
import RequestParams.Calendar.Format
import RequestParams.Calendar.Reading
import RequestParams.Grammar.Email
import RequestParams.Grammar.IsoDatetime
import RequestParams.Grammar.Phone
import RequestParams.Pattern
import RequestParams.Pattern.Bracket
import RequestParams.Pattern.CharClass
import RequestParams.Pattern.Escape
import RequestParams.Pattern.Expr
import RequestParams.Pattern.Reader
import RequestParams.Shape
import RequestParams.Shape.Membership
import RequestParams.Rule
import RequestParams.Rule.Suffix
import RequestParams.Rule.Types
import RequestParams.Source
import RequestParams.Param
import RequestParams.ParamSet
import RequestParams.Fields
import RequestParams.Arguments
import RequestParams.Provider
import RequestParams.RequestInputs
import RequestParams.ConfigError
import RequestParams.ValidationError
import RequestParams.Event
import RequestParams.Logged
import RequestParams.Coercion
import RequestParams.Validation
import RequestParams.Validator
import RequestParams.Config
import RequestParams.Config.Reader
import RequestParams.Proofs.Text.Blank
import RequestParams.Proofs.Text.ControlCharacters
import RequestParams.Proofs.Text.Digits
import RequestParams.Proofs.Text.Integer
import RequestParams.Proofs.Text.Lowercase
import RequestParams.Proofs.Text.Spelling
import RequestParams.Proofs.Numeric.Order
import RequestParams.Proofs.Binary64.Decimal
import RequestParams.Proofs.Binary64.Exact
import RequestParams.Proofs.Binary64.Finite
import RequestParams.Proofs.Binary64.Nearest
import RequestParams.Proofs.Binary64.Ratio
import RequestParams.Proofs.Binary64.Reading
import RequestParams.Proofs.Json.Grammar
import RequestParams.Proofs.Json.NumeralText
import RequestParams.Proofs.Json.StringText
import RequestParams.Proofs.Value.Nulls
import RequestParams.Proofs.Value.Parts
import RequestParams.Proofs.Value.RoundTrip
import RequestParams.Proofs.Calendar.Consistency
import RequestParams.Proofs.Calendar.Date
import RequestParams.Proofs.Calendar.Reading
import RequestParams.Proofs.Grammar.Email
import RequestParams.Proofs.Grammar.IsoDatetime
import RequestParams.Proofs.Grammar.IsoLayout
import RequestParams.Proofs.Grammar.Phone
import RequestParams.Proofs.Pattern.Languages
import RequestParams.Proofs.Pattern.Matching
import RequestParams.Proofs.Shape.Construction
import RequestParams.Proofs.Shape.FirstChoice
import RequestParams.Proofs.Shape.Origins
import RequestParams.Proofs.Shape.Parts
import RequestParams.Proofs.Shape.Text
import RequestParams.Proofs.Shape.Unions
import RequestParams.Proofs.Rule.Bounds
import RequestParams.Proofs.Rule.Choices
import RequestParams.Proofs.Rule.Compatibility
import RequestParams.Proofs.Rule.FileExtension
import RequestParams.Proofs.Rule.LastExtension
import RequestParams.Proofs.Rule.Patterns
import RequestParams.Proofs.Param.Legality
import RequestParams.Proofs.Param.Soundness
import RequestParams.Proofs.ParamSet.FirstDefect
import RequestParams.Proofs.Fields
import RequestParams.Proofs.Arguments
import RequestParams.Proofs.RequestInputs.HeaderCase
import RequestParams.Proofs.RequestInputs.HeaderOrder
import RequestParams.Proofs.RequestInputs.WriteLog
import RequestParams.Proofs.Lookup
import RequestParams.Proofs.Validation.ArgumentMap
import RequestParams.Proofs.Validation.Composition
import RequestParams.Proofs.Validation.Finiteness
import RequestParams.Proofs.Validation.FloatText
import RequestParams.Proofs.Validation.IntegerText
import RequestParams.Proofs.Validation.Messages
import RequestParams.Proofs.Validation.Outcome
import RequestParams.Proofs.Validation.PrintedShapes
import RequestParams.Proofs.Validation.Relevance
import RequestParams.Proofs.Validation.Revalidation
import RequestParams.Proofs.Validation.RuleSafety
import RequestParams.Proofs.Validation.Satisfiability
import RequestParams.Proofs.Validation.TextSources
import RequestParams.Proofs.Validation.Trace
import RequestParams.Proofs.Validation.Verdict
import RequestParams.Proofs.Validation.WireNames
import RequestParams.Proofs.Validator.Bodies
import RequestParams.Proofs.Validator.EntryPoints
import RequestParams.Proofs.Validator.Failures
import RequestParams.Proofs.Config.Documents
import RequestParams.Proofs.Config.Fallback
import RequestParams.Proofs.Config.Settings
