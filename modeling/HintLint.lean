import HintLint.Decimal.Binary
import HintLint.Decimal.Shortest
import HintLint.Decimal.Layout
import HintLint.Decimal.Numeral
import HintLint.Text.CodePoints
import HintLint.Text.Alphanumeric
import HintLint.Text.Blank
import HintLint.Text.Bytes
import HintLint.Text.Unprintable
import HintLint.Text.Quoted
import HintLint.Text.Terminal
import HintLint.Pattern.Basic
import HintLint.Pattern.Escape
import HintLint.Pattern.SetText
import HintLint.Pattern.Reader
import HintLint.Pattern.Support
import HintLint.KeyMap
import HintLint.Json.Value
import HintLint.Json.Fault
import HintLint.Json.Reading
import HintLint.Json.StringText
import HintLint.Json.NumberText
import HintLint.Json.Reader
import HintLint.Json.Skip
import HintLint.Json.Decoder
import HintLint.Json.Record
import HintLint.Json.Pair
import HintLint.Json.Writer
import HintLint.Error
import HintLint.Position
import HintLint.Hint
import HintLint.Parameter
import HintLint.Statement
import HintLint.Node
import HintLint.Message
import HintLint.Finding
import HintLint.Policy
import HintLint.Inspection
import HintLint.Log.Config
import HintLint.Log.Directive
import HintLint.Log.Filter
import HintLint.Log.Logger
import HintLint.Session
import HintLint.Proofs.Json.Rounds
import HintLint.Proofs.Json.ReadBack
import HintLint.Proofs.Json.TextAndValue
import HintLint.Proofs.Json.Canonical
import HintLint.Proofs.Json.Edits
import HintLint.Proofs.Json.Fields
import HintLint.Proofs.Json.RecordEdits
import HintLint.Proofs.Json.Shape
import HintLint.Proofs.Json.Skipped
import HintLint.Proofs.Json.Plain
import HintLint.Proofs.NodeShape
import HintLint.Proofs.NodeRoutes
import HintLint.Proofs.NodeRoundTrip
import HintLint.Proofs.NodeLists
import HintLint.Proofs.RecordMembers
import HintLint.Proofs.AbsentMembers
import HintLint.Proofs.InspectionTrace
import HintLint.Proofs.SignatureOrder
import HintLint.Proofs.DefinitionKinds
import HintLint.Proofs.HintsInValue
import HintLint.Proofs.KeyMap
import HintLint.Proofs.Policy
import HintLint.Proofs.PolicyRoundTrip
import HintLint.Proofs.PolicyHistory
import HintLint.Proofs.SessionFindings
import HintLint.Proofs.Suppression
import HintLint.Proofs.KeyAliases
import HintLint.Proofs.Json.PlainForm
import HintLint.Proofs.PolicyForm
import HintLint.Proofs.PolicyValidation
import HintLint.Proofs.MessageTemplate
import HintLint.Proofs.FindingTexts
import HintLint.Proofs.Log.Directive
import HintLint.Proofs.Log.LineText
import HintLint.Proofs.Log.Override
import HintLint.Proofs.Log.Lines
