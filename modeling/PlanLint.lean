import PlanLint.Service.Application
import PlanLint.Session
import PlanLint.Proofs.Source.Block
import PlanLint.Proofs.Source.Items
import PlanLint.Proofs.Source.Key
import PlanLint.Proofs.Source.WrittenSequence
import PlanLint.Proofs.Source.Lookup
import PlanLint.Proofs.Document.Printed
import PlanLint.Proofs.Rule.Conformance
import PlanLint.Proofs.Rule.Findings
import PlanLint.Proofs.Rule.Places
import PlanLint.Proofs.Rule.Containment
import PlanLint.Proofs.Source.Renumbering
import PlanLint.Proofs.Source.Surroundings
import PlanLint.Proofs.Rule.Movement
import PlanLint.Proofs.Source.Columns
import PlanLint.Proofs.Rule.Document
import PlanLint.Proofs.Rule.Bounds
import PlanLint.Proofs.Source.Respacing
import PlanLint.Proofs.Rule.Renumbering
import PlanLint.Proofs.Rule.Respacing
import PlanLint.Proofs.Source.OwnField
import PlanLint.Proofs.Service.Application
import PlanLint.Proofs.Validation
import PlanLint.Proofs.Json.Read
import PlanLint.Proofs.Service.Request
import PlanLint.Proofs.Text.Lines
import PlanLint.Proofs.Yaml.Place
import PlanLint.Proofs.Yaml.Failure
import PlanLint.Proofs.Yaml.Token.Quoted
import PlanLint.Proofs.Yaml.Token.Block
import PlanLint.Proofs.Yaml.Token.Plain
import PlanLint.Proofs.Yaml.Token.Name
import PlanLint.Proofs.Yaml.Token.Lexer
import PlanLint.Proofs.Yaml.Scalar
import PlanLint.Proofs.Yaml.Node.Value
import PlanLint.Proofs.Yaml.Node.Parser
import PlanLint.Proofs.Yaml.Read
import PlanLint.Proofs.Validation.Syntax
import PlanLint.Proofs.Rule.Shown
import PlanLint.Proofs.Validation.Result
import PlanLint.Proofs.Source.Margin
import PlanLint.Proofs.Validation.Repeated
import PlanLint.Proofs.Rule.Locality
import PlanLint.Proofs.Rule.Absence
import PlanLint.Proofs.Rule.Reordering
import PlanLint.Proofs.Source.KeyLine
import PlanLint.Proofs.Source.WrittenMapping
import PlanLint.Proofs.Source.Comment
import PlanLint.Proofs.Source.QuotedValue
import PlanLint.Proofs.Source.Partition
import PlanLint.Proofs.Text.Pattern
import PlanLint.Proofs.Rule.Version
import PlanLint.Proofs.Rule.VersionPattern
import PlanLint.Proofs.Rule.UnknownKeys
import PlanLint.Proofs.Text.Digit
import PlanLint.Proofs.Json.Spelling
import PlanLint.Proofs.Json.Layout
import PlanLint.Proofs.Service.Options
import PlanLint.Proofs.Yaml.Token.EntryLine
import PlanLint.Proofs.Yaml.Node.EntryLine
import PlanLint.Proofs.Validation.EntryLine
import PlanLint.Proofs.Validation.FirstEntry
import PlanLint.Proofs.Decimal.Double
import PlanLint.Proofs.Decimal.Nearest
import PlanLint.Proofs.Decimal.Bits
import PlanLint.Proofs.Decimal.Shortest
import PlanLint.Proofs.Decimal.Notation
import PlanLint.Proofs.Rule.NumberVersion
import PlanLint.Proofs.Yaml.PointedNumber
import PlanLint.Proofs.Validation.VersionEntry
import PlanLint.Proofs.Source.BlockSearch
import PlanLint.Proofs.Text.LineEnding
