import CurveSheet.Host.World
import CurveSheet.Main
import CurveSheet.Proofs.Command.Agreement
import CurveSheet.Proofs.Formula.Stability
import CurveSheet.Proofs.Number.Digits
import CurveSheet.Proofs.Number.ReadBack
import CurveSheet.Proofs.Yaml.Gap
import CurveSheet.Proofs.Yaml.NumberText
import CurveSheet.Proofs.Yaml.Scalar.Escape
import CurveSheet.Proofs.Yaml.Scalar.Plain
import CurveSheet.Proofs.Yaml.Scalar.Quoted
import CurveSheet.Proofs.Command.Delivery
import CurveSheet.Proofs.Command.Resolution
import CurveSheet.Proofs.Json.Reader
import CurveSheet.Proofs.Number.Characters
import CurveSheet.Proofs.Json.Scalar
import CurveSheet.Proofs.Json.RoundTrip
import CurveSheet.Proofs.Engine.Document
import CurveSheet.Proofs.Yaml.Scalar.Literal
import CurveSheet.Proofs.Yaml.Scalar.Written
import CurveSheet.Proofs.Yaml.Token.Run
import CurveSheet.Proofs.Yaml.Token.Fetch
import CurveSheet.Proofs.Yaml.Token.Line
import CurveSheet.Proofs.Yaml.Token.Value
import CurveSheet.Proofs.Yaml.Node.Reading
import CurveSheet.Proofs.Yaml.Scalar.Allowed
import CurveSheet.Proofs.Session.Tokens
import CurveSheet.Proofs.Session.RoundTrip
import CurveSheet.Proofs.Engine.Sides
import CurveSheet.Proofs.Formula.Separator
import CurveSheet.Proofs.Formula.NormalForm
import CurveSheet.Proofs.Session.Acceptance
import CurveSheet.Proofs.Formula.Repair
import CurveSheet.Proofs.Formula.Confluence
import CurveSheet.Proofs.Text.Caseless
import CurveSheet.Proofs.Engine.Balance
import CurveSheet.Proofs.Formula.Outline
import CurveSheet.Proofs.Engine.Grammar
import CurveSheet.Proofs.Number.Order
import CurveSheet.Proofs.Plot.Range
import CurveSheet.Proofs.Formula.ZeroForm
import CurveSheet.Proofs.Plot.Formulas
import CurveSheet.Proofs.Diagnostic.Order
import CurveSheet.Proofs.Diagnostic.Findings
import CurveSheet.Proofs.Plot.Trace
import CurveSheet.Proofs.Engine.Room
import CurveSheet.Proofs.Diagnostic.Names
import CurveSheet.Proofs.Engine.Cursor
import CurveSheet.Proofs.Files.Shown
import CurveSheet.Proofs.Command.Log
