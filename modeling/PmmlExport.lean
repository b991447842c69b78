import PmmlExport.Cli.Arguments
import PmmlExport.Cli.Files
import PmmlExport.Cli.Options
import PmmlExport.Cli.Report
import PmmlExport.Cli.Run
import PmmlExport.Interchange.Catalog
import PmmlExport.Interchange.Encoding
import PmmlExport.Interchange.Exchange
import PmmlExport.Interchange.Schema
import PmmlExport.Interchange.TextReader
import PmmlExport.Json.Cursor
import PmmlExport.Json.Fault
import PmmlExport.Json.Print
import PmmlExport.Json.Value
import PmmlExport.Literal
import PmmlExport.Main
import PmmlExport.Markup.Node
import PmmlExport.Markup.Text
import PmmlExport.Number.Binary64
import PmmlExport.Number.Count
import PmmlExport.Number.Notation
import PmmlExport.Number.Shortest
import PmmlExport.Proofs.Reference
import PmmlExport.Proofs.Traversal
import PmmlExport.Proofs.TypeTable
import PmmlExport.Source.DataType
import PmmlExport.Source.Expr
import PmmlExport.Source.Operator
import PmmlExport.Source.Render
import PmmlExport.Source.Typing
import PmmlExport.Text.GraphemeExtend
import PmmlExport.Text.Printable
import PmmlExport.Text.Similarity
import PmmlExport.Translate.Basic
import PmmlExport.Proofs.FirstFault
import PmmlExport.Proofs.Compatibility
import PmmlExport.Proofs.NodeTranslation
import PmmlExport.Proofs.OperandOrder
import PmmlExport.Proofs.MarkupOutline
import PmmlExport.Proofs.ReaderSteps
import PmmlExport.Proofs.ReaderNesting
import PmmlExport.Proofs.TextTokens
import PmmlExport.Proofs.RoundTrip
import PmmlExport.Proofs.JsonLaws
import PmmlExport.Proofs.ExpressionText
import PmmlExport.Proofs.DepthCheck
import PmmlExport.Proofs.Truncation
import PmmlExport.Proofs.MarkupRoundTrip
