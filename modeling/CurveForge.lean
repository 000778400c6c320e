import CurveForge.Checked
import CurveForge.Fraction.Basic
import CurveForge.Fraction.Record
import CurveForge.Matrix.Square
import CurveForge.Matrix.Elimination
import CurveForge.Catalog.Standard
import CurveForge.Generation
import CurveForge.Formula
import CurveForge.Text.Classes
import CurveForge.Text.Lowercase
import CurveForge.Naming
import CurveForge.Catalog.Basic
import CurveForge.Source.Basic
import CurveForge.Source.Session
import CurveForge.Segment
import CurveForge.Document.Basic
import CurveForge.Document.Blueprint
import CurveForge.Document.Definition
import CurveForge.Document.ControlPoints
import CurveForge.Document.Splitting
import CurveForge.Document.Traits
import CurveForge.Batch
import CurveForge.Json.Record
import CurveForge.Json.Scan
import CurveForge.Json.Skip
import CurveForge.Manifest
import CurveForge.Storage.Basic
import CurveForge.Storage.FileTree
import CurveForge.Storage.TreeStorage
import CurveForge.Sink.Memory
import CurveForge.Sink.Directory
import CurveForge.CommandLine
import CurveForge.Main
import CurveForge.Proofs.Checked
import CurveForge.Proofs.Generation
import CurveForge.Proofs.Fraction.Value
import CurveForge.Proofs.Fraction.Arithmetic
import CurveForge.Proofs.Fraction.Closed
import CurveForge.Proofs.Matrix.Value
import CurveForge.Proofs.Matrix.Closed
import CurveForge.Proofs.Matrix.Pivoting
import CurveForge.Proofs.Matrix.Elimination
import CurveForge.Proofs.Matrix.Conversion
import CurveForge.Proofs.Reading.Token
import CurveForge.Proofs.Reading.Expression
import CurveForge.Proofs.Reading.Formula
import CurveForge.Proofs.Reading.Parsing
import CurveForge.Proofs.Reading.Program
import CurveForge.Proofs.Formula.Meaning
import CurveForge.Proofs.Formula.LinearSum
import CurveForge.Proofs.Formula.Rows
import CurveForge.Proofs.Formula.Conversion
import CurveForge.Proofs.Catalog.Family
import CurveForge.Proofs.Source.Lines
import CurveForge.Proofs.Document.Blueprint
import CurveForge.Proofs.Document.Generate
import CurveForge.Proofs.Batch
import CurveForge.Proofs.Casteljau
import CurveForge.Proofs.Bernstein
import CurveForge.Proofs.Basis
import CurveForge.Proofs.Document.SplittingText
import CurveForge.Proofs.Document.Splitting
import CurveForge.Proofs.Document.Halves
import CurveForge.Proofs.Matrix.Composition
import CurveForge.Proofs.Source.Session
import CurveForge.Proofs.Document.Ties
import CurveForge.Proofs.Document.CubicTypes
import CurveForge.Proofs.ConversionGraph
import CurveForge.Proofs.Storage.FileTree
import CurveForge.Proofs.Storage.Place
import CurveForge.Proofs.Naming.Module
import CurveForge.Proofs.Storage.TreeStorage
import CurveForge.Proofs.Sink.Directory
import CurveForge.Proofs.Sink.Complete
import CurveForge.Proofs.Document.CatalogOrder
import CurveForge.Proofs.ImportedTypes
import CurveForge.Proofs.Document.Balance
import CurveForge.Proofs.Document.Tidy
import CurveForge.Proofs.Segment
import CurveForge.Proofs.Text
import CurveForge.Proofs.Json.Scan
import CurveForge.Proofs.Json.Record
import CurveForge.Proofs.Manifest
import CurveForge.Proofs.Fraction.Obtainable
import CurveForge.Proofs.Sink.Leftovers
import CurveForge.Proofs.Matrix.Cells
import CurveForge.Proofs.Matrix.InPlace
import CurveForge.Proofs.Matrix.Inversion
import CurveForge.Proofs.Fraction.Exactness
import CurveForge.Proofs.Fraction.Order
import CurveForge.Proofs.Matrix.Solution
import CurveForge.Proofs.Formula.Rendering
import CurveForge.Proofs.Subdivision
import CurveForge.Proofs.Fraction.Difference
import CurveForge.Proofs.Formula.Words
import CurveForge.Proofs.Document.Arguments
import CurveForge.Proofs.Document.Decimals
import CurveForge.Proofs.Document.Capture
import CurveForge.Proofs.Catalog.Acceptance
import CurveForge.Proofs.Naming.Identity
import CurveForge.Proofs.SegmentShape
import CurveForge.Proofs.Blending
import CurveForge.Proofs.Source.Bodies
import CurveForge.Proofs.Matrix.Product
import CurveForge.Proofs.Source.Blocks
import CurveForge.Proofs.Document.Indexing
import CurveForge.Proofs.Source.LineBreaks
import CurveForge.Proofs.Document.LineBreaks
