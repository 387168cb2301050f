import KernelGen.Backend
import KernelGen.Blake3
import KernelGen.CommandLine.Arguments
import KernelGen.CommandLine.Log
import KernelGen.CommandLine.Session
import KernelGen.Decimal.Binary
import KernelGen.Decimal.Layout
import KernelGen.Decimal.Natural
import KernelGen.Decimal.Shortest
import KernelGen.Diagnostic
import KernelGen.Digraph
import KernelGen.Error
import KernelGen.FileTree
import KernelGen.Function
import KernelGen.Generation
import KernelGen.Graph.Basic
import KernelGen.Graph.Binding
import KernelGen.Graph.Callees
import KernelGen.Graph.Indexed
import KernelGen.Graph.TypeOrder
import KernelGen.Graph.Validation
import KernelGen.Identifier
import KernelGen.Kernel.Artifact
import KernelGen.Kernel.Params
import KernelGen.Kernel.Proxy
import KernelGen.Kernel.RawLiteral
import KernelGen.Kernel.Slot
import KernelGen.Kernel.Source
import KernelGen.KernelName
import KernelGen.Launch.Argument
import KernelGen.Launch.Cache
import KernelGen.Launch.CrossProduct
import KernelGen.Launch.Signature
import KernelGen.Launch.Stride
import KernelGen.Main
import KernelGen.Manifest.Document
import KernelGen.Manifest.Fault
import KernelGen.Manifest.Number
import KernelGen.Manifest.Scan
import KernelGen.Manifest.Skip
import KernelGen.Manifest.Value
import KernelGen.Options
import KernelGen.Output
import KernelGen.Path
import KernelGen.Project
import KernelGen.Proofs.ArgumentLists
import KernelGen.Proofs.CallArguments
import KernelGen.Proofs.CallOrder
import KernelGen.Proofs.DependencyOrder
import KernelGen.Proofs.DepthFirst
import KernelGen.Proofs.KernelNames
import KernelGen.Proofs.KernelText
import KernelGen.Proofs.MarkerSearch
import KernelGen.Proofs.Numerals
import KernelGen.Proofs.RawLiteral
import KernelGen.Proofs.Rendering
import KernelGen.Proofs.TypeOrder
import KernelGen.Proofs.Validation
import KernelGen.Report
import KernelGen.Skeleton
import KernelGen.Span
import KernelGen.Template
import KernelGen.Text.Blank
import KernelGen.Text.Hex
import KernelGen.Text.Position
import KernelGen.Text.Quoted
import KernelGen.Text.Ranges
import KernelGen.Text.Search
import KernelGen.Text.Sorted
import KernelGen.Text.Utf8
import KernelGen.Text.Width
import KernelGen.Word
import KernelGen.Proofs.Generation
import KernelGen.Proofs.ArtifactNames
import KernelGen.Proofs.DefinitionOrder
import KernelGen.Proofs.CacheEpochs
import KernelGen.Proofs.LiteralDecoding
import KernelGen.Proofs.Markers
import KernelGen.Proofs.FileTrees
import KernelGen.Proofs.OutputFiles
import KernelGen.Proofs.TotalSubstitution
import KernelGen.Proofs.FailedRuns
import KernelGen.Proofs.Agreement
import KernelGen.Proofs.Locality
import KernelGen.Proofs.Renumbering
import KernelGen.Proofs.DeclarationOrder
import KernelGen.Proofs.KernelScope
import KernelGen.Proofs.StructNames
import KernelGen.Proofs.GlobalNames
import KernelGen.Proofs.PathComponents
import KernelGen.Proofs.MainFragment
import KernelGen.Proofs.JsonText
import KernelGen.Proofs.JsonReading
import KernelGen.Proofs.ManifestDocuments
import KernelGen.Proofs.GridStrides
import KernelGen.Proofs.CrossProducts
import KernelGen.Proofs.Launches
import KernelGen.Proofs.TypeErrors
import KernelGen.Proofs.ShapeOverflow
import KernelGen.Proofs.Additions
import KernelGen.Proofs.GraphIndexes
import KernelGen.Proofs.ProxyLayouts
import KernelGen.Proofs.Diagnostics
import KernelGen.Proofs.TextPositions
import KernelGen.Proofs.SettingLines
import KernelGen.Proofs.ProjectFiles
