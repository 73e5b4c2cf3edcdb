import Cartograph.Analysis
import Cartograph.ClassView
import Cartograph.Classification
import Cartograph.CommandLine
import Cartograph.Diagram
import Cartograph.Failure
import Cartograph.FileTree
import Cartograph.Finding
import Cartograph.Graph
import Cartograph.Ignore
import Cartograph.Ignore.Glob
import Cartograph.Java.AnnotationUse
import Cartograph.Java.Code
import Cartograph.Java.Declaration
import Cartograph.Java.Grammar.Basic
import Cartograph.Java.Grammar.Declaration
import Cartograph.Java.Grammar.Expression
import Cartograph.Java.Grammar.Statement
import Cartograph.Java.Grammar.Type
import Cartograph.Java.Parser
import Cartograph.Java.Source
import Cartograph.Java.Token
import Cartograph.Java.Token.Gap
import Cartograph.Java.Token.Number
import Cartograph.Java.Token.Quoted
import Cartograph.Java.Type
import Cartograph.Java.Walk
import Cartograph.Kind
import Cartograph.Label
import Cartograph.Main
import Cartograph.Mapping
import Cartograph.Member
import Cartograph.PackagePattern
import Cartograph.Path
import Cartograph.Places
import Cartograph.Program
import Cartograph.Project
import Cartograph.Proofs.Analysis.References
import Cartograph.Proofs.Classification.Locality
import Cartograph.Proofs.Diagram.Labels
import Cartograph.Proofs.Diagram.Lines
import Cartograph.Proofs.Diagram.Tables
import Cartograph.Proofs.FileTree.Canonical
import Cartograph.Proofs.Graph.Aggregation
import Cartograph.Proofs.Graph.BreadthFirst
import Cartograph.Proofs.Project.Places
import Cartograph.Proofs.Registry.Indexed
import Cartograph.Proofs.Registry.Keys
import Cartograph.Proofs.Registry.Order
import Cartograph.Proofs.Registry.Registrations
import Cartograph.Proofs.Resolution.SimpleNames
import Cartograph.Proofs.Rules.Resolution
import Cartograph.Proofs.Rules.WrittenTypes
import Cartograph.Proofs.Snapshot.RoundTrip
import Cartograph.Proofs.Store.Apart
import Cartograph.Proofs.Store.Saved
import Cartograph.Proofs.Text.Ascending
import Cartograph.Proofs.Text.Dotted
import Cartograph.Proofs.Text.Fresh
import Cartograph.Proofs.Text.Pieces
import Cartograph.Proofs.Workspace.Diagrams
import Cartograph.Proofs.Workspace.History
import Cartograph.Proofs.Workspace.Reopening
import Cartograph.Reach
import Cartograph.Registry
import Cartograph.Results
import Cartograph.Rules.Concern
import Cartograph.Rules.Configuration
import Cartograph.Rules.Injection
import Cartograph.Rules.Layering
import Cartograph.Rules.Messaging
import Cartograph.Rules.Names
import Cartograph.Rules.Persistence
import Cartograph.Rules.Placeholder
import Cartograph.Rules.Security
import Cartograph.Rules.Structure
import Cartograph.Rules.Table
import Cartograph.Rules.Tables
import Cartograph.Rules.Usage
import Cartograph.Scan
import Cartograph.Scope
import Cartograph.Settings
import Cartograph.Snapshot
import Cartograph.Snapshot.Codec
import Cartograph.SourceLayout
import Cartograph.Sources
import Cartograph.Store
import Cartograph.Text.Blank
import Cartograph.Text.Dotted
import Cartograph.Text.JsonValue
import Cartograph.Text.Letter
import Cartograph.Text.Utf8
import Cartograph.Text.Word
import Cartograph.Toml.Document
import Cartograph.Toml.Token
import Cartograph.Toml.Value
import Cartograph.Uuid
import Cartograph.Verb
import Cartograph.Workspace
import Cartograph.Proofs.Rules.Targets
import Cartograph.Proofs.Analysis.Endpoints
import Cartograph.Proofs.FileTree.Walk
import Cartograph.Proofs.FileTree.Removal
import Cartograph.Proofs.Analysis.SkippedFiles
import Cartograph.Proofs.Workspace.Sources
import Cartograph.Proofs.Graph.Deepening
import Cartograph.Proofs.Graph.FirstEdges
import Cartograph.Proofs.Diagram.Names
import Cartograph.Proofs.Java.Reads
import Cartograph.Proofs.Java.Lexes
import Cartograph.Proofs.Java.Spelling
import Cartograph.Proofs.Java.ReadTypes
import Cartograph.Proofs.Java.RoundTrip
import Cartograph.Proofs.Text.Above
import Cartograph.Proofs.Scan.PackagePatterns
import Cartograph.Proofs.Registry.Below
import Cartograph.Proofs.Registry.Parents
import Cartograph.Proofs.Resolution.NamePaths
import Cartograph.Proofs.Diagram.Members
import Cartograph.Proofs.Text.Squeeze
import Cartograph.Proofs.Mapping.CombinedPaths
import Cartograph.Proofs.Rules.FirstOfKind
import Cartograph.Proofs.Project.Summaries
import Cartograph.Proofs.Diagram.SanitizedNames
import Cartograph.Proofs.Scan.SourceLayout
import Cartograph.Proofs.Java.OneMethod
import Cartograph.Proofs.Rules.Templates
import Cartograph.Proofs.Java.CallChains
import Cartograph.Proofs.Java.Preorder
import Cartograph.Proofs.Text.GenericSections
import Cartograph.Proofs.Mapping.FirstPaths
import Cartograph.Proofs.Text.Bytes
import Cartograph.Proofs.Rules.AnnotationNames
