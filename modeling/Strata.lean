import Strata.Analysis
import Strata.Ascending
import Strata.Check
import Strata.Check.AntiPattern
import Strata.Check.Cycles
import Strata.Check.Imports
import Strata.Check.Placement
import Strata.Check.Profile
import Strata.Check.Rule
import Strata.Command
import Strata.Command.Arguments
import Strata.Command.Starter
import Strata.Command.World
import Strata.Config
import Strata.Config.Reading
import Strata.Dependency
import Strata.Ecosystem
import Strata.FileName
import Strata.FileTree
import Strata.Grammar
import Strata.Graph
import Strata.Graph.Cycle
import Strata.Graph.Index
import Strata.Graph.Resolution
import Strata.Language
import Strata.Language.Kotlin
import Strata.Language.Python
import Strata.Language.Swift
import Strata.Language.TypeScript.Grammar
import Strata.Language.TypeScript.Lexeme
import Strata.Language.TypeScript.Locate
import Strata.Language.TypeScript.Outline
import Strata.Layer.Assignment
import Strata.Layer.Glob
import Strata.Layer.Role
import Strata.Main
import Strata.Masking.Dialect
import Strata.Masking.Mask
import Strata.Name
import Strata.Outline
import Strata.Path
import Strata.Pattern
import Strata.Proofs.Ascending
import Strata.Proofs.Check.Direction
import Strata.Proofs.Check.Reports
import Strata.Proofs.Cycle.Canonical
import Strata.Proofs.Cycle.ClosedWalk
import Strata.Proofs.Cycle.Finishing
import Strata.Proofs.Cycle.Loop
import Strata.Proofs.Cycle.Modules
import Strata.Proofs.Cycle.Search
import Strata.Proofs.FileName
import Strata.Proofs.Graph.Closed
import Strata.Proofs.Graph.Index
import Strata.Proofs.Graph.Resolution
import Strata.Proofs.Text.Lines
import Strata.Proofs.Text.Parts
import Strata.Proofs.Text.Utf8
import Strata.Proofs.Walk.Directories
import Strata.Proofs.Walk.Names
import Strata.Report
import Strata.Report.Json
import Strata.Text.Blank
import Strata.Text.Lines
import Strata.Text.Lowercase
import Strata.Text.Utf8
import Strata.Text.Word
import Strata.Toml.Document
import Strata.Toml.Quoted
import Strata.Toml.Scalar
import Strata.Toml.Value
import Strata.Violation
import Strata.Walk.Exclude
import Strata.Walk.Ignore
import Strata.Walk.IgnoreGlob
import Strata.Walk.Sources
import Strata.Proofs.Masking.Steps
import Strata.Proofs.Masking.Idempotent
import Strata.Proofs.Masking.WholeText
import Strata.Proofs.Masking.Tokens
import Strata.Proofs.Masking.EarlyEnds
import Strata.Proofs.Language.BlankLines
import Strata.Proofs.Language.InsertedLines
import Strata.Proofs.Language.CommentLines
import Strata.Proofs.Walk.IgnoreFree
import Strata.Proofs.Path.Destination
import Strata.Proofs.Path.Lookup
import Strata.Proofs.Language.Locating
import Strata.Proofs.Graph.Relocation
import Strata.Proofs.Graph.Growth
import Strata.Proofs.Check.Order
import Strata.Proofs.Check.Switches
import Strata.Proofs.Pattern.Takes
import Strata.Proofs.Layer.Glob
import Strata.Proofs.Graph.RelativeImports
import Strata.Proofs.Path.NormalForm
import Strata.Proofs.Language.FirstCandidate
import Strata.Proofs.Pattern.Reading
import Strata.Proofs.Layer.WrittenGlob
import Strata.Proofs.Text.Words
import Strata.Proofs.Pattern.Preferred
import Strata.Proofs.Language.FromImport
import Strata.Proofs.Language.JoinedLines
import Strata.Proofs.Language.ImportLayout
import Strata.Proofs.Language.LayoutIndependence
import Strata.Proofs.Path.Route
import Strata.Proofs.Path.Walking
import Strata.Proofs.Graph.ModuleNames
import Strata.Proofs.Masking.Cutting
import Strata.Proofs.Language.BrokenLines
import Strata.Proofs.Graph.IndexAnswers
import Strata.Proofs.Graph.LocalNames
import Strata.Proofs.Check.LocalSpecifiers
import Strata.Proofs.Masking.Braces
import Strata.Proofs.Language.ViewBodies
import Strata.Proofs.Layer.Assignment
import Strata.Proofs.Config.Acceptance
import Strata.Proofs.Walk.Listing
import Strata.Proofs.Language.Semicolons
import Strata.Proofs.Check.NamePatterns
import Strata.Proofs.Layer.Role
import Strata.Proofs.Masking.Registers
import Strata.Proofs.Language.HeaderLines
import Strata.Proofs.Language.Headers
