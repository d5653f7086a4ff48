import ReducerAtlas.Artifact.GlobalModule
import ReducerAtlas.Artifact.MapFile
import ReducerAtlas.Artifact.Reference
import ReducerAtlas.Atlas.Basic
import ReducerAtlas.Atlas.Survey
import ReducerAtlas.Command.Arguments
import ReducerAtlas.Command.Help
import ReducerAtlas.Command.Run
import ReducerAtlas.Command.Standard
import ReducerAtlas.Decimal.Binary
import ReducerAtlas.Decimal.Shortest
import ReducerAtlas.Disk.Basic
import ReducerAtlas.Disk.Folder
import ReducerAtlas.Failure
import ReducerAtlas.Journal
import ReducerAtlas.Json.Layout
import ReducerAtlas.Json.Reader
import ReducerAtlas.Main
import ReducerAtlas.Module.Lookup
import ReducerAtlas.NameSet
import ReducerAtlas.Options.Basic
import ReducerAtlas.Options.Config
import ReducerAtlas.Options.Library
import ReducerAtlas.Options.Settings
import ReducerAtlas.Path.Basic
import ReducerAtlas.Path.Relative
import ReducerAtlas.Pattern.Reader
import ReducerAtlas.Pattern.Search
import ReducerAtlas.Pattern.Syntax
import ReducerAtlas.Proofs.Apart
import ReducerAtlas.Proofs.Barred
import ReducerAtlas.Proofs.Boundaries
import ReducerAtlas.Proofs.Breaks
import ReducerAtlas.Proofs.Caching
import ReducerAtlas.Proofs.ClauseText
import ReducerAtlas.Proofs.Components
import ReducerAtlas.Proofs.Congruence
import ReducerAtlas.Proofs.Count
import ReducerAtlas.Proofs.CutShort
import ReducerAtlas.Proofs.Definitions
import ReducerAtlas.Proofs.Endings
import ReducerAtlas.Proofs.Exploration
import ReducerAtlas.Proofs.Failing
import ReducerAtlas.Proofs.Fences
import ReducerAtlas.Proofs.Finality
import ReducerAtlas.Proofs.GlobalImports
import ReducerAtlas.Proofs.Graph
import ReducerAtlas.Proofs.GrownDisk
import ReducerAtlas.Proofs.Growth
import ReducerAtlas.Proofs.Hidden
import ReducerAtlas.Proofs.Inserted
import ReducerAtlas.Proofs.Ledger
import ReducerAtlas.Proofs.Levels
import ReducerAtlas.Proofs.ListOptions
import ReducerAtlas.Proofs.Listing
import ReducerAtlas.Proofs.Loaders
import ReducerAtlas.Proofs.Lookup
import ReducerAtlas.Proofs.Nesting
import ReducerAtlas.Proofs.NodeBound
import ReducerAtlas.Proofs.Path
import ReducerAtlas.Proofs.Phase
import ReducerAtlas.Proofs.Places
import ReducerAtlas.Proofs.Reads
import ReducerAtlas.Proofs.Rearrangement
import ReducerAtlas.Proofs.References
import ReducerAtlas.Proofs.Refusal
import ReducerAtlas.Proofs.Registry
import ReducerAtlas.Proofs.Remarks
import ReducerAtlas.Proofs.Rerun
import ReducerAtlas.Proofs.Restriction
import ReducerAtlas.Proofs.Roster
import ReducerAtlas.Proofs.Sagas
import ReducerAtlas.Proofs.Scan
import ReducerAtlas.Proofs.Script
import ReducerAtlas.Proofs.Sorting
import ReducerAtlas.Proofs.Spellings
import ReducerAtlas.Proofs.Stages
import ReducerAtlas.Proofs.Statements
import ReducerAtlas.Proofs.Survey
import ReducerAtlas.Proofs.Tiling
import ReducerAtlas.Proofs.Tokens
import ReducerAtlas.Proofs.Unfit
import ReducerAtlas.Proofs.Unread
import ReducerAtlas.Proofs.Visit
import ReducerAtlas.Proofs.Walks
import ReducerAtlas.Proofs.Writing
import ReducerAtlas.Reducer.Basic
import ReducerAtlas.Reducer.Registry
import ReducerAtlas.Reducer.Roster
import ReducerAtlas.Source.Clause
import ReducerAtlas.Source.Lexeme
import ReducerAtlas.Source.Token
import ReducerAtlas.Text.Blank
import ReducerAtlas.Text.Case
import ReducerAtlas.Text.Digit
import ReducerAtlas.Text.Identifier
import ReducerAtlas.Text.Interval
import ReducerAtlas.Text.Letter
import ReducerAtlas.Text.Printable
import ReducerAtlas.Text.Quoted
import ReducerAtlas.Text.Split
import ReducerAtlas.Text.Utf8
import ReducerAtlas.Text.Word
import ReducerAtlas.Usage.Ledger
import ReducerAtlas.Usage.Node
import ReducerAtlas.Usage.Scan
import ReducerAtlas.Value
import ReducerAtlas.Yaml.Node
import ReducerAtlas.Yaml.Scalar
import ReducerAtlas.Yaml.Token
