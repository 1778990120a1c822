import Emend.Unicode.Age
import Emend.Unicode.CaseFolding
import Emend.Unicode.Category
import Emend.Unicode.Classes
import Emend.Unicode.Property
import Emend.Unicode.Script
import Emend.Unicode.ScriptExtension
import Emend.Unicode.Segmentation
import Emend.Text.Decimal
import Emend.Text.Hexadecimal
import Emend.Text.Lines
import Emend.Text.Quoted
import Emend.Text.Trim
import Emend.Json.Basic
import Emend.Toml.Reader
import Emend.Pattern.Basic
import Emend.Rule.Basic
import Emend.Rule.Template
import Emend.Version.Project
import Emend.Version.Reader
import Emend.Tree.Basic
import Emend.Tree.Edit
import Emend.Tree.Path
import Emend.Tree.Resolve
import Emend.Tree.System
import Emend.Plan.Basic
import Emend.Plan.Load
import Emend.Suggestion.Basic
import Emend.Patch.Engine
import Emend.Patch.Run
import Emend.Patch.Workspace
import Emend.Diff.Between
import Emend.Diff.Compaction
import Emend.Diff.Lines
import Emend.Console.Log
import Emend.Console.Report
import Emend.Command.Arguments
import Emend.Command.Discover
import Emend.Command.Execute
import Emend.Command.Gate
import Emend.Main
import Emend.Proofs.Except
import Emend.Proofs.Text.Lines
import Emend.Proofs.Text.Order
import Emend.Proofs.Text.Trim
import Emend.Proofs.Tree.Shape
import Emend.Proofs.Tree.Edit
import Emend.Proofs.Tree.System
import Emend.Proofs.Tree.Canonical
import Emend.Proofs.Tree.Name
import Emend.Proofs.Tree.Parent
import Emend.Proofs.Tree.Listing
import Emend.Proofs.Suggestion.Closest
import Emend.Proofs.Diff.Script
import Emend.Proofs.Console.Preview
import Emend.Proofs.Patch.Step
import Emend.Proofs.Patch.Run
import Emend.Proofs.Patch.Depth
import Emend.Proofs.Patch.Rewriting
import Emend.Proofs.Patch.Frame
import Emend.Proofs.Patch.Containment
import Emend.Proofs.Patch.Validation
import Emend.Proofs.Patch.Diagnosis
import Emend.Proofs.Patch.Policy
import Emend.Proofs.Patch.Sequence
import Emend.Proofs.Patch.Independence
import Emend.Proofs.Patch.Preview
import Emend.Proofs.Patch.Clean
import Emend.Proofs.Patch.Spelling
import Emend.Proofs.Pattern.Layout
import Emend.Proofs.Pattern.Search
import Emend.Proofs.Pattern.Completeness
import Emend.Proofs.Pattern.Iteration
import Emend.Proofs.Pattern.Names
import Emend.Proofs.Pattern.Groups
import Emend.Proofs.Pattern.Literal
import Emend.Proofs.Rule.Built
import Emend.Proofs.Rule.Splice
import Emend.Proofs.Rule.Fold
import Emend.Proofs.Rule.Grammar
import Emend.Proofs.Rule.Escape
import Emend.Proofs.Rule.Parse
import Emend.Proofs.Rule.Render
import Emend.Proofs.Rule.Join
import Emend.Proofs.Rule.Reference
import Emend.Proofs.Rule.GroupNames
import Emend.Proofs.Rule.Literal
import Emend.Proofs.Plan.Definition
import Emend.Proofs.Plan.Load
import Emend.Proofs.Plan.Fault
import Emend.Proofs.Plan.File
import Emend.Proofs.Version.Project
import Emend.Proofs.Version.Reading
import Emend.Proofs.Version.Bound
import Emend.Proofs.Command.Gate
import Emend.Proofs.Command.Prepare
import Emend.Proofs.Command.Apply
import Emend.Proofs.Command.Untouched
import Emend.Proofs.Command.Check
import Emend.Proofs.Command.Totals
import Emend.Proofs.Command.Discover
