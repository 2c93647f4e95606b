import AppScaffold.Command.Arguments
import AppScaffold.Command.Failure
import AppScaffold.Command.Run
import AppScaffold.Command.Session
import AppScaffold.Disk.Basic
import AppScaffold.Disk.Error
import AppScaffold.Disk.Node
import AppScaffold.Disk.Path
import AppScaffold.Json.Error
import AppScaffold.Json.Reader
import AppScaffold.Json.Scan
import AppScaffold.Json.Skip
import AppScaffold.Json.Value
import AppScaffold.Json.Writer
import AppScaffold.Log.Entry
import AppScaffold.Log.Filter
import AppScaffold.Log.Line
import AppScaffold.Main
import AppScaffold.Markup.Element
import AppScaffold.Markup.Literal
import AppScaffold.Model.Completion
import AppScaffold.Model.Config
import AppScaffold.Model.Producer
import AppScaffold.Model.Prompt
import AppScaffold.Numeral.Binary
import AppScaffold.Numeral.Shortest
import AppScaffold.Project.AppRoot
import AppScaffold.Project.Card
import AppScaffold.Project.Files
import AppScaffold.Project.Generate
import AppScaffold.Project.Manifest
import AppScaffold.Proofs.Command.Containment
import AppScaffold.Proofs.Command.Execution
import AppScaffold.Proofs.Command.Filling
import AppScaffold.Proofs.Command.Gates
import AppScaffold.Proofs.Command.Storing
import AppScaffold.Proofs.Command.Writing
import AppScaffold.Proofs.Disk.Changes
import AppScaffold.Proofs.Disk.Directories
import AppScaffold.Proofs.Disk.Filling
import AppScaffold.Proofs.Disk.Making
import AppScaffold.Proofs.Disk.Path
import AppScaffold.Proofs.Disk.Storing
import AppScaffold.Proofs.Except
import AppScaffold.Proofs.Json.Compact
import AppScaffold.Proofs.Json.Locality
import AppScaffold.Proofs.Json.Loops
import AppScaffold.Proofs.Json.Skipping
import AppScaffold.Proofs.Json.Written
import AppScaffold.Proofs.Markup.Indentation
import AppScaffold.Proofs.Markup.Literal
import AppScaffold.Proofs.Markup.Mentions
import AppScaffold.Proofs.Markup.Nesting
import AppScaffold.Proofs.Markup.Places
import AppScaffold.Proofs.Markup.Reading
import AppScaffold.Proofs.Markup.Signs
import AppScaffold.Proofs.Model.Calls
import AppScaffold.Proofs.Model.Decoding
import AppScaffold.Proofs.Model.Iteration
import AppScaffold.Proofs.Project.Dependencies
import AppScaffold.Proofs.Project.Erasure
import AppScaffold.Proofs.Project.Files
import AppScaffold.Proofs.Project.Manifest
import AppScaffold.Proofs.Project.Paths
import AppScaffold.Proofs.Project.Places
import AppScaffold.Proofs.Project.References
import AppScaffold.Proofs.Project.Root
import AppScaffold.Proofs.Project.Shape
import AppScaffold.Proofs.Project.Warnings
import AppScaffold.Proofs.Schema.Acceptance
import AppScaffold.Proofs.Schema.Agreement
import AppScaffold.Proofs.Schema.Written
import AppScaffold.Proofs.Screen.Attributes
import AppScaffold.Proofs.Screen.Blocks
import AppScaffold.Proofs.Screen.Calls
import AppScaffold.Proofs.Screen.Declarations
import AppScaffold.Proofs.Screen.Frame
import AppScaffold.Proofs.Screen.Hooks
import AppScaffold.Proofs.Screen.Imports
import AppScaffold.Proofs.Screen.Indentation
import AppScaffold.Proofs.Screen.Literals
import AppScaffold.Proofs.Screen.Names
import AppScaffold.Proofs.Screen.Nesting
import AppScaffold.Proofs.Screen.Openings
import AppScaffold.Proofs.Screen.Placement
import AppScaffold.Proofs.Spec.Grammar
import AppScaffold.Proofs.Spec.Listing
import AppScaffold.Proofs.Spec.Nodes
import AppScaffold.Proofs.Spec.Report
import AppScaffold.Proofs.Spec.Respelling
import AppScaffold.Proofs.Spec.RoundTrip
import AppScaffold.Proofs.Spec.Strings
import AppScaffold.Proofs.Spec.Validity
import AppScaffold.Proofs.Spec.Walk
import AppScaffold.Proofs.Store.Assignments
import AppScaffold.Proofs.Store.Consistency
import AppScaffold.Proofs.Store.Failures
import AppScaffold.Proofs.Store.Isolation
import AppScaffold.Proofs.Store.Numbers
import AppScaffold.Proofs.Store.Recency
import AppScaffold.Proofs.Store.Step
import AppScaffold.Proofs.Store.Versions
import AppScaffold.Proofs.Text.Case
import AppScaffold.Proofs.Text.Indentation
import AppScaffold.Proofs.Text.Lines
import AppScaffold.Proofs.Text.Lower
import AppScaffold.Proofs.Text.Marks
import AppScaffold.Proofs.Text.Names
import AppScaffold.Proofs.Text.Places
import AppScaffold.Proofs.Text.Words
import AppScaffold.Schema.Check
import AppScaffold.Schema.Kind
import AppScaffold.Schema.Reader
import AppScaffold.Screen.Element
import AppScaffold.Screen.Imports
import AppScaffold.Screen.Module
import AppScaffold.Screen.Stylesheet
import AppScaffold.Spec.Component
import AppScaffold.Spec.Decode
import AppScaffold.Spec.Encode
import AppScaffold.Spec.NameSet
import AppScaffold.Spec.Specification
import AppScaffold.Spec.Validation
import AppScaffold.Spec.Walk
import AppScaffold.Store.Basic
import AppScaffold.Store.Call
import AppScaffold.Store.Record
import AppScaffold.Store.Table
import AppScaffold.Text.Blank
import AppScaffold.Text.Case
import AppScaffold.Text.CaseTable
import AppScaffold.Text.Grapheme
import AppScaffold.Text.GraphemeTable
import AppScaffold.Text.Lines
import AppScaffold.Text.PrintTable
import AppScaffold.Text.Quoted
import AppScaffold.Text.Range
import AppScaffold.Text.Title
