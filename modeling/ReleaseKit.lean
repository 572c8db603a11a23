import ReleaseKit.Action
import ReleaseKit.Arguments
import ReleaseKit.CommandLine
import ReleaseKit.Config
import ReleaseKit.Duration
import ReleaseKit.Environment
import ReleaseKit.Error
import ReleaseKit.Execution
import ReleaseKit.Fault
import ReleaseKit.FileTree.Basic
import ReleaseKit.FileTree.Contents
import ReleaseKit.FileTree.Listing
import ReleaseKit.FileTree.Operations
import ReleaseKit.FileTree.Resolve
import ReleaseKit.FileTree.Unzip
import ReleaseKit.FileTree.Zip
import ReleaseKit.Host
import ReleaseKit.Installation
import ReleaseKit.Json
import ReleaseKit.Json.Number
import ReleaseKit.Json.Reader
import ReleaseKit.LocalPath
import ReleaseKit.Machine.Disk
import ReleaseKit.Machine.Disk.Change
import ReleaseKit.Machine.Disk.Snapshot
import ReleaseKit.Machine.Loading
import ReleaseKit.Machine.Mode
import ReleaseKit.Machine.Signal
import ReleaseKit.Machine.Utility
import ReleaseKit.Machine.World
import ReleaseKit.Main
import ReleaseKit.Manifest
import ReleaseKit.Manifest.File
import ReleaseKit.Manifest.Reader
import ReleaseKit.Number.Binary64
import ReleaseKit.Number.Decimal
import ReleaseKit.Number.Notation
import ReleaseKit.Plan
import ReleaseKit.Program
import ReleaseKit.Proofs.Confinement
import ReleaseKit.Proofs.Echo
import ReleaseKit.Proofs.FirstFailure
import ReleaseKit.Proofs.Footprint
import ReleaseKit.Proofs.Layout
import ReleaseKit.Proofs.Location
import ReleaseKit.Proofs.Making
import ReleaseKit.Proofs.Path
import ReleaseKit.Proofs.Pointer
import ReleaseKit.Proofs.Regeneration
import ReleaseKit.Proofs.Release
import ReleaseKit.Proofs.RoundTrip
import ReleaseKit.Proofs.Run
import ReleaseKit.Proofs.Staging
import ReleaseKit.Proofs.Success
import ReleaseKit.Proofs.Words
import ReleaseKit.Report
import ReleaseKit.Runner
import ReleaseKit.Session
import ReleaseKit.Settings
import ReleaseKit.Shell.Arithmetic
import ReleaseKit.Shell.Braces
import ReleaseKit.Shell.Builtin
import ReleaseKit.Shell.Control
import ReleaseKit.Shell.Evaluation
import ReleaseKit.Shell.Expansion
import ReleaseKit.Shell.Pattern
import ReleaseKit.Shell.Process
import ReleaseKit.Shell.Reader
import ReleaseKit.Shell.Redirection
import ReleaseKit.Shell.Script
import ReleaseKit.Shell.Setting
import ReleaseKit.Shell.Source
import ReleaseKit.Shell.Start
import ReleaseKit.Shell.State
import ReleaseKit.Shell.Word
import ReleaseKit.Summary
import ReleaseKit.Target
import ReleaseKit.Text.Blank
import ReleaseKit.Text.Expression
import ReleaseKit.Text.Printable
import ReleaseKit.Text.Quoted
import ReleaseKit.Text.Raw
import ReleaseKit.Text.Search
import ReleaseKit.Text.Terminal
import ReleaseKit.Text.Utf8
import ReleaseKit.Toolchain
import ReleaseKit.Utility.Basic
import ReleaseKit.Utility.Calculation
import ReleaseKit.Utility.Columns
import ReleaseKit.Utility.Comparing
import ReleaseKit.Utility.Condition
import ReleaseKit.Utility.Copying
import ReleaseKit.Utility.Digest
import ReleaseKit.Utility.Edit
import ReleaseKit.Utility.Edit.Script
import ReleaseKit.Utility.Files
import ReleaseKit.Utility.Finding
import ReleaseKit.Utility.Lines
import ReleaseKit.Utility.Listing
import ReleaseKit.Utility.Matching
import ReleaseKit.Utility.Order
import ReleaseKit.Utility.Printf
import ReleaseKit.Utility.Records
import ReleaseKit.Utility.Records.Reader
import ReleaseKit.Utility.Records.Script
import ReleaseKit.Utility.Times
import ReleaseKit.Version
import ReleaseKit.Proofs.Interruption
import ReleaseKit.Proofs.Acceptance
import ReleaseKit.Proofs.DryRun
import ReleaseKit.Proofs.Leading
import ReleaseKit.Proofs.Repeating
import ReleaseKit.Proofs.Retrying
import ReleaseKit.Proofs.PublicRead
import ReleaseKit.Proofs.Clashes
import ReleaseKit.Proofs.Versions
import ReleaseKit.Proofs.Matrix
import ReleaseKit.Proofs.ExitStatus
import ReleaseKit.Proofs.Stepwise
import ReleaseKit.Proofs.Supply
import ReleaseKit.Proofs.Component
import ReleaseKit.Proofs.Transfers
import ReleaseKit.Proofs.Selection
import ReleaseKit.Proofs.Packing
import ReleaseKit.Proofs.TargetTexts
import ReleaseKit.Proofs.Commands
import ReleaseKit.Proofs.Dispatch
import ReleaseKit.Proofs.Documents
import ReleaseKit.Proofs.Formats
import ReleaseKit.Proofs.FileActions
import ReleaseKit.Proofs.Machine
