import LintRoster.Main
import LintRoster.Runner.Script
import LintRoster.Proofs.FileTree
import LintRoster.Proofs.FileSystem.Resolution
import LintRoster.Proofs.FileSystem.Listing
import LintRoster.Proofs.FileSystem.Walk
import LintRoster.Proofs.FileSystem.Growth
import LintRoster.Proofs.Path.Place
import LintRoster.Proofs.Path.Steps
import LintRoster.Proofs.Text.Words
import LintRoster.Proofs.Text.Trim
import LintRoster.Proofs.Text.ByteOrder
import LintRoster.Proofs.Yaml.Tags
import LintRoster.Proofs.Roster.Override
import LintRoster.Proofs.Roster.Declaration
import LintRoster.Proofs.NameSet
import LintRoster.Proofs.Packages
import LintRoster.Proofs.Contract.Rules
import LintRoster.Proofs.Contract.Course
import LintRoster.Proofs.Contract.Dependence
import LintRoster.Proofs.Contract.Message
import LintRoster.Proofs.Smoke.Course
import LintRoster.Proofs.Smoke.Verdict
import LintRoster.Proofs.Smoke.Mode
import LintRoster.Proofs.Smoke.Export
import LintRoster.Proofs.Smoke.Effects
import LintRoster.Proofs.Roster.Lookup
import LintRoster.Proofs.Roster.Redeclaration
import LintRoster.Proofs.Settings.Rules
import LintRoster.Proofs.Settings.Partial
import LintRoster.Proofs.Program.Gate
import LintRoster.Proofs.Program.Sequence
import LintRoster.Proofs.FileTree.Frame
import LintRoster.Proofs.FileSystem.Child
import LintRoster.Proofs.Smoke.Step
import LintRoster.Proofs.Smoke.Isolation
import LintRoster.Proofs.Program.WorkflowFile
import LintRoster.Proofs.Emulator.Arguments
import LintRoster.Proofs.Roster.Layout
import LintRoster.Proofs.FileSystem.Proper
import LintRoster.Proofs.FileSystem.Order
import LintRoster.Proofs.Contract.Policy
import LintRoster.Proofs.Packages.Document
import LintRoster.Proofs.Settings.Report
import LintRoster.Proofs.Smoke.Log
import LintRoster.Proofs.Findings.Origin
