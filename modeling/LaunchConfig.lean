import LaunchConfig.Binary64
import LaunchConfig.CommandLine.Argument
import LaunchConfig.CommandLine.Execution
import LaunchConfig.CommandLine.Help
import LaunchConfig.CommandLine.Invocation
import LaunchConfig.CommandLine.Report
import LaunchConfig.CommandLine.Supplied
import LaunchConfig.CpuSet
import LaunchConfig.Declaration.Basic
import LaunchConfig.Declaration.Manifest
import LaunchConfig.Declaration.Operation
import LaunchConfig.Declaration.Overlay
import LaunchConfig.Declaration.Overrides
import LaunchConfig.Derivation
import LaunchConfig.Duration
import LaunchConfig.Duration.Json
import LaunchConfig.Error
import LaunchConfig.Json.Basic
import LaunchConfig.Json.Printer
import LaunchConfig.Json.Reader
import LaunchConfig.KeyMap
import LaunchConfig.Log.Directive
import LaunchConfig.Log.Event
import LaunchConfig.Log.Filter
import LaunchConfig.Log.Format
import LaunchConfig.Log.Journal
import LaunchConfig.Log.Pattern
import LaunchConfig.Log.Threshold
import LaunchConfig.Main
import LaunchConfig.Path
import LaunchConfig.Profile
import LaunchConfig.Proofs.KeyMap
import LaunchConfig.Proofs.Schema
import LaunchConfig.Proofs.Steps
import LaunchConfig.Reader
import LaunchConfig.Schema.Key
import LaunchConfig.Schema.Raw
import LaunchConfig.Schema.Table
import LaunchConfig.Section.Build
import LaunchConfig.Section.Cluster
import LaunchConfig.Section.Controller
import LaunchConfig.Section.Deployment
import LaunchConfig.Section.LogFiles
import LaunchConfig.Section.PartitionGrid
import LaunchConfig.Section.Simulation
import LaunchConfig.Store.Basic
import LaunchConfig.Store.Blueprint
import LaunchConfig.Store.Export
import LaunchConfig.Text.Blank
import LaunchConfig.Text.Hex
import LaunchConfig.Text.Letter
import LaunchConfig.Text.Numeral
import LaunchConfig.Text.Quoted
import LaunchConfig.Text.Visible
import LaunchConfig.Toml.Assembly
import LaunchConfig.Toml.Basic
import LaunchConfig.Toml.Moment
import LaunchConfig.Toml.Printer
import LaunchConfig.Toml.Quoted
import LaunchConfig.Toml.Reader
import LaunchConfig.Toml.Scalar
import LaunchConfig.Validation
import LaunchConfig.Value
import LaunchConfig.Proofs.Blueprint
import LaunchConfig.Proofs.BuildOutcome
import LaunchConfig.Proofs.Store
import LaunchConfig.Proofs.Coherence
import LaunchConfig.Proofs.TomlQuoted
import LaunchConfig.Proofs.TomlValue
import LaunchConfig.Proofs.TomlDocument
import LaunchConfig.Proofs.Export
import LaunchConfig.Proofs.Reload
import LaunchConfig.Proofs.RawText
import LaunchConfig.Proofs.Dump
import LaunchConfig.Proofs.Names
import LaunchConfig.Proofs.Validation
import LaunchConfig.Proofs.Reading
import LaunchConfig.Proofs.Sections
import LaunchConfig.Proofs.SectionOutcome
import LaunchConfig.Proofs.SectionValues
import LaunchConfig.Proofs.Launchable
import LaunchConfig.Proofs.ExportLaw
import LaunchConfig.Proofs.SectionJson
import LaunchConfig.Proofs.CpuOrder
import LaunchConfig.Proofs.CpuList
import LaunchConfig.Proofs.CpuSet
import LaunchConfig.Proofs.Conforming
import LaunchConfig.Proofs.OverlayFrame
import LaunchConfig.Proofs.Overrides
import LaunchConfig.Proofs.Instances
import LaunchConfig.Proofs.JsonText
import LaunchConfig.Proofs.ClusterJson
import LaunchConfig.Proofs.JsonExport
import LaunchConfig.Proofs.RawOutcome
import LaunchConfig.Proofs.PartitionTotal
import LaunchConfig.Proofs.Resolution
import LaunchConfig.Proofs.OverlayOutcome
import LaunchConfig.Proofs.OverrideOrder
import LaunchConfig.Proofs.AxisOrder
import LaunchConfig.Proofs.Zones
import LaunchConfig.Proofs.Paths
import LaunchConfig.Proofs.RegionProfiles
import LaunchConfig.Proofs.CollectedLogs
import LaunchConfig.Proofs.RegionNames
import LaunchConfig.Proofs.LastSelection
import LaunchConfig.Proofs.LaunchableStacks
import LaunchConfig.Proofs.ValidateCommand
import LaunchConfig.Proofs.Operations
