import ModuleKeeper.Calendar
import ModuleKeeper.CommandLine.Arguments
import ModuleKeeper.CommandLine.Order
import ModuleKeeper.CommandLine.Session
import ModuleKeeper.Decimal.Double
import ModuleKeeper.Decimal.Places
import ModuleKeeper.Decimal.Reading
import ModuleKeeper.Decimal.Shortest
import ModuleKeeper.Fault
import ModuleKeeper.Gateway
import ModuleKeeper.Gateway.Wire
import ModuleKeeper.Install
import ModuleKeeper.Install.Closure
import ModuleKeeper.Install.Cycle
import ModuleKeeper.Install.Marking
import ModuleKeeper.Install.Plan
import ModuleKeeper.Json.Reader
import ModuleKeeper.Json.Writer
import ModuleKeeper.Keeper
import ModuleKeeper.Log.Clock
import ModuleKeeper.Log.Described
import ModuleKeeper.Log.Format
import ModuleKeeper.Log.Level
import ModuleKeeper.Log.Number
import ModuleKeeper.Log.Record
import ModuleKeeper.Log.Setup
import ModuleKeeper.Log.Template
import ModuleKeeper.Main
import ModuleKeeper.Module
import ModuleKeeper.Naming
import ModuleKeeper.Notice
import ModuleKeeper.Prompter
import ModuleKeeper.Proofs.Assembling
import ModuleKeeper.Proofs.CallEndings
import ModuleKeeper.Proofs.Changes
import ModuleKeeper.Proofs.Choosing
import ModuleKeeper.Proofs.ClosedDatabases
import ModuleKeeper.Proofs.Closure
import ModuleKeeper.Proofs.Commands
import ModuleKeeper.Proofs.Courses
import ModuleKeeper.Proofs.Cycle
import ModuleKeeper.Proofs.DatabaseListings
import ModuleKeeper.Proofs.DayNumbers
import ModuleKeeper.Proofs.Dependency
import ModuleKeeper.Proofs.Endings
import ModuleKeeper.Proofs.Exchanges
import ModuleKeeper.Proofs.Exhaustion
import ModuleKeeper.Proofs.Firsts
import ModuleKeeper.Proofs.JoinedAddresses
import ModuleKeeper.Proofs.Json
import ModuleKeeper.Proofs.JsonData
import ModuleKeeper.Proofs.Lexing
import ModuleKeeper.Proofs.Listings
import ModuleKeeper.Proofs.LogLines
import ModuleKeeper.Proofs.Merging
import ModuleKeeper.Proofs.NodeTroubles
import ModuleKeeper.Proofs.Numerals
import ModuleKeeper.Proofs.Parsing
import ModuleKeeper.Proofs.PlanRulings
import ModuleKeeper.Proofs.Planning
import ModuleKeeper.Proofs.Positions
import ModuleKeeper.Proofs.RecordedDependencies
import ModuleKeeper.Proofs.Refusals
import ModuleKeeper.Proofs.RemovalRulings
import ModuleKeeper.Proofs.Removing
import ModuleKeeper.Proofs.Reordering
import ModuleKeeper.Proofs.Requests
import ModuleKeeper.Proofs.Rosters
import ModuleKeeper.Proofs.Rounds
import ModuleKeeper.Proofs.Running
import ModuleKeeper.Proofs.ScalarMishaps
import ModuleKeeper.Proofs.Scanning
import ModuleKeeper.Proofs.Screening
import ModuleKeeper.Proofs.SelectionFaults
import ModuleKeeper.Proofs.SelectionGrammar
import ModuleKeeper.Proofs.ServerSpecified
import ModuleKeeper.Proofs.Service
import ModuleKeeper.Proofs.SettingsChecks
import ModuleKeeper.Proofs.SettingsHistory
import ModuleKeeper.Proofs.SettingsLayers
import ModuleKeeper.Proofs.Sittings
import ModuleKeeper.Proofs.SplitInstall
import ModuleKeeper.Proofs.SpokenText
import ModuleKeeper.Proofs.TableRows
import ModuleKeeper.Proofs.Tokens
import ModuleKeeper.Proofs.Turns
import ModuleKeeper.Proofs.Undoing
import ModuleKeeper.Proofs.UnreadableFiles
import ModuleKeeper.Proofs.Utf8
import ModuleKeeper.Proofs.Visits
import ModuleKeeper.Proofs.WireTransparency
import ModuleKeeper.Proofs.WrittenMoments
import ModuleKeeper.Registry
import ModuleKeeper.Removal
import ModuleKeeper.Roster
import ModuleKeeper.Scene
import ModuleKeeper.Selection
import ModuleKeeper.Server
import ModuleKeeper.Settings
import ModuleKeeper.Settings.File
import ModuleKeeper.Settings.Path
import ModuleKeeper.Settings.Store
import ModuleKeeper.Table
import ModuleKeeper.Task
import ModuleKeeper.Terminal
import ModuleKeeper.Terminal.Menu
import ModuleKeeper.Text
import ModuleKeeper.Text.Blank
import ModuleKeeper.Text.CodePoint
import ModuleKeeper.Text.Column
import ModuleKeeper.Text.Digit
import ModuleKeeper.Text.Line
import ModuleKeeper.Text.Printable
import ModuleKeeper.Text.Quoted
import ModuleKeeper.Text.Sequence
import ModuleKeeper.Text.Surrogate
import ModuleKeeper.Text.Utf8
import ModuleKeeper.Toolbox
import ModuleKeeper.Url
import ModuleKeeper.Url.Host
import ModuleKeeper.Url.Lookalike
import ModuleKeeper.Value
import ModuleKeeper.Value.Slots
import ModuleKeeper.Yaml.Assembly
import ModuleKeeper.Yaml.Bytes
import ModuleKeeper.Yaml.Cursor
import ModuleKeeper.Yaml.Document
import ModuleKeeper.Yaml.Merge
import ModuleKeeper.Yaml.Node
import ModuleKeeper.Yaml.Scalar
import ModuleKeeper.Yaml.Source
import ModuleKeeper.Yaml.Stamp
import ModuleKeeper.Yaml.Token
import ModuleKeeper.Yaml.Token.Block
import ModuleKeeper.Yaml.Token.Lexer
import ModuleKeeper.Yaml.Token.Mark
import ModuleKeeper.Yaml.Token.Plain
import ModuleKeeper.Yaml.Token.Quoted
