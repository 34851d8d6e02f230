import Cutover.Audit.Event
import Cutover.Audit.Trail
import Cutover.Client.Basic
import Cutover.Client.InPlace
import Cutover.CommandLine.Invocation
import Cutover.CommandLine.Launch
import Cutover.CommandLine.Markup
import Cutover.CommandLine.Report
import Cutover.CommandLine.Screen
import Cutover.CommandLine.Session
import Cutover.CommandLine.Usage
import Cutover.ControlPlane.Basic
import Cutover.ControlPlane.Command
import Cutover.ControlPlane.Journal
import Cutover.EngineName.Basic
import Cutover.EngineName.Catalogue
import Cutover.Failure
import Cutover.Json.Basic
import Cutover.Json.Display
import Cutover.Json.Printer
import Cutover.Json.Reader
import Cutover.Lifecycle.Form
import Cutover.Lifecycle.Rule
import Cutover.Lifecycle.Snapshot
import Cutover.Lifecycle.State
import Cutover.Log.Entry
import Cutover.Log.Level
import Cutover.Log.Message
import Cutover.Log.Setup
import Cutover.Log.Template
import Cutover.Main
import Cutover.Namespace.Filter
import Cutover.Namespace.Listing
import Cutover.Namespace.Pattern
import Cutover.Number.Binary64
import Cutover.Number.Decimal
import Cutover.Number.Reader
import Cutover.Number.Shortest
import Cutover.Protocol.Request
import Cutover.Protocol.Response
import Cutover.Rehearsal.Basic
import Cutover.Rehearsal.Engine
import Cutover.Service.Basic
import Cutover.Service.Request
import Cutover.Settings.Basic
import Cutover.Settings.File
import Cutover.Settings.Loading
import Cutover.Settings.Path
import Cutover.Text.Blank
import Cutover.Text.Digit
import Cutover.Text.Letter
import Cutover.Text.Numeral
import Cutover.Text.Printable
import Cutover.Text.Quoted
import Cutover.Text.Split
import Cutover.Text.Utf8
import Cutover.Text.Width
import Cutover.Time.Calendar
import Cutover.Time.Reader
import Cutover.Time.Timestamp
import Cutover.Validation.Basic
import Cutover.Validation.Forms
import Cutover.Yaml.Cursor
import Cutover.Yaml.Layout
import Cutover.Yaml.Node
import Cutover.Yaml.Scalar
import Cutover.Yaml.Text
import Cutover.Yaml.Token
import Cutover.Yaml.Value
import Cutover.Proofs.Journal
import Cutover.Proofs.CallLife
import Cutover.Proofs.Rule
import Cutover.Proofs.SignalOrder
import Cutover.Proofs.Linearization
import Cutover.Proofs.QueueProgress
import Cutover.Proofs.CutoverAttempt
import Cutover.Proofs.HistoryPath
import Cutover.Proofs.CompletedCutover
import Cutover.Proofs.SupersededFinalize
import Cutover.Proofs.LostHistoryOverride
import Cutover.Proofs.EngineAgreement
import Cutover.Proofs.LateHistoryLoss
import Cutover.Proofs.AuditTrail
import Cutover.Proofs.ScopeText
import Cutover.Proofs.HistoryJournal
import Cutover.Proofs.LastingFacts
import Cutover.Proofs.TruthfulStatus
import Cutover.Proofs.FinalizeOutcome
import Cutover.Proofs.RejectedCalls
import Cutover.Proofs.PatternGrammar
import Cutover.Proofs.FilterBuilding
import Cutover.Proofs.ScopeDecision
import Cutover.Proofs.ScopeOptions
import Cutover.Proofs.AwaitedCall
import Cutover.Proofs.FailedSignals
import Cutover.Proofs.ServiceRules
import Cutover.Proofs.JsonText
import Cutover.Proofs.NumeralText
import Cutover.Proofs.TimestampText
import Cutover.Proofs.WireForm
import Cutover.Proofs.LoneCall
import Cutover.Proofs.LossReports
import Cutover.Proofs.FinalizeRetry
import Cutover.Proofs.EscapedMarkup
import Cutover.Proofs.SettingsFaults
import Cutover.Proofs.SettingsPrecedence
import Cutover.Proofs.EnginePath
import Cutover.Proofs.ExitStatus
import Cutover.Proofs.LogLine
import Cutover.Proofs.AuditFiles
import Cutover.Proofs.ItemGrouping
import Cutover.Proofs.MessageFacts
