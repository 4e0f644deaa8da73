import ProxySteward.CommandLine.Arguments
import ProxySteward.CommandLine.EnvFile
import ProxySteward.CommandLine.Run
import ProxySteward.Config.Connection
import ProxySteward.Config.Document
import ProxySteward.CrashWatch
import ProxySteward.Dashboard.Answer
import ProxySteward.Dashboard.Call
import ProxySteward.Dashboard.View
import ProxySteward.Host
import ProxySteward.Host.Fault
import ProxySteward.Host.FileTree
import ProxySteward.Host.Path
import ProxySteward.Host.Program
import ProxySteward.Host.SocketAddress
import ProxySteward.Http.Exchange
import ProxySteward.Http.MediaType
import ProxySteward.Http.Target
import ProxySteward.Json.Read
import ProxySteward.Json.Scan
import ProxySteward.Json.Value
import ProxySteward.Key.Edit
import ProxySteward.Key.Record
import ProxySteward.Key.Row
import ProxySteward.Key.Section
import ProxySteward.Key.Store
import ProxySteward.Log.Entry
import ProxySteward.Log.Follow
import ProxySteward.Log.Follower
import ProxySteward.Log.Window
import ProxySteward.Main
import ProxySteward.Mask
import ProxySteward.Number.Double
import ProxySteward.Proofs.Config.ConnectionFrame
import ProxySteward.Proofs.Config.DocumentFrame
import ProxySteward.Proofs.Config.Extraction
import ProxySteward.Proofs.Config.InlineComment
import ProxySteward.Proofs.Config.Precedence
import ProxySteward.Proofs.Config.ScannerLaws
import ProxySteward.Proofs.Dashboard.CallEffect
import ProxySteward.Proofs.Host.FileFrame
import ProxySteward.Proofs.Host.PathLaws
import ProxySteward.Proofs.Json.ReaderLaws
import ProxySteward.Proofs.Key.EditLaws
import ProxySteward.Proofs.Key.KeySurvival
import ProxySteward.Proofs.Key.MaskedRenaming
import ProxySteward.Proofs.Key.NoteLaws
import ProxySteward.Proofs.Key.PathIndependence
import ProxySteward.Proofs.Key.RewriteStability
import ProxySteward.Proofs.Key.RowRoundTrip
import ProxySteward.Proofs.Key.SectionCut
import ProxySteward.Proofs.Key.SectionEntry
import ProxySteward.Proofs.Key.SectionFrame
import ProxySteward.Proofs.Key.SectionLineEnds
import ProxySteward.Proofs.Key.StateEffect
import ProxySteward.Proofs.Key.StoreLaws
import ProxySteward.Proofs.Key.StoreRefinement
import ProxySteward.Proofs.Service.ExtendedRegex
import ProxySteward.Proofs.Service.StopPattern
import ProxySteward.Proofs.Supervisor.ActionReports
import ProxySteward.Proofs.Supervisor.AlikeSessions
import ProxySteward.Proofs.Supervisor.CrashAccount
import ProxySteward.Proofs.Supervisor.CrashHistory
import ProxySteward.Proofs.Supervisor.HostFrame
import ProxySteward.Proofs.Supervisor.KeyLedger
import ProxySteward.Proofs.Supervisor.MaskedRuns
import ProxySteward.Proofs.Supervisor.OpenSession
import ProxySteward.Proofs.Supervisor.PollEffect
import ProxySteward.Proofs.Supervisor.Session
import ProxySteward.Proofs.Supervisor.Shutdown
import ProxySteward.Proofs.Supervisor.SnapshotCoherence
import ProxySteward.Proofs.Supervisor.UsageHistory
import ProxySteward.Proofs.Text.Fragments
import ProxySteward.Proofs.Text.LineEnds
import ProxySteward.Proofs.Text.RowLaws
import ProxySteward.Proofs.Text.Trim
import ProxySteward.Proofs.Text.Utf8Canonical
import ProxySteward.Proofs.Text.Utf8RoundTrip
import ProxySteward.Proofs.Text.Words
import ProxySteward.Proofs.Url.FormRoundTrip
import ProxySteward.Proofs.Url.Origin
import ProxySteward.Proofs.Usage.CountSums
import ProxySteward.Proofs.Usage.Credentials
import ProxySteward.Proofs.Usage.FailureReport
import ProxySteward.Proofs.Usage.ModelMembers
import ProxySteward.Proofs.Usage.NamedCounts
import ProxySteward.Proofs.Usage.Ranking
import ProxySteward.Proofs.Usage.Reduction
import ProxySteward.Proofs.Usage.ReportForm
import ProxySteward.Proofs.Usage.ShownTotals
import ProxySteward.Rehearsal.Server
import ProxySteward.Service
import ProxySteward.Supervisor.Action
import ProxySteward.Supervisor.Command
import ProxySteward.Supervisor.Poll
import ProxySteward.Supervisor.Run
import ProxySteward.Supervisor.State
import ProxySteward.Text.Alphanumeric
import ProxySteward.Text.Base64
import ProxySteward.Text.Blank
import ProxySteward.Text.ByteLines
import ProxySteward.Text.CharTable
import ProxySteward.Text.Composed
import ProxySteward.Text.Decomposition
import ProxySteward.Text.Digits
import ProxySteward.Text.Direction
import ProxySteward.Text.Joining
import ProxySteward.Text.Mark
import ProxySteward.Text.Rows
import ProxySteward.Text.Search
import ProxySteward.Text.Utf8
import ProxySteward.Url.Address
import ProxySteward.Url.DomainName
import ProxySteward.Url.FileHost
import ProxySteward.Url.Host
import ProxySteward.Url.NameMapping
import ProxySteward.Url.Percent
import ProxySteward.Url.Punycode
import ProxySteward.Usage.Count
import ProxySteward.Usage.Decode
import ProxySteward.Usage.Display
import ProxySteward.Usage.Fetch
import ProxySteward.Usage.Request
import ProxySteward.Usage.Summary
import ProxySteward.Proofs.Supervisor.LogHistory
import ProxySteward.Proofs.Supervisor.PollTimer
import ProxySteward.Proofs.Config.LineEndReading
import ProxySteward.Proofs.Key.NoteNormalForm
