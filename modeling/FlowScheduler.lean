import FlowScheduler.AgentApi.Codec
import FlowScheduler.AgentApi.HttpClient
import FlowScheduler.AgentApi.HttpStatus
import FlowScheduler.AgentApi.Protocol
import FlowScheduler.Application
import FlowScheduler.Argument.DateTag
import FlowScheduler.Argument.NamedTag
import FlowScheduler.Calendar.Date
import FlowScheduler.Calendar.Instant
import FlowScheduler.Calendar.TimeOfDay
import FlowScheduler.Calendar.Timestamp
import FlowScheduler.CommandLine
import FlowScheduler.Config.Codec
import FlowScheduler.Config.Layered
import FlowScheduler.Config.Logging
import FlowScheduler.Config.Settings
import FlowScheduler.Dispatch.Cache
import FlowScheduler.Dispatch.Codec
import FlowScheduler.Dispatch.Lookahead
import FlowScheduler.Dispatch.Planner
import FlowScheduler.Dispatch.Preparation
import FlowScheduler.Document.Decode
import FlowScheduler.Document.Json
import FlowScheduler.Document.Toml.Printer
import FlowScheduler.Document.Toml.Reader
import FlowScheduler.Document.Toml.Scalar
import FlowScheduler.Document.Toml.Table
import FlowScheduler.Document.Toml.Text
import FlowScheduler.Document.Value
import FlowScheduler.Entity.Basic
import FlowScheduler.Entity.ById
import FlowScheduler.Entity.Codec
import FlowScheduler.Entity.Entries
import FlowScheduler.Entity.NamedArgs
import FlowScheduler.Error
import FlowScheduler.Error.Codec
import FlowScheduler.Execution.Flow
import FlowScheduler.Files
import FlowScheduler.Fixture.Codec
import FlowScheduler.Fixture.Samples
import FlowScheduler.Fixture.StubAgent
import FlowScheduler.Fixture.Waiting
import FlowScheduler.Main
import FlowScheduler.Recurrence.Mask
import FlowScheduler.Recurrence.MonthDays
import FlowScheduler.Recurrence.NextLaunch
import FlowScheduler.Recurrence.Rule
import FlowScheduler.Recurrence.Schedule
import FlowScheduler.Recurrence.Times
import FlowScheduler.Recurrence.Window
import FlowScheduler.Repository.Codec
import FlowScheduler.Repository.Definitions
import FlowScheduler.Repository.DefinitionsFile
import FlowScheduler.Repository.InMemory
import FlowScheduler.Repository.Source
import FlowScheduler.Run.Codec
import FlowScheduler.Run.Prepared
import FlowScheduler.Run.View
import FlowScheduler.Shutdown
import FlowScheduler.Simulation.Codec
import FlowScheduler.Simulation.ScriptedAgent
import FlowScheduler.Simulation.System
import FlowScheduler.Simulation.Worker
import FlowScheduler.Text.Blank
import FlowScheduler.Text.CaseTable
import FlowScheduler.Text.Decimal
import FlowScheduler.Text.LetterCase
import FlowScheduler.Text.Number
import FlowScheduler.Text.Pieces
import FlowScheduler.Word
import FlowScheduler.Worker.Codec
import FlowScheduler.Worker.QueueState
import FlowScheduler.Worker.Service
import FlowScheduler.Zone.Basic
import FlowScheduler.Zone.Database
import FlowScheduler.Zone.Table.Africa
import FlowScheduler.Zone.Table.Alias
import FlowScheduler.Zone.Table.AmericaAToI
import FlowScheduler.Zone.Table.AmericaJToZ
import FlowScheduler.Zone.Table.Asia
import FlowScheduler.Zone.Table.Etc
import FlowScheduler.Zone.Table.Europe
import FlowScheduler.Zone.Table.Oceans
import FlowScheduler.Zone.Table.Pacific
import FlowScheduler.Proofs.Calendar
import FlowScheduler.Proofs.Recurrence.Scan
import FlowScheduler.Proofs.Recurrence.ConstantOffset
import FlowScheduler.Proofs.Zone
import FlowScheduler.Proofs.Recurrence.Earliest
import FlowScheduler.Proofs.Dispatch.Launches
import FlowScheduler.Proofs.Dispatch.Punctuality
import FlowScheduler.Proofs.Dispatch.Refresh
import FlowScheduler.Proofs.Dispatch.Once
import FlowScheduler.Proofs.Worker.RunList
import FlowScheduler.Proofs.Worker.Correspondence
import FlowScheduler.Proofs.Worker.Operations
import FlowScheduler.Proofs.Worker.Capacity
import FlowScheduler.Proofs.Worker.Identity
import FlowScheduler.Proofs.Dispatch.QueueSync
import FlowScheduler.Proofs.Dispatch.Window
import FlowScheduler.Proofs.Dispatch.Preparation
import FlowScheduler.Proofs.Execution.StepGraph
import FlowScheduler.Proofs.Recurrence.Windows
import FlowScheduler.Proofs.Text.LetterCase
import FlowScheduler.Proofs.Text.Entries
import FlowScheduler.Proofs.Text.Number
import FlowScheduler.Proofs.Recurrence.Spelling
import FlowScheduler.Proofs.Recurrence.MonthDays
import FlowScheduler.Proofs.Recurrence.NormalForm
import FlowScheduler.Proofs.Argument.IdentityKey
import FlowScheduler.Proofs.Worker.Duplicates
import FlowScheduler.Proofs.Recurrence.LaunchDates
import FlowScheduler.Proofs.Worker.QueueBinding
import FlowScheduler.Proofs.Dispatch.Image
import FlowScheduler.Proofs.Worker.Counters
import FlowScheduler.Proofs.Worker.LaunchOrder
import FlowScheduler.Proofs.Repository.Served
import FlowScheduler.Proofs.Worker.LastRun
import FlowScheduler.Proofs.Worker.Fate
import FlowScheduler.Proofs.Dispatch.Drain
import FlowScheduler.Proofs.Worker.Admission
import FlowScheduler.Proofs.Execution.Visits
import FlowScheduler.Proofs.Execution.Halting
import FlowScheduler.Proofs.Execution.Linear
import FlowScheduler.Proofs.Recurrence.MonthDayMeaning
import FlowScheduler.Proofs.Execution.Forward
import FlowScheduler.Proofs.Worker.Detachment
import FlowScheduler.Proofs.Text.Marks
import FlowScheduler.Proofs.Argument.DateTags
import FlowScheduler.Proofs.Argument.Tokens
import FlowScheduler.Proofs.Argument.FullDate
import FlowScheduler.Proofs.Dispatch.LaunchSet
import FlowScheduler.Proofs.Argument.Insertion
import FlowScheduler.Proofs.Dispatch.Beat
import FlowScheduler.Proofs.AgentApi.Retry
import FlowScheduler.Proofs.Dispatch.Upcoming
import FlowScheduler.Proofs.Calendar.Timestamp
import FlowScheduler.Proofs.Entity.Documents
import FlowScheduler.Proofs.Recurrence.IntervalTimes
