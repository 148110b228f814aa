import FundLedger.Ascending
import FundLedger.Budget.Admission
import FundLedger.Budget.Basic
import FundLedger.Budget.Effect
import FundLedger.Budget.Recompute
import FundLedger.Budget.Totals
import FundLedger.Command
import FundLedger.Decimal.Arithmetic
import FundLedger.Decimal.Basic
import FundLedger.Decimal.Binary64
import FundLedger.Decimal.Quotient
import FundLedger.Decimal.Rounding
import FundLedger.Decimal.Text
import FundLedger.Dialogue
import FundLedger.DomainName.Basic
import FundLedger.DomainName.CodeTable
import FundLedger.DomainName.Composition
import FundLedger.DomainName.CompositionTable
import FundLedger.DomainName.DirectionTable
import FundLedger.DomainName.Label
import FundLedger.DomainName.MappingTable
import FundLedger.DomainName.Punycode
import FundLedger.Error.Finance
import FundLedger.Error.Issue
import FundLedger.ExpenseClass.Basic
import FundLedger.ExpenseClass.Breakdown
import FundLedger.Fund
import FundLedger.Group.Basic
import FundLedger.Group.Summary
import FundLedger.Ident
import FundLedger.Instant
import FundLedger.Json.Basic
import FundLedger.Json.Printer
import FundLedger.Json.Reader
import FundLedger.Main
import FundLedger.Money
import FundLedger.Operation.Basic
import FundLedger.Operation.Budget
import FundLedger.Operation.Creation
import FundLedger.Operation.Encumbrance
import FundLedger.Operation.Summary
import FundLedger.Proofs.AccountCalls
import FundLedger.Proofs.Admission
import FundLedger.Proofs.Backing
import FundLedger.Proofs.Calendar
import FundLedger.Proofs.Characters
import FundLedger.Proofs.ClassBreakdowns
import FundLedger.Proofs.ClassPartition
import FundLedger.Proofs.Concurrency
import FundLedger.Proofs.Conservation
import FundLedger.Proofs.Consistency
import FundLedger.Proofs.DecimalText
import FundLedger.Proofs.EarliestAllocation
import FundLedger.Proofs.EffectTally
import FundLedger.Proofs.ExactTotals
import FundLedger.Proofs.Flows
import FundLedger.Proofs.FundSearches
import FundLedger.Proofs.GroupIsolation
import FundLedger.Proofs.GroupOfOne
import FundLedger.Proofs.GroupSummaries
import FundLedger.Proofs.GroupTotals
import FundLedger.Proofs.Headroom
import FundLedger.Proofs.Identifiers
import FundLedger.Proofs.InactiveBudgets
import FundLedger.Proofs.Incremental
import FundLedger.Proofs.InstantText
import FundLedger.Proofs.JsonText
import FundLedger.Proofs.Legality
import FundLedger.Proofs.MinorUnits
import FundLedger.Proofs.Moves
import FundLedger.Proofs.NearestDecimal
import FundLedger.Proofs.Outages
import FundLedger.Proofs.Overflows
import FundLedger.Proofs.Overtaking
import FundLedger.Proofs.Percentages
import FundLedger.Proofs.Places
import FundLedger.Proofs.Pool
import FundLedger.Proofs.Protocol
import FundLedger.Proofs.Queries
import FundLedger.Proofs.QueryText
import FundLedger.Proofs.Quotients
import FundLedger.Proofs.ReceivedHistory
import FundLedger.Proofs.Recompute
import FundLedger.Proofs.RecomputedTotals
import FundLedger.Proofs.RecordFields
import FundLedger.Proofs.Recording
import FundLedger.Proofs.Records
import FundLedger.Proofs.References
import FundLedger.Proofs.Repair
import FundLedger.Proofs.Requests
import FundLedger.Proofs.Reservations
import FundLedger.Proofs.Retry
import FundLedger.Proofs.Runs
import FundLedger.Proofs.Screening
import FundLedger.Proofs.SinglePlaces
import FundLedger.Proofs.SoundPool
import FundLedger.Proofs.Spending
import FundLedger.Proofs.Stages
import FundLedger.Proofs.Tally
import FundLedger.Proofs.Upkeep
import FundLedger.Proofs.WrittenTotals
import FundLedger.Proofs.YearRecalculation
import FundLedger.Record.Fields
import FundLedger.Record.Forms
import FundLedger.Rest.Address
import FundLedger.Rest.Client
import FundLedger.Rest.Exchange
import FundLedger.Rest.Host
import FundLedger.Rest.Message
import FundLedger.Settings
import FundLedger.Settings.Folder
import FundLedger.Settings.Path
import FundLedger.Storage.Collection
import FundLedger.Storage.Error
import FundLedger.Storage.Outage
import FundLedger.Storage.Query
import FundLedger.Storage.Request
import FundLedger.Storage.Store
import FundLedger.Storage.Table
import FundLedger.Text.Base64
import FundLedger.Text.Blank
import FundLedger.Text.Digits
import FundLedger.Text.Parts
import FundLedger.Text.Percent
import FundLedger.Text.UpperCase
import FundLedger.Transaction.Basic
import FundLedger.Transaction.Encumbrance
