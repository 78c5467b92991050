import EventRelay.Action
import EventRelay.Admission
import EventRelay.Bus
import EventRelay.Config
import EventRelay.Declaration.Attribute
import EventRelay.Declaration.Error
import EventRelay.Declaration.EventType
import EventRelay.Declaration.Function
import EventRelay.Declaration.Grammar
import EventRelay.Declaration.Grammar.Expression
import EventRelay.Declaration.Grammar.Item
import EventRelay.Declaration.Grammar.Member
import EventRelay.Declaration.Grammar.Nested
import EventRelay.Declaration.Grammar.Path
import EventRelay.Declaration.Grammar.Pattern
import EventRelay.Declaration.Grammar.Statement
import EventRelay.Declaration.Grammar.Type
import EventRelay.Declaration.Lexer
import EventRelay.Declaration.Options
import EventRelay.Declaration.Reading
import EventRelay.Declaration.Source
import EventRelay.Declaration.SubscriberBlock
import EventRelay.Declaration.Token
import EventRelay.Declaration.Type
import EventRelay.Dispatch
import EventRelay.Event
import EventRelay.Failure
import EventRelay.Hierarchy.Cache
import EventRelay.Hierarchy.Index
import EventRelay.Hierarchy.Node
import EventRelay.Host
import EventRelay.Json.Reader
import EventRelay.Json.Value
import EventRelay.Kind
import EventRelay.Listener
import EventRelay.Metrics
import EventRelay.Notice
import EventRelay.Priority
import EventRelay.Priority.Reading
import EventRelay.Registration
import EventRelay.Report
import EventRelay.Scenario.Catalog
import EventRelay.Scenario.Play
import EventRelay.Scenario.Script
import EventRelay.Scenario.Session.Admission
import EventRelay.Scenario.Session.Event
import EventRelay.Scenario.Session.Index
import EventRelay.Scenario.Session.Listener
import EventRelay.Scenario.Session.Metrics
import EventRelay.Scenario.Setup
import EventRelay.Scenario.Standard
import EventRelay.Scenario.Steps
import EventRelay.Scenario.Subscribers
import EventRelay.Scenario.World
import EventRelay.Subscriber
import EventRelay.Text.Blank
import EventRelay.Text.Quoted
import EventRelay.Text.Record
import EventRelay.Text.Visible
import EventRelay.Typed
import EventRelay.Proofs.Hierarchy.Arena
import EventRelay.Proofs.Hierarchy.Invalidation
import EventRelay.Proofs.Hierarchy.Recomputation
import EventRelay.Proofs.Hierarchy.Reachable
import EventRelay.Proofs.Bus.Changes
import EventRelay.Proofs.Bus.Operations
import EventRelay.Proofs.Bus.Reached
import EventRelay.Proofs.Hierarchy.Buckets
import EventRelay.Proofs.Bus.Matched
import EventRelay.Proofs.Bus.Storage
import EventRelay.Proofs.Dispatch.Order
import EventRelay.Proofs.Dispatch.FailFast
import EventRelay.Proofs.Dispatch.Entering
import EventRelay.Proofs.Declaration.DerivedEvents
import EventRelay.Proofs.Dispatch.Unchecked
import EventRelay.Proofs.Hierarchy.Evolution
import EventRelay.Proofs.Hierarchy.Outcome
import EventRelay.Proofs.Hierarchy.Growth
import EventRelay.Proofs.Bus.Refusals
import EventRelay.Proofs.Bus.Runs
import EventRelay.Proofs.Bus.Steps
import EventRelay.Proofs.Bus.Orderly
import EventRelay.Proofs.Bus.Identities
import EventRelay.Proofs.Dispatch.WholeEvents
import EventRelay.Proofs.Dispatch.Typed
import EventRelay.Proofs.Hierarchy.Tree
import EventRelay.Proofs.Hierarchy.Freshness
import EventRelay.Proofs.Hierarchy.Purging
import EventRelay.Proofs.Event.Cancellation
import EventRelay.Proofs.Hierarchy.Phases
import EventRelay.Proofs.Dispatch.Recording
import EventRelay.Proofs.Dispatch.EventsOnly
import EventRelay.Proofs.Dispatch.Phases
import EventRelay.Proofs.Bus.Errors
import EventRelay.Proofs.Declaration.DeclaredSubscribers
import EventRelay.Proofs.Declaration.WrittenOptions
import EventRelay.Proofs.Declaration.AcceptedEvents
import EventRelay.Proofs.Dispatch.Markers
import EventRelay.Proofs.Bus.Parallel
import EventRelay.Proofs.Bus.Shutdown
import EventRelay.Proofs.Bus.Ledger
import EventRelay.Proofs.Bus.Carried
import EventRelay.Proofs.Bus.Tally
import EventRelay.Proofs.Dispatch.Counting
import EventRelay.Proofs.Dispatch.Nesting
import EventRelay.Proofs.Bus.Objections
import EventRelay.Proofs.Bus.Enrollment
import EventRelay.Proofs.Bus.Unregistering
import EventRelay.Proofs.Bus.Traffic
import EventRelay.Proofs.Bus.Stock
import EventRelay.Proofs.Bus.Accounts
import EventRelay.Proofs.Bus.Races
import EventRelay.Proofs.Interleaving.Tasks
import EventRelay.Proofs.Interleaving.Steps
import EventRelay.Proofs.Interleaving.Nodes
import EventRelay.Proofs.Interleaving.Making
import EventRelay.Proofs.Interleaving.Histories
import EventRelay.Proofs.Interleaving.Entries
import EventRelay.Proofs.Interleaving.Telling
import EventRelay.Proofs.Interleaving.Recency
import EventRelay.Proofs.Interleaving.Readings
import EventRelay.Proofs.Interleaving.FreshReads
import EventRelay.Proofs.Interleaving.Alone
import EventRelay.Proofs.Dispatch.Refused
import EventRelay.Proofs.Event.Views
import EventRelay.Proofs.Declaration.TakenMarks
import EventRelay.Proofs.Declaration.WrittenSubscribers
import EventRelay.Proofs.Declaration.AcceptedSubscribers
import EventRelay.Proofs.Metrics.Registering
import EventRelay.Proofs.Config.Settings
import EventRelay.Proofs.Hierarchy.UnderWay
import EventRelay.Proofs.Hierarchy.NestedCalls
import EventRelay.Proofs.Interleaving.Settled
