import Errand.Checkpoint.Store
import Errand.Command
import Errand.Consult
import Errand.Entries
import Errand.Fault
import Errand.Gateway.App
import Errand.Gateway.Body
import Errand.Gateway.EventStream
import Errand.Gateway.Exchange
import Errand.Gateway.Health
import Errand.Gateway.Host
import Errand.Gateway.Refusal
import Errand.Gateway.Router
import Errand.Gateway.Runs
import Errand.Gateway.Wire
import Errand.Json.Basic
import Errand.Json.Decode
import Errand.Json.Reader
import Errand.Json.Source
import Errand.Json.Writer
import Errand.Main
import Errand.Messaging.Basic
import Errand.Messaging.Exchange
import Errand.Messaging.Filter
import Errand.Messaging.Operations
import Errand.Messaging.Replies
import Errand.Messaging.Repository
import Errand.Messaging.Seed
import Errand.Messaging.Store
import Errand.Metrics.Page
import Errand.Metrics.Sample
import Errand.Metrics.Summary
import Errand.Model.Binding
import Errand.Model.Chat
import Errand.Model.Completion
import Errand.Model.Provider
import Errand.Model.Staff
import Errand.Model.Stream
import Errand.Number.Binary
import Errand.Number.Double
import Errand.Number.Exponential
import Errand.Number.Shortest
import Errand.Number.Single
import Errand.Operation.Basic
import Errand.Operation.Registry
import Errand.Operation.Schema
import Errand.Plan.Basic
import Errand.Plan.Parser
import Errand.Prompt.Catalog
import Errand.Prompt.Template
import Errand.Prompt.Texts
import Errand.Proofs.Run.Driving
import Errand.Proofs.Run.Inquiry
import Errand.Proofs.Run.Keeping
import Errand.Proofs.Run.Reachability
import Errand.Rehearsal.Cast
import Errand.Rehearsal.Folder
import Errand.Rehearsal.Performance
import Errand.Rehearsal.Report
import Errand.Rehearsal.Script
import Errand.Rehearsal.Sheet
import Errand.Rehearsal.World
import Errand.Results
import Errand.Run.Advance
import Errand.Run.Basic
import Errand.Run.Dispatch
import Errand.Run.Drive
import Errand.Run.Encoding
import Errand.Run.Event
import Errand.Run.Fault
import Errand.Run.Synthesis
import Errand.Run.Team
import Errand.Service.Assembly
import Errand.Service.Ids
import Errand.Service.Memory
import Errand.Settings.Basic
import Errand.Settings.Document
import Errand.Settings.Layer
import Errand.Settings.Load
import Errand.Terminal
import Errand.Text.Blank
import Errand.Text.Composition
import Errand.Text.Direction
import Errand.Text.Folding
import Errand.Text.Joining
import Errand.Text.Lower
import Errand.Text.Mark
import Errand.Text.Pattern
import Errand.Text.Quoted
import Errand.Text.Ranges
import Errand.Text.Search
import Errand.Text.Unseen
import Errand.Text.Utf8
import Errand.Text.Word
import Errand.Time.Calendar
import Errand.Time.Instant
import Errand.Web.Header
import Errand.Web.Host
import Errand.Web.MediaType
import Errand.Web.Name
import Errand.Web.PathPattern
import Errand.Web.Percent
import Errand.Web.Punycode
import Errand.Web.Target
import Errand.Web.Url
import Errand.Proofs.Run.Calls
import Errand.Proofs.Json.Literal
import Errand.Proofs.Json.Spelling
import Errand.Proofs.Json.Decoding
import Errand.Proofs.Run.Encoding
import Errand.Proofs.Checkpoint.Store
import Errand.Proofs.Run.Scripts
import Errand.Proofs.Run.Attempt
import Errand.Proofs.Run.Resumption
import Errand.Proofs.Text.Repetition
import Errand.Proofs.Text.Search
import Errand.Proofs.Text.Takes
import Errand.Proofs.Text.Finding
import Errand.Proofs.Text.Classes
import Errand.Proofs.Text.Braces
import Errand.Proofs.Plan.Shape
import Errand.Proofs.Plan.Units
import Errand.Proofs.Plan.Title
import Errand.Proofs.Plan.Recognition
import Errand.Proofs.Plan.Layout
import Errand.Proofs.Plan.PlainForm
import Errand.Proofs.Plan.Broken
import Errand.Proofs.Text.Replacement
import Errand.Proofs.Json.Reading
import Errand.Proofs.Run.Resolving
import Errand.Proofs.Run.Template
import Errand.Proofs.Run.Dispatching
import Errand.Proofs.Run.History
import Errand.Proofs.Run.Contest
import Errand.Proofs.Run.Exclusion
import Errand.Proofs.Run.Intrusion
import Errand.Proofs.Model.Chunking
import Errand.Proofs.Checkpoint.Forgetting
import Errand.Proofs.Gateway.Undertaking
import Errand.Proofs.Gateway.Succession
import Errand.Proofs.Consult
import Errand.Proofs.Messaging.Growing
import Errand.Proofs.Gateway.Messages
import Errand.Proofs.Json.Compact
import Errand.Proofs.Gateway.Client
import Errand.Proofs.Run.Speech
import Errand.Proofs.Service.Runs
import Errand.Proofs.Gateway.Answers
import Errand.Proofs.Run.Ending
import Errand.Proofs.Model.Rendering
import Errand.Proofs.Run.Traffic
import Errand.Proofs.Run.Showing
import Errand.Proofs.Gateway.Framing
import Errand.Proofs.Run.Likeness
import Errand.Proofs.Gateway.Flag
import Errand.Proofs.Gateway.Likeness
import Errand.Proofs.Gateway.Calls
import Errand.Proofs.Gateway.Presentation
import Errand.Proofs.Run.Contract
import Errand.Proofs.Model.Arriving
import Errand.Proofs.Plan.Sequence
import Errand.Proofs.Plan.Untitled
import Errand.Proofs.Json.Grammar
import Errand.Proofs.Plan.Objects
import Errand.Proofs.Run.Substitution
import Errand.Proofs.Run.Stability
import Errand.Proofs.Run.Synthesis
import Errand.Proofs.Run.Termination
import Errand.Proofs.Messaging.Listing
import Errand.Proofs.Messaging.Meeting
import Errand.Proofs.Messaging.Clerks
import Errand.Proofs.Messaging.Between
import Errand.Proofs.Messaging.Statistics
import Errand.Proofs.Text.Lowering
import Errand.Proofs.Messaging.Searching
import Errand.Proofs.Messaging.Pseudonyms
import Errand.Proofs.Messaging.Recent
import Errand.Proofs.Model.Prompting
import Errand.Proofs.Json.Sources
import Errand.Proofs.Json.Numbers
import Errand.Proofs.Json.Unasked
import Errand.Proofs.Prompt.Filling
import Errand.Proofs.Model.Suggesting
import Errand.Proofs.Messaging.LastSent
import Errand.Proofs.Run.Ledger
import Errand.Proofs.Run.Counting
import Errand.Proofs.Model.Buffering
import Errand.Proofs.Checkpoint.Slots
import Errand.Proofs.Operation.Registration
import Errand.Proofs.Service.Durations
import Errand.Proofs.Service.Counting
