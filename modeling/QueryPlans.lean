import QueryPlans.Main
import QueryPlans.Proofs.Condition.Alternatives
import QueryPlans.Proofs.Condition.Basic
import QueryPlans.Proofs.Condition.Chain
import QueryPlans.Proofs.Condition.Join
import QueryPlans.Proofs.Condition.Read
import QueryPlans.Proofs.Console.Compiled
import QueryPlans.Proofs.Console.Conversation
import QueryPlans.Proofs.Console.Escaped
import QueryPlans.Proofs.Console.Offline
import QueryPlans.Proofs.Console.Table
import QueryPlans.Proofs.Database.Accepted
import QueryPlans.Proofs.Database.Addresses
import QueryPlans.Proofs.Database.Counting
import QueryPlans.Proofs.Database.Faults
import QueryPlans.Proofs.Database.Layers
import QueryPlans.Proofs.Database.Lifecycle
import QueryPlans.Proofs.Database.Moves
import QueryPlans.Proofs.Database.Names
import QueryPlans.Proofs.Database.Pools
import QueryPlans.Proofs.Database.Translation
import QueryPlans.Proofs.Json.Equality
import QueryPlans.Proofs.Json.Grammar
import QueryPlans.Proofs.Json.Integers
import QueryPlans.Proofs.Json.Exceeded
import QueryPlans.Proofs.Json.Scalars
import QueryPlans.Proofs.Json.Scan
import QueryPlans.Proofs.Json.Scanned
import QueryPlans.Proofs.Json.Values
import QueryPlans.Proofs.Number.Constants
import QueryPlans.Proofs.Number.Overflow
import QueryPlans.Proofs.Number.Rounding
import QueryPlans.Proofs.Number.Written
import QueryPlans.Proofs.Page.Count
import QueryPlans.Proofs.Page.Ranges
import QueryPlans.Proofs.Plan.Bare
import QueryPlans.Proofs.Plan.Braces
import QueryPlans.Proofs.Plan.Decided
import QueryPlans.Proofs.Plan.Faults
import QueryPlans.Proofs.Plan.Fields
import QueryPlans.Proofs.Plan.Filters
import QueryPlans.Proofs.Plan.FromLines
import QueryPlans.Proofs.Plan.Joins
import QueryPlans.Proofs.Plan.Limits
import QueryPlans.Proofs.Plan.Naming
import QueryPlans.Proofs.Plan.Nulls
import QueryPlans.Proofs.Plan.Numbers
import QueryPlans.Proofs.Plan.Objects
import QueryPlans.Proofs.Plan.Order
import QueryPlans.Proofs.Plan.Paging
import QueryPlans.Proofs.Plan.Readers
import QueryPlans.Proofs.Plan.Reasons
import QueryPlans.Proofs.Plan.Refusals
import QueryPlans.Proofs.Plan.Retention
import QueryPlans.Proofs.Plan.RoundTrip
import QueryPlans.Proofs.Plan.Shorthand
import QueryPlans.Proofs.Plan.Turns
import QueryPlans.Proofs.Plan.Violations
import QueryPlans.Proofs.Plan.Windows
import QueryPlans.Proofs.Plan.Wrapping
import QueryPlans.Proofs.Program.Forward
import QueryPlans.Proofs.Program.Gather
import QueryPlans.Proofs.Program.Lock
import QueryPlans.Proofs.Program.Serve
import QueryPlans.Proofs.Program.Steady
import QueryPlans.Proofs.Program.Trace
import QueryPlans.Proofs.Schema.Faults
import QueryPlans.Proofs.Schema.Inferred
import QueryPlans.Proofs.Schema.Related
import QueryPlans.Proofs.Service.Endpoints
import QueryPlans.Proofs.Session.Answered
import QueryPlans.Proofs.Session.Calls
import QueryPlans.Proofs.Session.Failures
import QueryPlans.Proofs.Session.Limits
import QueryPlans.Proofs.Session.Queries
import QueryPlans.Proofs.Session.Replied
import QueryPlans.Proofs.Session.Serial
import QueryPlans.Proofs.Session.Shared
import QueryPlans.Proofs.Session.Steps
import QueryPlans.Proofs.Text.Pieces
import QueryPlans.Proofs.Text.Rewriting
import QueryPlans.Proofs.Text.Search
import QueryPlans.Proofs.Url.Driver
import QueryPlans.Proofs.Url.Escapes
import QueryPlans.Proofs.Url.Hosts
import QueryPlans.Proofs.Url.Literals
import QueryPlans.Proofs.Url.Parts
import QueryPlans.Proofs.Url.Printed
