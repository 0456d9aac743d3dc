import AttributeStore.Main
import AttributeStore.Proofs.Column.Limit
import AttributeStore.Proofs.Column.Search
import AttributeStore.Proofs.Definitions.NormalForm
import AttributeStore.Proofs.EventStream.Blanks
import AttributeStore.Proofs.Json.Compact
import AttributeStore.Proofs.Json.Keeping
import AttributeStore.Proofs.Json.Ordered
import AttributeStore.Proofs.Json.Recalling
import AttributeStore.Proofs.Json.Shown
import AttributeStore.Proofs.Models.CountedEvents
import AttributeStore.Proofs.Models.DailyClauses
import AttributeStore.Proofs.Models.DailyFilters
import AttributeStore.Proofs.Models.DailyNames
import AttributeStore.Proofs.Models.EventColumns
import AttributeStore.Proofs.Models.EventLiterals
import AttributeStore.Proofs.Models.Faults
import AttributeStore.Proofs.Models.Rollup
import AttributeStore.Proofs.Models.Routing
import AttributeStore.Proofs.Models.Validity
import AttributeStore.Proofs.Period.Spelling
import AttributeStore.Proofs.Plan.Appending
import AttributeStore.Proofs.Plan.SafeNames
import AttributeStore.Proofs.Project.Confinement
import AttributeStore.Proofs.Registry.Deletion
import AttributeStore.Proofs.Sql.Cases
import AttributeStore.Proofs.Sql.Reordering
import AttributeStore.Proofs.Sql.RowValidity
import AttributeStore.Proofs.Subscription.Handlers
import AttributeStore.Proofs.Subscription.Lifecycle
import AttributeStore.Proofs.Subscription.Queue
import AttributeStore.Proofs.Subscription.Session
import AttributeStore.Proofs.Subscription.Settling
import AttributeStore.Proofs.Subscription.Step
