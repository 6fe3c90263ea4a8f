import Telemetry.Health.Directory
import Telemetry.Http.Source
import Telemetry.Json.Printer
import Telemetry.Settings.Basic
import Telemetry.Window.Resolver
import Telemetry.Proofs.Cache.Flight
import Telemetry.Proofs.Cache.SingleFlight
import Telemetry.Proofs.Cache.Index
import Telemetry.Proofs.Cache.Installed
import Telemetry.Proofs.Cache.WholeSnapshots
import Telemetry.Proofs.Cache.Progress
import Telemetry.Proofs.Cache.StaleOnError
import Telemetry.Proofs.Cache.Counters
import Telemetry.Proofs.Binary64.Rounding
import Telemetry.Proofs.Cache.Freshness
import Telemetry.Proofs.Window.Budget
import Telemetry.Proofs.Cache.History
import Telemetry.Proofs.Cache.Spacing
import Telemetry.Proofs.Cache.Refresh
import Telemetry.Proofs.Cache.Balance
import Telemetry.Proofs.Cache.DeadLoads
import Telemetry.Proofs.Cache.Poisoned
import Telemetry.Proofs.Cache.Containment
import Telemetry.Proofs.Cache.Policy
import Telemetry.Proofs.Time.Lookback
import Telemetry.Proofs.Window.Settings
import Telemetry.Proofs.Window.BucketLookback
import Telemetry.Proofs.Binary64.Order
import Telemetry.Proofs.Health.Mean
import Telemetry.Proofs.Binary64.Value
import Telemetry.Proofs.Binary64.Logarithm
import Telemetry.Proofs.Window.Derived
import Telemetry.Proofs.Window.Unasked
import Telemetry.Proofs.Window.Table
import Telemetry.Proofs.Window.Sizes
import Telemetry.Proofs.Text.Utf8
import Telemetry.Proofs.Http.Backoff
import Telemetry.Proofs.Http.Attempts
import Telemetry.Proofs.Health.MeanError
import Telemetry.Proofs.Health.Channels
import Telemetry.Proofs.Health.Loss
import Telemetry.Proofs.Health.Monotone
import Telemetry.Proofs.Catalog.Validity
import Telemetry.Proofs.Health.Accounting
import Telemetry.Proofs.Catalog.Registry
import Telemetry.Proofs.Json.Numeral
import Telemetry.Proofs.Json.Nested
import Telemetry.Proofs.Json.Parts
import Telemetry.Proofs.Json.Plain
import Telemetry.Proofs.Json.Tokens
import Telemetry.Proofs.Json.Record
import Telemetry.Proofs.Settings.Saved
import Telemetry.Proofs.Catalog.Documents
import Telemetry.Proofs.Catalog.Interchange
import Telemetry.Proofs.Catalog.Defaults
import Telemetry.Proofs.Time.Length
import Telemetry.Proofs.Time.Timestamp
import Telemetry.Proofs.Time.Trailing
import Telemetry.Proofs.Health.Pulled
import Telemetry.Proofs.Window.Nearest
import Telemetry.Proofs.Health.Extremes
