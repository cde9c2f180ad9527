import OpenScale.Library.TransitionSystem
import OpenScale.Library.KeyedTable
import OpenScale.Library.GroupStream
import OpenScale.Library.Program
import OpenScale.Library.Python
import OpenScale.Library.Json
import OpenScale.Library.LockedStatements
import OpenScale.Jobs.Table
import OpenScale.Pipeline.System
import OpenScale.Pipeline.Restart
import OpenScale.Locking.Timestamps
import OpenScale.ControlPlane.Refinement
import OpenScale.ControlPlane.CancelAll
import OpenScale.Worker.Refinement
import OpenScale.Relay.Coverage
import OpenScale.Relay.Refinement
import OpenScale.Relay.Socket
import OpenScale.Relay.Panic
import OpenScale.Replay.Loop
import OpenScale.Query.Lexing
import OpenScale.Query.Delivery
import OpenScale.Lake.Reconciliation
import OpenScale.FeatureStore.Agreement
import OpenScale.Jobs.Pages
import OpenScale.RunAll.Settled
import OpenScale.RunAll.Frames
import OpenScale.Query.TableRef
import OpenScale.Appearance.Saved
import OpenScale.Dashboards.Missing
import OpenScale.Streaming.Delivery
import OpenScale.Streaming.Consumer
import OpenScale.Migrations.Once
import OpenScale.LiveFeed.Healing
import OpenScale.Months.Ingested
import OpenScale.Logs.Shown
import OpenScale.Query.Export
import OpenScale.Reset.Complete
import OpenScale.Query.Catalog
import OpenScale.Dashboards.Health
import OpenScale.Dashboards.Zoom
import OpenScale.Home.Trend
import OpenScale.Query.Trimming
import OpenScale.Home.Overview
import OpenScale.Search.Bar
import OpenScale.Ws.Exact
import OpenScale.Warehouse.Current
import OpenScale.Catalog.Inventory
import OpenScale.Pipeline.Progress
import OpenScale.Pipeline.Metrics
import OpenScale.TripFeed.Shown
import OpenScale.SystemHealth.Screen
import OpenScale.Replay.Controls
