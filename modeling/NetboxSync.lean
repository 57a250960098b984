import NetboxSync.Auth.Authorization
import NetboxSync.Auth.Receipts
import NetboxSync.Auth.Widening
import NetboxSync.Broker.Staging
import NetboxSync.Esxi.PrimaryIp
import NetboxSync.Esxi.Replacement
import NetboxSync.Guests.Injective
import NetboxSync.Inventory.Order
import NetboxSync.Ipam.Availability
import NetboxSync.Lifecycle.Dispatch
import NetboxSync.Network.Interrupted
import NetboxSync.Pfsense.Aliases
import NetboxSync.Provider.Adopted
import NetboxSync.Provider.Paths
import NetboxSync.Review.Ownership
import NetboxSync.Runs.Baseline
import NetboxSync.Runs.Isolation
import NetboxSync.Runs.Once
import NetboxSync.Runs.Outcome
import NetboxSync.Scheduler.Cadence
import NetboxSync.SyncPlan.Complete
import NetboxSync.SyncPlan.Reordering
