import Theia.Spec.JournalReplay
import Theia.Spec.CacheIndexes
import Theia.Spec.Rediscovery
import Theia.Spec.TopologyImport
import Theia.Spec.FlushMarks
import Theia.Spec.VisibleChanges
import Theia.Spec.BulkRequests
import Theia.Spec.CanvasProjection
import Theia.Spec.TopologyRun
import Theia.Spec.CanvasIsolation
import Theia.Spec.Keyring
import Theia.Spec.PasswordSessions
import Theia.Spec.SuperAdmin
import Theia.Spec.BackgroundPhase
import Theia.Spec.PollingBudget
import Theia.Spec.ReconcileRefresh
import Theia.Spec.DetailDelta
import Theia.Spec.FrozenHealth
import Theia.Spec.RuntimeRecovery
import Theia.Spec.NeighborDedupe
import Theia.Spec.RestoreBackup
import Theia.Spec.RestoreRetry
import Theia.Spec.LoginLock
import Theia.Spec.ProbeStatus
import Theia.Spec.KeyInput
import Theia.Spec.PortAnchors
import Theia.Spec.StructuralRefreshQueue
import Theia.Spec.VendorMatch
import Theia.Spec.SettingsCache
import Theia.Spec.CounterWalk
import Theia.Spec.SchedulerDue
import Theia.Spec.StaleLinks
