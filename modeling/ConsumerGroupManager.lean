import ConsumerGroupManager.Basic
import ConsumerGroupManager.Manager
import ConsumerGroupManager.Run
import ConsumerGroupManager.Properties.Steps
import ConsumerGroupManager.Properties.Commands
import ConsumerGroupManager.Properties.Registry
import ConsumerGroupManager.Properties.Reconfigure
import ConsumerGroupManager.Properties.Sessions
import ConsumerGroupManager.Properties.Factory
import ConsumerGroupManager.Concurrent.Threads
import ConsumerGroupManager.Concurrent.Solo
import ConsumerGroupManager.Concurrent.Distinct
import ConsumerGroupManager.Concurrent.StableMap
import ConsumerGroupManager.Concurrent.Locks
import ConsumerGroupManager.Concurrent.Merge
import ConsumerGroupManager.Concurrent.MergeProgress
import ConsumerGroupManager.Concurrent.Release
import ConsumerGroupManager.Concurrent.ReleaseProgress
import ConsumerGroupManager.Concurrent.Barrier
import ConsumerGroupManager.Concurrent.Serial
import ConsumerGroupManager.Concurrent.CriticalSection
import ConsumerGroupManager.Concurrent.Restarts
import ConsumerGroupManager.Concurrent.Exclusive
import ConsumerGroupManager.Concurrent.Ownership
import ConsumerGroupManager.Concurrent.Names
import ConsumerGroupManager.Concurrent.CloseWait
import ConsumerGroupManager.Concurrent.Progress
import ConsumerGroupManager.Concurrent.Isolation
import ConsumerGroupManager.Concurrent.Lifecycle
import ConsumerGroupManager.Concurrent.FailedClose
import ConsumerGroupManager.Properties.IgnoredStart
