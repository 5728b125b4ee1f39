import MmtkOpenJDK.Foundation.TransitionSystem
import MmtkOpenJDK.Foundation.Monitor
import MmtkOpenJDK.Foundation.ByteMemory
import MmtkOpenJDK.Foundation.Regions
import MmtkOpenJDK.Foundation.SlidingCopy
import MmtkOpenJDK.Foundation.Relocation
import MmtkOpenJDK.Foundation.LinkedList
import MmtkOpenJDK.Foundation.Interleaving
import MmtkOpenJDK.Foundation.X86
import MmtkOpenJDK.Foundation.IdealGraph
import MmtkOpenJDK.Foundation.SideMetadata
import MmtkOpenJDK.Foundation.ReprC
import MmtkOpenJDK.Foundation.Overwriting
import MmtkOpenJDK.Heap.VMLayout
import MmtkOpenJDK.Heap.LayoutConsistency
import MmtkOpenJDK.Slots.CompressedOops
import MmtkOpenJDK.Slots.SlotAccess
import MmtkOpenJDK.Slots.SlotRange
import MmtkOpenJDK.CodeCache.Scan
import MmtkOpenJDK.CodeCache.Registry
import MmtkOpenJDK.CodeCache.RootCompleteness
import MmtkOpenJDK.CodeCache.RootExactness
import MmtkOpenJDK.References.PendingList
import MmtkOpenJDK.References.PendingHandoff
import MmtkOpenJDK.StopTheWorld.Companion
import MmtkOpenJDK.StopTheWorld.Rounds
import MmtkOpenJDK.StopTheWorld.CompanionInvariant
import MmtkOpenJDK.StopTheWorld.CompanionWaits
import MmtkOpenJDK.StopTheWorld.BlockForGC
import MmtkOpenJDK.StopTheWorld.BlockForGCInvariant
import MmtkOpenJDK.Barriers.AccessBarrier
import MmtkOpenJDK.Barriers.Runtimes
import MmtkOpenJDK.Barriers.Mutators
import MmtkOpenJDK.Barriers.SATBInvariant
import MmtkOpenJDK.Barriers.ObjectBarrierInvariant
import MmtkOpenJDK.Barriers.Tiers
import MmtkOpenJDK.Barriers.GenerationalCollections
import MmtkOpenJDK.Barriers.UnlogBit
import MmtkOpenJDK.Barriers.FastPaths
import MmtkOpenJDK.Barriers.ReferenceLoads
import MmtkOpenJDK.Barriers.ConcurrentMarking
import MmtkOpenJDK.Allocation.Settings
import MmtkOpenJDK.Allocation.EdenAllocate
import MmtkOpenJDK.Allocation.ExpandAllocate
import MmtkOpenJDK.Allocation.FastPath
import MmtkOpenJDK.Allocation.ThreadWords
import MmtkOpenJDK.Allocation.LargeObjects
import MmtkOpenJDK.Finalization.FinalizerThread
import MmtkOpenJDK.Finalization.ScheduleRequests
import MmtkOpenJDK.Finalization.ThrowingFinalizers
import MmtkOpenJDK.Roots.RootsClosure
import MmtkOpenJDK.Roots.ParallelScan
import MmtkOpenJDK.ObjectModel.Abi
import MmtkOpenJDK.ObjectModel.ArrayGeometry
import MmtkOpenJDK.ObjectModel.ObjectScanning
import MmtkOpenJDK.ObjectModel.ArrayCopySlots
import MmtkOpenJDK.ObjectModel.CopyTo
import MmtkOpenJDK.ObjectModel.MemoryLayouts
import MmtkOpenJDK.ObjectModel.MovedObjects
import MmtkOpenJDK.ObjectModel.ArrayCopies
import MmtkOpenJDK.ObjectModel.UpdatedReferences
import MmtkOpenJDK.Startup.MMTkOptions
import MmtkOpenJDK.Startup.OptionPriority
