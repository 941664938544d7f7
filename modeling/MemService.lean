import MemService.Lib.SlotTable
import MemService.Lib.Eviction
import MemService.Lib.ByteText
import MemService.Lib.CNumeral
import MemService.Lib.Run
import MemService.Wire
import MemService.Record
import MemService.StoreText
import MemService.StoreCodec
import MemService.StoreLoad
import MemService.Journal
import MemService.TornJournal
import MemService.Metadata
import MemService.Handlers
import MemService.Snapshot
import MemService.Retention
import MemService.Daemon
import MemService.Invariant
import MemService.Effects
import MemService.FieldLines
import MemService.Reachable
import MemService.RoundTrip
import MemService.Room
import MemService.Quota
import MemService.MonotoneResults
import MemService.ErrorAtomicity
import MemService.Idempotency
import MemService.StagedRestore
import MemService.SharedStage
import MemService.PagedExport
import MemService.Expectations
import MemService.Coherence
import MemService.KeySpace
import MemService.BlockStore
import MemService.BlockGc
import MemService.BlockReads
import MemService.LiveAnswers
import MemService.AuditRing
import MemService.Truncation
import MemService.DurableFiles
import MemService.AuditLog
import MemService.AuditReload
import MemService.ProviderWire
import MemService.Keys
import MemService.RegionLayout
import MemService.ClientRecord
import MemService.ClientPayload
import MemService.WireClient
import MemService.WireSchema
import MemService.ClusterSummary
import MemService.DecodeBarrier
import MemService.DescQueue
import MemService.QueueBarrier
import MemService.ObjectRecords
import MemService.ObjectWaits
import MemService.StableRead
import MemService.MetadataUpdates
import MemService.GroupMembership
import MemService.ProviderRegistry
import MemService.ProviderChannel
import MemService.RetentionOrder
import MemService.LayerPlacement
import MemService.ObmmProvider
import MemService.Metrics
import MemService.BlockBackends
import MemService.InlinePayload
import MemService.NumericFields
import MemService.ExpertCache
import MemService.ArenaAlloc
import MemService.ExpertRoute
import MemService.TileCatalog
import MemService.MpscLanes
import MemService.SpmcView
import MemService.TcpReceive
import MemService.Restart
import MemService.EngramPublish
import MemService.EngramWaits
