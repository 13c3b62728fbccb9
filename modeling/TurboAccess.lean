import TurboAccess.Lib.Table
import TurboAccess.Lib.Words
import TurboAccess.Lib.Machine
import TurboAccess.Lib.Tally
import TurboAccess.Lib.Custody
import TurboAccess.Lib.Service
import TurboAccess.Lib.Sharded
import TurboAccess.Lib.History
import TurboAccess.Lib.Tiling
import TurboAccess.Lib.Placement
import TurboAccess.Lib.Slices
import TurboAccess.Lib.ShiftRegister
import TurboAccess.Lib.BitStrings
import TurboAccess.Gateway.Types
import TurboAccess.Gateway.Crc32c
import TurboAccess.Gateway.Checksum
import TurboAccess.Gateway.ChecksumText
import TurboAccess.Gateway.Backend.MemoryDataStore
import TurboAccess.Gateway.Backend.Capacity
import TurboAccess.Gateway.Backend.CompositeBackend
import TurboAccess.Gateway.Backend.Footprint
import TurboAccess.Gateway.Backend.Assembly
import TurboAccess.Gateway.Backend.Agreement
import TurboAccess.Gateway.Backend.ConcurrentWrites
import TurboAccess.Gateway.Backend.WithoutStaging
import TurboAccess.Gateway.Backend.Shards
import TurboAccess.Gateway.Multipart.Coordinator
import TurboAccess.Gateway.Multipart.Admission
import TurboAccess.Gateway.Multipart.Interleaving
import TurboAccess.Gateway.Multipart.Effects
import TurboAccess.Gateway.Multipart.Identifiers
import TurboAccess.Gateway.Multipart.Claims
import TurboAccess.Gateway.Multipart.TerminalState
import TurboAccess.Gateway.Multipart.CommitOnce
import TurboAccess.Gateway.Multipart.Retries
import TurboAccess.Gateway.Multipart.OrphanStaging
import TurboAccess.Gateway.Multipart.Staged
import TurboAccess.Gateway.Multipart.PartEtag
import TurboAccess.Gateway.Multipart.FailedComplete
import TurboAccess.Gateway.Multipart.Accounting
import TurboAccess.Gateway.Multipart.Opened
import TurboAccess.Gateway.Multipart.WithoutUpload
import TurboAccess.Gateway.Multipart.UploadPlan
import TurboAccess.Gateway.Multipart.Concatenation
import TurboAccess.Gateway.Multipart.Shards
import TurboAccess.Gateway.Session.SessionStore
import TurboAccess.Gateway.Session.Effects
import TurboAccess.Gateway.Session.Coherence
import TurboAccess.Gateway.Session.Displacement
import TurboAccess.Gateway.Session.Interleaving
import TurboAccess.Gateway.Session.KeyedCreation
import TurboAccess.Gateway.Session.Revival
import TurboAccess.Gateway.Session.TerminalStates
import TurboAccess.Gateway.Session.Shards
import TurboAccess.Gateway.Sharding
import TurboAccess.Gateway.Gds.Executor
import TurboAccess.Gateway.Gds.ControlPlane
import TurboAccess.Gateway.Gds.DeadSessions
import TurboAccess.Gateway.Gds.FailedOpens
import TurboAccess.Gateway.Gds.ReplayedOpens
import TurboAccess.Gateway.Gds.Binding
import TurboAccess.Gateway.Backend.FailedOperations
import TurboAccess.Gateway.Backend.WordBounds
import TurboAccess.Gateway.Backend.StagedParts
import TurboAccess.Gateway.Backend.ZeroCopy
import TurboAccess.Gateway.Backend.NonInterference
import TurboAccess.Gateway.Backend.ChunkOrder
import TurboAccess.Gateway.Gds.UnsizedChunks
import TurboAccess.Gateway.Gds.PartChunks
import TurboAccess.Gateway.Gds.PartDigest
import TurboAccess.Gateway.Multipart.Reuploads
import TurboAccess.Gateway.Gds.BufferPool
import TurboAccess.Gateway.Gds.BufferFates
import TurboAccess.Gateway.Gds.Leases
import TurboAccess.Gateway.Gds.LeaseCustody
import TurboAccess.Gateway.Ucx.Executor
import TurboAccess.Gateway.Ucx.Effects
import TurboAccess.Gateway.Ucx.Ownership
import TurboAccess.Gateway.Ucx.Slots
import TurboAccess.Gateway.Ucx.PendingCommits
import TurboAccess.Gateway.Ucx.Callbacks
import TurboAccess.Gateway.Ucx.CommitRange
import TurboAccess.Gateway.Ucx.Attempts
import TurboAccess.Gateway.Ucx.WriteDone
import TurboAccess.Gateway.Ucx.Contamination
import TurboAccess.Gateway.Ucx.Conservation
import TurboAccess.Gateway.Ucx.Gauge
import TurboAccess.Gateway.Ucx.SessionLifetime
import TurboAccess.Gateway.Ucx.History
import TurboAccess.Gateway.Ucx.PutProtocol
import TurboAccess.Gateway.Runtime.IoWorkerPool
import TurboAccess.Proxy.SessionManager
import TurboAccess.Proxy.ControlPlaneService
import TurboAccess.Backend.DataPlane
import TurboAccess.Backend.Completion
import TurboAccess.Backend.Etags
import TurboAccess.Gateway.Multipart.Sequential
import TurboAccess.Gateway.Multipart.PartLimit
import TurboAccess.Client.ChecksumHeader
import TurboAccess.Client.Async.ClientExecutor
import TurboAccess.Client.Upload.MultipartUpload
import TurboAccess.Client.Upload.UploadParts
import TurboAccess.Client.Upload.UploadedOnce
import TurboAccess.Client.Upload.UploadResult
import TurboAccess.Client.Upload.Handles
import TurboAccess.Client.Upload.LostUploads
import TurboAccess.Client.Upload.PartAttempts
import TurboAccess.Client.Upload.EtagAgreement
import TurboAccess.Client.Upload.PartRequests
import TurboAccess.Client.Gds.ShortTransfers
import TurboAccess.Client.Upload.PartDelivery
import TurboAccess.Client.Upload.DeclaredOffsets
import TurboAccess.Client.Gds.Handshake
import TurboAccess.Client.Gds.TransferPath
import TurboAccess.Client.Gds.SubTransfers
import TurboAccess.Client.Gds.Partition
import TurboAccess.Client.Gds.BufferBounds
import TurboAccess.Client.Gds.MemoryRegistry
import TurboAccess.Client.Gds.OneVersion
import TurboAccess.Client.Gds.Delivery
import TurboAccess.Client.Gds.Checksums
import TurboAccess.Client.Gds.HeldDescriptors
import TurboAccess.Lib.Program
import TurboAccess.Client.Retry
import TurboAccess.Client.Rdma.TransferPath
import TurboAccess.Client.Rdma.Balance
import TurboAccess.Client.Gds.PutAttempts
import TurboAccess.Client.RetryMarks
import TurboAccess.Lib.Protocol
import TurboAccess.Client.Rdma.EndpointPool
import TurboAccess.Client.Rdma.Holdings
import TurboAccess.Client.Rdma.PoolSound
import TurboAccess.Client.Rdma.RemoteKeys
import TurboAccess.Lib.Network
import TurboAccess.Gateway.Gds.PutSections
import TurboAccess.EndToEnd.PutNetwork
import TurboAccess.EndToEnd.Writers
import TurboAccess.EndToEnd.WholeObjects
import TurboAccess.EndToEnd.ReadBack
import TurboAccess.Gateway.Runtime.Wakeups
import TurboAccess.Lib.Lifetimes
import TurboAccess.Gateway.Runtime.GatewayRuntime
import TurboAccess.Client.ClientCore
import TurboAccess.Gateway.Ucx.StartStop
import TurboAccess.EndToEnd.RdmaNetwork
import TurboAccess.EndToEnd.RdmaWriters
import TurboAccess.EndToEnd.RdmaBytes
import TurboAccess.EndToEnd.RdmaWholeObjects
import TurboAccess.Client.Rdma.Leftovers
import TurboAccess.Client.Rdma.Notices
import TurboAccess.Client.Rdma.NoticesSound
import TurboAccess.Client.Rdma.NoticesTold
