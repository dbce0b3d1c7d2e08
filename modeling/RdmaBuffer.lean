import RdmaBuffer.Lib.Lts
import RdmaBuffer.Lib.Table
import RdmaBuffer.Model.Enums
import RdmaBuffer.Model.Identity
import RdmaBuffer.Model.Checks
import RdmaBuffer.Model.Records
import RdmaBuffer.Model.Accounting
import RdmaBuffer.Model.Explain
import RdmaBuffer.Backend.Interface
import RdmaBuffer.Lib.Ledger
import RdmaBuffer.Backend.Attached
import RdmaBuffer.Persistence.Format
import RdmaBuffer.Registry.TwoPhase
import RdmaBuffer.Runtime.System
import RdmaBuffer.Runtime.Effects
import RdmaBuffer.Runtime.Sections
import RdmaBuffer.Runtime.RecordStep
import RdmaBuffer.Registry.Access
import RdmaBuffer.Runtime.Execution
import RdmaBuffer.Safety.DeregisterAccess
import RdmaBuffer.Safety.Incarnation
import RdmaBuffer.Safety.SingleFlight
import RdmaBuffer.Lib.Word
import RdmaBuffer.Runtime.InFlight
import RdmaBuffer.Runtime.Lifespan
import RdmaBuffer.Safety.Retirement
import RdmaBuffer.Safety.Identity
import RdmaBuffer.Backend.View
import RdmaBuffer.Runtime.Sequential
import RdmaBuffer.Safety.CommitAuthority
import RdmaBuffer.Runtime.Usable
import RdmaBuffer.Runtime.Ledgers
import RdmaBuffer.Safety.AllowSound
import RdmaBuffer.Runtime.Counting
import RdmaBuffer.Runtime.Audit
import RdmaBuffer.Runtime.AuditStep
import RdmaBuffer.Safety.Accounting
import RdmaBuffer.Safety.BufferBounds
import RdmaBuffer.Lib.Matching
import RdmaBuffer.Runtime.Mirror
import RdmaBuffer.Safety.Coherence
import RdmaBuffer.Lib.Codec
import RdmaBuffer.Lib.Crc
import RdmaBuffer.Persistence.Codec
import RdmaBuffer.Persistence.RecordCodec
import RdmaBuffer.Persistence.Acceptance
import RdmaBuffer.Persistence.RoundTrip
import RdmaBuffer.Persistence.Truncation
import RdmaBuffer.Persistence.Canonical
import RdmaBuffer.Protocol.Frame
import RdmaBuffer.Protocol.Framing
import RdmaBuffer.Protocol.Corruption
import RdmaBuffer.Safety.Recovery
import RdmaBuffer.Registry.Save
import RdmaBuffer.Safety.SavedMaterial
import RdmaBuffer.Safety.SavedOrder
import RdmaBuffer.Safety.SavedFile
import RdmaBuffer.Safety.RecoveryMerge
import RdmaBuffer.Safety.AuthorityForward
import RdmaBuffer.Safety.SaveCycle
import RdmaBuffer.Safety.DomainReturn
import RdmaBuffer.Runtime.Leases
import RdmaBuffer.Safety.LeaseCounter
import RdmaBuffer.Runtime.Draining
import RdmaBuffer.Safety.LeaseTurnover
import RdmaBuffer.Safety.LeaseReferences
import RdmaBuffer.Safety.SoftRevocation
import RdmaBuffer.Runtime.Refusals
import RdmaBuffer.Safety.SlotLife
import RdmaBuffer.Safety.Transitions
import RdmaBuffer.Runtime.Handles
import RdmaBuffer.Safety.HardRevocation
import RdmaBuffer.Runtime.Apart
import RdmaBuffer.Safety.NicFence
import RdmaBuffer.Safety.Independence
import RdmaBuffer.Safety.StaleAuthority
import RdmaBuffer.Backend.Calls
import RdmaBuffer.Safety.BackendAgreement
import RdmaBuffer.Runtime.Extents
import RdmaBuffer.Safety.Eligibility
import RdmaBuffer.Safety.ReuseExtent
import RdmaBuffer.Lib.Files
import RdmaBuffer.Registry.SaveFile
import RdmaBuffer.Safety.SaveAtomic
import RdmaBuffer.Safety.FailureAtomic
import RdmaBuffer.Safety.RotationAgreement
import RdmaBuffer.Safety.RotationOrbit
import RdmaBuffer.Safety.Advertised
import RdmaBuffer.Safety.VerdictCount
import RdmaBuffer.Safety.RecoveredTeardown
import RdmaBuffer.Safety.BufferIds
import RdmaBuffer.Safety.DomainCount
import RdmaBuffer.Runtime.Tallies
import RdmaBuffer.Safety.BufferCount
import RdmaBuffer.Safety.LeaseGenerations
import RdmaBuffer.Safety.KeyCopies
import RdmaBuffer.Safety.KeyGenerations
import RdmaBuffer.Safety.RevokedTeardown
import RdmaBuffer.Safety.Currentness
import RdmaBuffer.Lib.Scan
import RdmaBuffer.Safety.Simulation
import RdmaBuffer.Safety.BackendIssue
import RdmaBuffer.Protocol.Payload
import RdmaBuffer.Protocol.DescriptorCodec
import RdmaBuffer.Protocol.Commands
import RdmaBuffer.Lib.Delimited
import RdmaBuffer.Persistence.Digest
import RdmaBuffer.Safety.RecoveryRetry
import RdmaBuffer.Safety.CommittedAnswer
import RdmaBuffer.Safety.RangeArithmetic
import RdmaBuffer.Lib.Program
import RdmaBuffer.Tools.Receiving
import RdmaBuffer.Protocol.OutParams
import RdmaBuffer.Tools.Worker
import RdmaBuffer.Tools.Coordinator
import RdmaBuffer.Tools.History
import RdmaBuffer.Tools.Fences
import RdmaBuffer.Tools.Conduct
import RdmaBuffer.Tools.Peers
import RdmaBuffer.Tools.Guarantees
import RdmaBuffer.Tools.Deployment
import RdmaBuffer.Tools.Dialogue
import RdmaBuffer.Tools.Scenario
import RdmaBuffer.Tools.Completion
import RdmaBuffer.Safety.Constancy
import RdmaBuffer.Tools.WorkerGuarantees
import RdmaBuffer.Safety.Attribution
import RdmaBuffer.Safety.LeaseHistory
