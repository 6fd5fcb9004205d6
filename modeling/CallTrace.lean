import CallTrace.Main
import CallTrace.Proofs.Duality
import CallTrace.Proofs.Guarded
import CallTrace.Proofs.Ledger
import CallTrace.Proofs.Pruning
import CallTrace.Proofs.Saturation
import CallTrace.Proofs.StoreAgreement
import CallTrace.Proofs.QueryLog
import CallTrace.Proofs.Disturbance
import CallTrace.Proofs.Interleaving
import CallTrace.Proofs.BothDirections
import CallTrace.Proofs.TraceReferences
import CallTrace.Proofs.StorageOrder
import CallTrace.Proofs.Effects
import CallTrace.Proofs.Exchanges
import CallTrace.Proofs.Comparison
import CallTrace.Proofs.Likeness
import CallTrace.Proofs.Restart
import CallTrace.Proofs.FrontEnds
import CallTrace.Proofs.CaseSensitivity
import CallTrace.Proofs.DepthBounds
import CallTrace.Proofs.Framing
import CallTrace.Proofs.ByteOrder
import CallTrace.Proofs.Catalogue
import CallTrace.Proofs.ImportLaws
import CallTrace.Proofs.SchemaVersion
import CallTrace.Proofs.Separation
import CallTrace.Proofs.SessionReuse
import CallTrace.Proofs.Ranking
import CallTrace.Proofs.Lookup
import CallTrace.Proofs.EveryNode
import CallTrace.Proofs.Recount
import CallTrace.Proofs.Outline
import CallTrace.Proofs.Formats
import CallTrace.Proofs.BestImplementation
import CallTrace.Proofs.Rereading
import CallTrace.Proofs.Representation
import CallTrace.Proofs.ReferencePages
import CallTrace.Proofs.ReplySize
import CallTrace.Proofs.PlainScan
