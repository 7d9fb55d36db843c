import SchemaNet.Main
import SchemaNet.Network.Footprint
import SchemaNet.Network.Store
import SchemaNet.Proofs.Inspect.Listing
import SchemaNet.Proofs.Network.AllocationDraws
import SchemaNet.Proofs.Network.BatchRows
import SchemaNet.Proofs.Network.BlockLookup
import SchemaNet.Proofs.Network.CanonicalPositions
import SchemaNet.Proofs.Network.EmptyPools
import SchemaNet.Proofs.Network.ExactSoftmax
import SchemaNet.Proofs.Network.FlatEvaluation
import SchemaNet.Proofs.Network.FlatRoundTrip
import SchemaNet.Proofs.Network.ForeignSnapshots
import SchemaNet.Proofs.Network.GreedyPolicy
import SchemaNet.Proofs.Network.LayeredBlocks
import SchemaNet.Proofs.Network.MaskedSoftmax
import SchemaNet.Proofs.Network.Merge
import SchemaNet.Proofs.Network.PoolMaximum
import SchemaNet.Proofs.Network.PoolPad
import SchemaNet.Proofs.Network.Provenance
import SchemaNet.Proofs.Network.ReceptiveField
import SchemaNet.Proofs.Network.Refinement
import SchemaNet.Proofs.Network.Renaming
import SchemaNet.Proofs.Network.SnapshotMatching
import SchemaNet.Proofs.Network.SnapshotText
import SchemaNet.Proofs.Network.StoreRuns
import SchemaNet.Proofs.Network.Totality
import SchemaNet.Proofs.Network.TrainingDraws
import SchemaNet.Proofs.Planning.Binding
import SchemaNet.Proofs.Planning.EntityIdentity
import SchemaNet.Proofs.Planning.Extraction
import SchemaNet.Proofs.Planning.FreeArguments
import SchemaNet.Proofs.Planning.IndexedDomain
import SchemaNet.Proofs.Planning.ListingOrder
import SchemaNet.Proofs.Planning.RebuiltMetadata
import SchemaNet.Proofs.Planning.RepresentedInstance
import SchemaNet.Proofs.Planning.Transposition
import SchemaNet.Proofs.Planning.WellFormed
