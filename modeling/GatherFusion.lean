import GatherFusion.Graph.Text
import GatherFusion.Pass.Pipeline
import GatherFusion.Proofs.Graph.Frame
import GatherFusion.Proofs.Graph.Mirror
import GatherFusion.Proofs.Reachable
import GatherFusion.Proofs.Lookup.Grammar
import GatherFusion.Proofs.Lookup.Recognition
import GatherFusion.Proofs.Lookup.Derivation
import GatherFusion.Proofs.Graph.Evolution
import GatherFusion.Proofs.Lookup.Persistence
import GatherFusion.Proofs.Lookup.Constraints
import GatherFusion.Proofs.Lookup.Acceptance
import GatherFusion.Proofs.Lookup.Readers
import GatherFusion.Proofs.Lookup.Verdict
import GatherFusion.Proofs.Lookup.Replacement
import GatherFusion.Proofs.Lookup.Performance
import GatherFusion.Proofs.Lookup.Progress
import GatherFusion.Proofs.Pass.Turn
import GatherFusion.Proofs.Lookup.Pending
import GatherFusion.Proofs.Pass.Report
import GatherFusion.Proofs.Pass.Repetition
import GatherFusion.Proofs.Pass.Honesty
import GatherFusion.Proofs.Meaning.Interpretation
import GatherFusion.Proofs.Graph.Acyclic
import GatherFusion.Proofs.Meaning.Denotation
import GatherFusion.Proofs.Meaning.Transport
import GatherFusion.Proofs.Lookup.Calibration
import GatherFusion.Proofs.Meaning.Decompression
import GatherFusion.Proofs.Meaning.Lookup
import GatherFusion.Proofs.Meaning.Preservation
import GatherFusion.Proofs.Graph.Atomicity
import GatherFusion.Proofs.Graph.Order
import GatherFusion.Proofs.Graph.LeastOrder
import GatherFusion.Proofs.Graph.Rewiring
import GatherFusion.Proofs.Lookup.Ancestry
import GatherFusion.Proofs.Lookup.Effect
import GatherFusion.Proofs.Lookup.Containment
import GatherFusion.Proofs.Pass.Cleanliness
import GatherFusion.Proofs.Lookup.Survival
import GatherFusion.Proofs.Pass.Overtaking
import GatherFusion.Proofs.Pass.Interference
import GatherFusion.Proofs.Pass.Faults
import GatherFusion.Proofs.Pass.Removals
import GatherFusion.Proofs.Pass.Convergence
import GatherFusion.Proofs.Pass.Liveness
import GatherFusion.Proofs.Graph.Commutation
import GatherFusion.Proofs.Meaning.Broadcasting
import GatherFusion.Proofs.Lookup.Commutation
import GatherFusion.Proofs.Pass.Commutation
import GatherFusion.Proofs.Graph.Construction
import GatherFusion.Proofs.Store.Ledger
import GatherFusion.Proofs.Payload.Fields
import GatherFusion.Proofs.Payload.Decoding
import GatherFusion.Proofs.Payload.RoundTrip
import GatherFusion.Proofs.Graph.Audit
import GatherFusion.Proofs.Graph.Constants
