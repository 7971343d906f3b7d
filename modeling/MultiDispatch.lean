import MultiDispatch.Realm
import MultiDispatch.Declarations
import MultiDispatch.Inspect
import MultiDispatch.Settings.Load
import MultiDispatch.Proofs.Recognition
import MultiDispatch.Proofs.Selection
import MultiDispatch.Proofs.Soundness
import MultiDispatch.Proofs.Layout
import MultiDispatch.Proofs.Widening.SingleHop
import MultiDispatch.Proofs.TypeSet
import MultiDispatch.Proofs.Widening.Shortest
import MultiDispatch.Proofs.Scan
import MultiDispatch.Proofs.Widening.Reach
import MultiDispatch.Proofs.Wiring
import MultiDispatch.Proofs.Order
import MultiDispatch.Proofs.Registry.Growth
import MultiDispatch.Proofs.Registry.Atomic
import MultiDispatch.Proofs.Registry.Repetition
import MultiDispatch.Proofs.Widening.Monotone
import MultiDispatch.Proofs.Locality
import MultiDispatch.Proofs.Meaning
import MultiDispatch.Proofs.Guarding
import MultiDispatch.Proofs.Reordering
import MultiDispatch.Proofs.Naming
import MultiDispatch.Proofs.Ownership
import MultiDispatch.Proofs.Occurrence
import MultiDispatch.Proofs.Convention
import MultiDispatch.Proofs.Diagnosis
import MultiDispatch.Proofs.Interleaving
import MultiDispatch.Proofs.Identity
import MultiDispatch.Proofs.Seeding
import MultiDispatch.Proofs.Registry.Batching
import MultiDispatch.Proofs.Consistency
import MultiDispatch.Proofs.Toml.Keys
import MultiDispatch.Proofs.Decoding
import MultiDispatch.Proofs.Redundancy
