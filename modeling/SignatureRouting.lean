import SignatureRouting.Application
import SignatureRouting.Automaton.Cursor
import SignatureRouting.Error.Named
import SignatureRouting.Rendering
import SignatureRouting.Storage
import SignatureRouting.Value.Order
import SignatureRouting.Workflow
import SignatureRouting.Proofs.Quota
import SignatureRouting.Proofs.Recording
import SignatureRouting.Proofs.Acceptance
import SignatureRouting.Proofs.Progress
import SignatureRouting.Proofs.Run
import SignatureRouting.Proofs.Outcome
import SignatureRouting.Proofs.Coherence
import SignatureRouting.Proofs.Emission
import SignatureRouting.Proofs.Ledger
import SignatureRouting.Proofs.Reload
import SignatureRouting.Proofs.Reachable
import SignatureRouting.Proofs.Session
import SignatureRouting.Proofs.Blocking
import SignatureRouting.Proofs.Exhaustion
import SignatureRouting.Proofs.Played
import SignatureRouting.Proofs.Shares
import SignatureRouting.Proofs.Passing
import SignatureRouting.Proofs.Deadlock
import SignatureRouting.Proofs.Continuation
import SignatureRouting.Proofs.Lockstep
import SignatureRouting.Proofs.Dispatch
import SignatureRouting.Proofs.Layout
import SignatureRouting.Proofs.Turns
import SignatureRouting.Proofs.Frontier
import SignatureRouting.Proofs.Ending
import SignatureRouting.Proofs.Offers
import SignatureRouting.Proofs.Resumption
import SignatureRouting.Proofs.Duties
import SignatureRouting.Proofs.Planning
import SignatureRouting.Proofs.Compilation
import SignatureRouting.Proofs.Phases
import SignatureRouting.Proofs.Entitlement
import SignatureRouting.Proofs.Concatenation
import SignatureRouting.Proofs.Shape
import SignatureRouting.Proofs.Faults
import SignatureRouting.Proofs.Screening
import SignatureRouting.Proofs.Loading
import SignatureRouting.Proofs.Rearrangement
import SignatureRouting.Proofs.RoundTrip
import SignatureRouting.Proofs.Soundness
import SignatureRouting.Proofs.Refusals
import SignatureRouting.Proofs.Retirement
import SignatureRouting.Proofs.Commutation
import SignatureRouting.Proofs.Strictness
import SignatureRouting.Proofs.Requests
import SignatureRouting.Proofs.Frame
import SignatureRouting.Proofs.Budget
import SignatureRouting.Proofs.Extension
import SignatureRouting.Proofs.Involvement
import SignatureRouting.Proofs.Starting
import SignatureRouting.Proofs.Classification
import SignatureRouting.Proofs.Lowering
import SignatureRouting.Proofs.Normalization
import SignatureRouting.Proofs.Recollection
import SignatureRouting.Proofs.Grammar
