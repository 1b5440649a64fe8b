import WorkerPool.Proofs.Agreement
import WorkerPool.Proofs.Cadence
import WorkerPool.Proofs.Containment
import WorkerPool.Proofs.Deliveries
import WorkerPool.Proofs.Determinism
import WorkerPool.Proofs.Dismissal
import WorkerPool.Proofs.Finality
import WorkerPool.Proofs.Idleness
import WorkerPool.Proofs.InnerStop
import WorkerPool.Proofs.Overtaking
import WorkerPool.Proofs.Refusal
import WorkerPool.Proofs.Remains
import WorkerPool.Proofs.Shortage
import WorkerPool.Proofs.Snapshot
import WorkerPool.Proofs.Stranding
import WorkerPool.Session.Transcript
