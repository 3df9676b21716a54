import Dataflow.Script
import Dataflow.Proofs.Routing
import Dataflow.Proofs.Completion
import Dataflow.Proofs.Submission
import Dataflow.Proofs.Lifecycle
import Dataflow.Proofs.Frame
import Dataflow.Proofs.Failure
import Dataflow.Proofs.Requests
import Dataflow.Proofs.Ledger
import Dataflow.Proofs.Staging
import Dataflow.Proofs.Holdings
import Dataflow.Proofs.Accounting
import Dataflow.Proofs.Settling
import Dataflow.Proofs.Pipeline
import Dataflow.Proofs.Batching
import Dataflow.Proofs.Validation
import Dataflow.Proofs.Definition
import Dataflow.Proofs.Intake
import Dataflow.Proofs.Bookkeeping
import Dataflow.Proofs.Reducing
import Dataflow.Proofs.Shard
import Dataflow.Proofs.Scheduling
import Dataflow.Proofs.Retrying
import Dataflow.Proofs.Summing
import Dataflow.Proofs.Wire
import Dataflow.Proofs.Consensus
import Dataflow.Proofs.Slots
import Dataflow.Proofs.Teardown
