import Dataflow.Schedule
import Dataflow.Submission
import Dataflow.Text.Uuid
/-!
Operations of workers on the network: defining a job (its id is the configured one, or `job-`
and a freshly drawn identifier), starting jobs, stepping a spout, and submitting a job to every worker of its list.
-/
namespace Dataflow

namespace Run

/-- Defines a job on a worker and returns its id. Every executor made gets a freshly drawn
identifier, whichever worker and job it belongs to. -/
def defineJob (w : Nat) (d : JobDefinition) : Run String := do
  let s ← get
  let wk ← worker w
  let config := wk.jobConfig d.config
  let (id, fresh) := match config.jobId? with
    | some id => (id, false)
    | none => ("job-" ++ Uuid.fresh (s.serial + 1), true)
  let name (n : Nat) : String := Uuid.executor (s.made + n + 1)
  if let .error f := wk.allowsJob id then throw f
  match Job.instantiate s.disk name id config d.topology with
  | .done j =>
    modifyWorker w fun wk => wk.install id j
    modify fun s => { s with made := s.made + j.executorCount }
    if fresh then modify fun s => { s with serial := s.serial + 1 }
    return id
  | .failed f made =>
    modifyWorker w fun wk => wk.discard made
    modify fun s => { s with made := s.made + made.executorCount }
    throw f
  | .overflowed m => crash m

/-- Starts a job on a worker, or every job not started yet; returns how many were started. -/
def runJob (w : Nat) (job? : Option String) : Run Nat := do
  let wk ← worker w
  match job? with
  | some id =>
    match wk.startJob id with
    | .ok wk => modifyWorker w fun _ => wk; return 1
    | .error f => throw f
  | none =>
    let (n, wk) := wk.startPending
    modifyWorker w fun _ => wk
    return n

def jobOf (w : Nat) (id : String) : Run Job := do
  match (← worker w).job id with
  | .ok j => pure j
  | .error f => throw f

def stepSpout (w : Nat) (id : String) (k : Nat) : Run Bool := do
  let j ← jobOf w id
  if k < j.spouts.length then spoutStep deliver ⟨w, id⟩ k
  else crash (outOfRange j.spouts.length k)

/-- The worker listening at an address, or the connection failure of a request to `url`. -/
def reach (address url : String) : Run Nat := do
  let s ← get
  match s.link, s.workerAt? address with
  | .unreachable, _ | _, none => throw (.http 0 (refusedText url))
  | _, some w => pure w

/-- Submits a job to every worker of its list, as a master does: defines it on each worker in
list order, then starts it on each; the first refusal stops the submission. Returns the job id. -/
def submitJob (topology : Topology) (config : JobConfig) : Run String := do
  let fresh := "job-" ++ Uuid.fresh ((← get).serial + 1)
  let plan ← MonadExcept.ofExcept (Submission.plan topology config fresh)
  if config.jobId?.isNone then modify fun s => { s with serial := s.serial + 1 }
  for (address, d) in plan.definitions do
    let w ← reach address s!"{address}/definejob"
    tryCatch (discard (defineJob w d)) fun f => throw (Submission.refusal address "definejob" f)
  for (address, _) in plan.definitions do
    let w ← reach address s!"{address}/runjob?job={formEncode plan.job}"
    tryCatch (discard (runJob w (some plan.job))) fun f => throw (Submission.refusal address "runjob" f)
  return plan.job

end Run

end Dataflow
