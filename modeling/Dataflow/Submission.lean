import Dataflow.Definition
import Dataflow.Json.Write
/-!
Submitting a job to a group of workers: the job is checked once and given one id, and every worker
of its list is sent the same topology with a configuration naming the job and the worker's own
position in the list. A worker that refuses answers with the status of its fault and a JSON body
holding the fault's code and message.
-/
namespace Dataflow

structure Submission where
  job : String
  /-- Per worker address, in list order, the definition sent there. -/
  definitions : List (String × JobDefinition)
  deriving Inhabited

namespace Submission

/-- Plans the submission of a topology with a configuration: the topology must be valid and the
worker list readable; the job id is the configured one, else `fresh`; the worker at position `i`
gets the configuration with the id under `job` and `i` under `workerIndex`. -/
def plan (topology : Topology) (config : JobConfig) (fresh : String) : Except Fault Submission := do
  topology.validate
  let workers ← config.workers
  let job := config.jobId?.getD fresh
  let base := config.insert JobConfig.jobKey job
  return { job, definitions := (List.range workers.length).zip workers |>.map fun (i, address) =>
    (address, { topology, config := base.insert JobConfig.workerIndexKey (toString i) }) }

def refusalBody (f : Fault) : String :=
  Json.render (.obj [("code", .str f.code), ("error", .str f.message)])

/-- The fault of a request `what` that the worker at `address` refused with fault `f`. -/
def refusal (address what : String) (f : Fault) : Fault :=
  .http f.httpStatus s!"{what} on {address} failed: {refusalBody f}"

end Submission

/-- Text in a query string: ASCII letters, digits and `*-._` stay, a blank becomes `+`, and every
other byte of the UTF-8 encoding is written `%XX` with uppercase hex digits. -/
def formEncode (s : String) : String :=
  let hex (n : Nat) : Char := "0123456789ABCDEF".toList.getD n '0'
  s.toUTF8.toList.foldl (fun acc b =>
    let c := Char.ofNat b.toNat
    if b.toNat < 128 && (c.isAlphanum || "*-._".toList.contains c) then acc.push c
    else if b.toNat = 32 then acc.push '+'
    else (acc.push '%').push (hex (b.toNat / 16)) |>.push (hex (b.toNat % 16))) ""

end Dataflow
