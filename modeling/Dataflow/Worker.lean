import Dataflow.Job
import Dataflow.Settings
import Dataflow.Status
/-!
Workers: one process of the runtime, holding the jobs defined on it, by id. A worker knows its
port and address, its storage directory (added to every job configuration that lacks one), the
job defined last, and for each job the end-of-stream marks already delivered per stream and
source, so that a repeated end of stream from a peer is dropped. A worker that is shutting down
accepts no new job.
-/
namespace Dataflow

structure Worker where
  port : Nat
  address : String
  storage : Option String := none
  settings : Settings := {}
  jobs : List (String × Job) := []
  lastJob : Option String := none
  /-- Per job, the streams and sources whose end of stream was delivered. -/
  eosSeen : List (String × List (String × String)) := []
  accepting : Bool := true
  healthy : Bool := true
  threads : Nat := 1
  /-- Where the pool's next look for a task starts, counted in jobs. -/
  cursor : Nat := 0
  /-- The lives of the components of every job defined here, in order. -/
  lifecycle : List Lifecycle := []
  deriving Inhabited

namespace Worker

def job? (w : Worker) (id : String) : Option Job := w.jobs.lookup id

def job (w : Worker) (id : String) : Except Fault Job :=
  match w.job? id with
  | some j => .ok j
  | none => .error (.jobNotFound id)

def modifyJob (w : Worker) (id : String) (f : Job → Job) : Worker :=
  { w with jobs := Keyed.modify id f w.jobs }

def jobIds (w : Worker) : List String := w.jobs.map (·.1)

def latest? (w : Worker) : Option Job := w.lastJob.bind w.job?

def eosDelivered (w : Worker) (job stream source : String) : Bool :=
  ((w.eosSeen.lookup job).getD []).contains (stream, source)

def markEos (w : Worker) (job stream source : String) : Worker :=
  { w with eosSeen := Keyed.insert job (((w.eosSeen.lookup job).getD []) ++ [(stream, source)]) w.eosSeen }

/-- The configuration of a job defined here: the worker's storage directory is added unless the
job brings its own. -/
def jobConfig (w : Worker) (c : JobConfig) : JobConfig :=
  match w.storage with
  | some dir => if c.contains JobConfig.storageKey then c else c.insert JobConfig.storageKey dir
  | none => c

/-- Whether a job may be added under an id: not while shutting down, nor when the id is taken. -/
def allowsJob (w : Worker) (id : String) : Except Fault Unit := do
  if !w.accepting then throw .shuttingDown
  if (w.job? id).isSome then throw (.config s!"job '{id}' is already defined")

def install (w : Worker) (id : String) (j : Job) : Worker :=
  { w with jobs := Keyed.insert id j w.jobs, lastJob := some id, eosSeen := Keyed.erase id w.eosSeen,
           lifecycle := w.lifecycle ++ j.opening }

/-- Records a job whose instantiation failed: what it made is made and taken down again, and
nothing else changes. -/
def discard (w : Worker) (made : Job) : Worker :=
  { w with lifecycle := w.lifecycle ++ made.opening ++ made.closing }

/-- Starts a job: marks it started and queues one task per spout, unless it was started. -/
def startJob (w : Worker) (id : String) : Except Fault Worker := do
  let j ← w.job id
  let (first, c) := j.context.start
  let c := if first then { c with tasks := c.tasks ++ List.range j.spouts.length } else c
  return w.modifyJob id fun j => { j with context := c }

def startPending (w : Worker) : Nat × Worker :=
  let pending := (w.jobs.filter fun (_, j) => !j.context.started).map (·.1)
  (pending.length, pending.foldl (fun w id => (w.startJob id).toOption.getD w) w)

def removeJob (w : Worker) (id : String) : Except Fault Worker := do
  let j ← w.job id
  return { w with jobs := Keyed.erase id w.jobs, eosSeen := Keyed.erase id w.eosSeen,
                  lifecycle := w.lifecycle ++ j.closing }

/-- Stops the pool: no new jobs, and, if the pool was running, every job is dropped, all bolts
of all jobs being cleaned up before any spout is closed. -/
def shutdown (w : Worker) : Worker :=
  let w := { w with accepting := false, healthy := false }
  if w.threads = 0 then w
  else
    let jobs := w.jobs.map (·.2)
    let down := jobs.flatMap (fun j => j.bolts.map (.cleanedUp ·.id)) ++
      jobs.flatMap (fun j => j.spouts.map (.closed ·.id))
    { w with threads := 0, jobs := [], lifecycle := w.lifecycle ++ down }

def status (w : Worker) : WorkerStatus :=
  match w.latest? with
  | none => WorkerStatus.idle w.port
  | some j =>
    let (read, written) := j.context.progress
    { port := w.port, phase := j.context.phase, job := j.context.job, keysRead := read,
      keysWritten := written, results := j.context.results.take WorkerStatus.resultLimit }

end Worker

end Dataflow
