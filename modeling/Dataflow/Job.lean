import Dataflow.Executor
import Dataflow.Router
import Dataflow.Context
import Dataflow.Registry
import Dataflow.Topology
/-!
Jobs on one worker: a topology instantiated as executors, wired by routers, sharing one context.

Instantiating a topology makes, in node-name order, every task of every spout (opened as it is
made) and then every task of every bolt (expecting one end-of-stream vote from every feeding
executor on every worker), then one router per bolt, whose senders go to the other workers in
worker order and which feeds every executor of the bolt's input node. The first failure stops
the instantiation, and what was made before it is taken down again. Tasks are made one by one,
so a node that cannot be made fails at its first task, however many it declares.
-/
namespace Dataflow

structure Job where
  topology : Topology
  context : JobContext
  spouts : List SpoutExecutor := []
  bolts : List BoltExecutor := []
  routers : List (String × Router) := []
  deriving Inhabited

namespace Job

def router? (j : Job) (stream : String) : Option Router := j.routers.lookup stream

def setRouter (j : Job) (stream : String) (r : Router) : Job :=
  { j with routers := j.routers.map fun (s, r') => if s = stream then (s, r) else (s, r') }

def feed (j : Job) (input stream : String) : Job :=
  { j with
    spouts := j.spouts.map fun s => if s.node = input then { s with routes := s.routes ++ [stream] } else s
    bolts := j.bolts.map fun b => if b.node = input then { b with routes := b.routes ++ [stream] } else b }

/-- Applies `f` to the items in order until it fails: the results before the failure, and the
failure if there was one. -/
def buildEach {α β ε : Type} (f : α → Except ε β) : List α → List β × Option ε
  | [] => ([], none)
  | a :: rest =>
    match f a with
    | .error e => ([], some e)
    | .ok b => let (bs, e) := buildEach f rest; (b :: bs, e)

/-- Makes the tasks `0, 1, ...` of one node in order until one fails. The first task is made
before the others are even listed, so a node whose component cannot be made fails at once
whatever its parallelism. -/
def buildTasks {β ε : Type} (f : Nat → Except ε β) (count : Nat) : List β × Option ε :=
  match count with
  | 0 => ([], none)
  | rest + 1 =>
    match f 0 with
    | .error e => ([], some e)
    | .ok b => let (bs, e) := buildEach f ((List.range rest).map (· + 1)); (b :: bs, e)

/-- Makes the tasks of nodes in order until one fails, appending to `made`; `f` is told how many
executors were made before the node's first task. -/
def buildNodes {δ β ε : Type} (parallelism : δ → Nat) (f : Nat → String → δ → Nat → Except ε β) :
    List (String × δ) → List β → List β × Option ε
  | [], made => (made, none)
  | (node, d) :: rest, made =>
    match buildTasks (f made.length node d) (parallelism d) with
    | (bs, some e) => (made ++ bs, some e)
    | (bs, none) => buildNodes parallelism f rest (made ++ bs)

def spoutExecutor (disk : Storage) (name : Nat → String) (j : Job) (before : Nat) (node : String)
    (d : SpoutDecl) (task : Nat) : Except Fault SpoutExecutor := do
  let plan ← Registry.makeSpout d.component j.context.config
  let logic ← Registry.openSpout plan j.context.config j.context.job task d.parallelism disk
  return { id := name (before + task), node, logic }

/-- Makes one task of a bolt expecting `expected` end-of-stream votes, the executor made after
`before` others. -/
def boltExecutor (name : Nat → String) (j : Job) (before : Nat) (node : String) (d : BoltDecl)
    (expected task : Nat) : Except Fault BoltExecutor := do
  let logic ← Registry.makeBolt d.component j.context.config
  return { id := name (before + task), node, logic, tally := { expected } }

def countLimit : Nat := Nat.pow 2 64 - 1

inductive Built where
  | done (j : Job)
  /-- A fault stopped the making; the job holds what was made before it. -/
  | failed (f : Fault) (soFar : Job)
  | overflowed (message : String)
  deriving Inhabited

/-- Makes the tasks of the bolt nodes in order, appending to the job's bolts. Each node's tasks
expect one vote from every executor of its input node on every worker; a count beyond 64 bits
is an overflow, found before the node's tasks are made. -/
def buildBolts (workers : Nat) (name : Nat → String) :
    Job → List (String × BoltDecl) → Built
  | j, [] => .done j
  | j, (node, d) :: rest =>
    let expected := ((j.topology.parallelism d.input).getD 0) * workers
    if expected > countLimit then .overflowed "attempt to multiply with overflow"
    else
      match buildTasks (boltExecutor name j (j.spouts.length + j.bolts.length) node d expected)
          d.parallelism with
      | (bs, some f) => .failed f { j with bolts := j.bolts ++ bs }
      | (bs, none) => buildBolts workers name { j with bolts := j.bolts ++ bs } rest

def boltsOf (j : Job) (node : String) : List Nat :=
  (List.range j.bolts.length).filter fun i => (j.bolts.getD i default).node = node

/-- The senders of a stream on the worker at `position`: one for every other worker of the list,
in worker order. -/
def peerSenders (addresses : List String) (position batch : Nat) (job stream : String) : List Sender :=
  ((List.range addresses.length).filter (· ≠ position)).map fun i =>
    Sender.make (addresses.getD i "") job stream batch

/-- The router of a bolt node on the worker at `position`: the node's local executors, then a
sender to every other worker. -/
def streamRouter (addresses : List String) (position batch : Nat) (job node : String)
    (grouping : Grouping) (locals : List Nat) : Router :=
  Router.make node grouping locals (peerSenders addresses position batch job node) position

def wire (addresses : List String) (position batch : Nat) (j : Job) : Job :=
  j.topology.bolts.foldl (fun j (node, d) =>
    let r := streamRouter addresses position batch j.context.job node d.grouping (j.boltsOf node)
    let j := { j with routers := j.routers ++ [(node, r)] }
    j.feed d.input node) j

/-- Instantiates a topology for a job; `name n` is the id of the executor made after `n` others.
On a failure the job as far as it was built comes with the fault, so that what was opened can
be closed. -/
def instantiate (disk : Storage) (name : Nat → String) (jobId : String)
    (config : JobConfig) (topology : Topology) : Built :=
  let empty : Job := { topology, context := { job := jobId, config } }
  let checked : Except Fault (List String × Nat × Nat) := do
    topology.validate
    return (← config.workers, ← config.workerIndex, ← config.batchSize)
  match checked with
  | .error f => .failed f empty
  | .ok (addresses, position, batch) =>
    match buildNodes (·.parallelism) (spoutExecutor disk name empty) topology.spouts [] with
    | (spouts, some f) => .failed f { empty with spouts }
    | (spouts, none) =>
      match buildBolts addresses.length name { empty with spouts } topology.bolts with
      | .done j =>
        let j := wire addresses position batch j
        .done { j with context := j.context.expect (j.spouts.length + j.bolts.length) }
      | other => other

def executorCount (j : Job) : Nat := j.spouts.length + j.bolts.length

def executorIds (j : Job) : List String := j.spouts.map (·.id) ++ j.bolts.map (·.id)

/-- The components made for a job, in the order they were made: spouts opened, then bolts
prepared. -/
def opening (j : Job) : List Lifecycle :=
  j.spouts.map (.opened ·.id) ++ j.bolts.map (.prepared ·.id)

def closing (j : Job) : List Lifecycle :=
  j.bolts.map (.cleanedUp ·.id) ++ j.spouts.map (.closed ·.id)

def allSentEos (j : Job) : Bool := j.spouts.all (·.sentEos) && j.bolts.all (·.sentEos)

/-- The one-line summary of a job: phase, map and reduce counters, results, errors, and the
failed and complete marks. -/
def summary (j : Job) : String :=
  let c := j.context
  s!"{c.phase.name} m{c.mapInputs}/{c.mapOutputs} r{c.reduceInputs}/{c.reduceOutputs} res{c.results.length} err{c.errors.length}"
    ++ (if c.failed then " FAILED" else "") ++ (if c.complete then " COMPLETE" else "")

end Job

end Dataflow
