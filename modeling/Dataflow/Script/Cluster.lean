import Dataflow.Script.Flow
import Dataflow.Script.Graph
import Dataflow.Cluster
import Dataflow.Text.Uuid
/-!
Requests on a network of workers: jobs are defined, fed, stepped, drained, run by the pool,
inspected and removed, operation by operation. Each operation is answered with its result, the
hand-overs it began and a one-line summary of every job on every worker.

Workers either reach each other directly, by address, or find every connection refused; in the
second case the workers listen on local ports, addressed in the request as `{w0}`, `{w1}`, ...,
`{master}` and `{dead}`, and the answer names them the same way.
-/
namespace Dataflow.Script

def stateJson (w : World) : Json :=
  .arr (w.workers.map fun wk => .obj (wk.jobs.map fun (id, j) => (id, .str j.summary)))

def addUp (xs : List Nat) : Nat := xs.foldl (· + ·) 0

def handoverJson (d : Delivery) : Json :=
  .obj [("kind", .str (if d.kind = .batch then "push_batch" else "push")), ("to", .str d.address),
    ("job", .str d.job), ("stream", .str d.stream), ("tuples", .nat d.tuples.length),
    ("eos", .nat (d.tuples.filter (·.endOfStream)).length)]

/-- The places of some executors of a job on worker `wi`, given their nodes in order:
`w<worker>/<job>/<node>#<k>`, where `k` counts the executors of the same node before it. -/
def placesOf (wi : Nat) (job : String) (nodes : List String) : List String :=
  (nodes.foldl (fun (acc : List String × List (String × Nat)) node =>
    let k := (acc.2.lookup node).getD 0
    (s!"w{wi}/{job}/{node}#{k}" :: acc.1, (node, k + 1) :: acc.2)) ([], [])).1.reverse

/-- The places of a job's executors on worker `wi`, spouts then bolts, each counted apart, with
the job shown as given. -/
def executorPlaces (wi : Nat) (job : String) (j : Job) : List String :=
  placesOf wi job (j.spouts.map (·.node)) ++ placesOf wi job (j.bolts.map (·.node))

def jobReport (wi : Nat) (j : Job) (extra : Bool) : Json :=
  let spoutPlaces := placesOf wi j.context.job (j.spouts.map (·.node))
  let boltPlaces := placesOf wi j.context.job (j.bolts.map (·.node))
  let base := contextMembers j.context ++
    [("spouts", .arr ((j.spouts.zip spoutPlaces).map fun (s, place) => .arr [.str place, .bool s.sentEos])),
     ("bolts", .arr ((j.bolts.zip boltPlaces).map fun (b, place) =>
        .arr [.str place, .nat b.tally.votes, .nat b.tally.expected, .bool b.sentEos]))]
  if !extra then .obj base
  else .obj (base ++
    [("routers", .arr ((j.spouts.map fun s => Json.nat s.routes.length) ++ j.bolts.map fun b => .nat b.routes.length)),
     ("queue_empty", .bool j.context.tasks.isEmpty), ("collector_job", .str j.context.job),
     ("streams", .arr (j.topology.bolts.map fun (n, _) => .arr [.str n, .bool (j.router? n).isSome]))])

/-- A router's grouping and slots on worker `wi`, naming local executors by place and peers by
address. -/
def routerReport (wi : Nat) (j : Job) (r : Router) : Json :=
  let places := placesOf wi j.context.job (j.bolts.map (·.node))
  .obj [("grouping", r.grouping.toJson), ("slots", .strs (r.slots.map fun s => match s with
    | .mine i => places.getD (r.locals.getD i 0) ""
    | .peer k => "remote:" ++ (r.senders.getD k default).address))]

def poolJson (wk : Worker) : Json :=
  .obj [("healthy", .bool wk.healthy), ("threads", .nat wk.threads), ("jobs", .strs wk.jobIds)]

def sortedResults (rs : List (String × String)) : Json :=
  .arr ((rs.mergeSort fun a b => a.1 < b.1 || (a.1 = b.1 && a.2 ≤ b.2)).map fun (k, v) => .strs [k, v])

/-- Reads the definition a `define` operation gives: `raw` text holding the whole definition, or
else its configuration and then a topology, a builder, or the map/reduce pipeline. -/
def definitionOf (op : Json) : Step (Except Fault JobDefinition) := do
  match member? op "raw" with
  | some (.str raw) => return (JobDefinition.readText raw).mapError Fault.ofRead
  | some _ => throw (.malformed "raw must be a string")
  | none => pure ()
  match JobConfig.readJson ((member? op "config").getD (.obj [])) with
  | .error e => return .error (Fault.ofRead e)
  | .ok config =>
  if let some t := member? op "topology" then
    return ((Topology.readJson t).mapError Fault.ofRead).map fun t => ⟨t, config⟩
  if let some b := member? op "builder" then
    return ((← builderOf b).create).map fun t => ⟨t, config⟩
  return (mapReduceTopology config).map fun t => ⟨t, config⟩

def drainJson : DrainEnd → Json
  | .finished n => ok (.obj [("finished", .bool true), ("steps", .nat n)])
  | .stopped n => ok (.obj [("finished", .bool false), ("steps", .nat n)])
  | .failed p k n f => .obj [("error", .str f.code), ("message", .str f.message),
      ("at", .obj [("worker", .nat p.worker), ("spout", .nat k), ("step", .nat n)])]

def unsentText (url : String) : String := s!"error sending request for url ({url})"

def awaitJson (c : JobContext) : Json := resultOf c.outcome Json.bool

def waitMs (op : Json) : Step Nat := do return min 200 (← countOr op "ms" 10)

/-- One operation on the network, addressed to worker `wi`: its result and the network after
it. `master` tells whether a master listens. -/
def clusterOp (addressOf : String → Option String) (listening master : Bool) (w : World)
    (kind : String) (wi : Nat) (wk : Worker) (extra : Bool) (op : Json) : Step (Json × World) := do
  let jobName := (looseText? op "job").getD ""
  let withJob (f : Job → Step Json) : Step (Json × World) := do
    match wk.job jobName with
    | .ok j => return (← f j, w)
    | .error e => return (faultJson e, w)
  match kind with
  | "define" =>
    match ← definitionOf op with
    | .error f => return (faultJson f, w)
    | .ok d =>
      let (r, w) ← runOn w (Run.defineJob wi d)
      return (resultOf r Json.str, w)
  | "push" =>
    let job? := looseText? op "job"
    let made ← (← items op "tuples").mapM tuple
    let failures := made.filterMap fun t => match t with
      | .error f => some f
      | .ok _ => none
    match failures.getLast? with
    | some f => return (tupleFailure f, w)
    | none =>
      let stream ← text op "stream"
      let tuples := made.filterMap fun t => t.toOption
      let (r, w) ← runOn w (push deliver wi job? stream tuples)
      return (resultOf r fun _ => Json.null, w)
  | "step" =>
    let k ← countOr op "spout" 0
    match wk.job jobName with
    | .error f => return (faultJson f, w)
    | .ok j =>
      if j.spouts.length ≤ k then throw (.malformed "spout index out of range")
      let (r, w) ← runOn w (Run.stepSpout wi jobName k)
      return (resultOf r Json.bool, w)
  | "drain" =>
    let some id := looseText? op "job" | throw (.malformed "drain needs job")
    let limit ← countOr op "max_steps" 2000
    let (r, w) ← runOn w (drain (w.spoutsOf id) limit)
    return (match r with
      | .ok e => drainJson e
      | .error f => faultJson f, w)
  | "mark_started" =>
    let id := jobName
    match wk.job id with
    | .error f => return (faultJson f, w)
    | .ok j =>
      let (first, c) := j.context.start
      let (_, w) ← runOn w (Run.modifyContext ⟨wi, id⟩ fun _ => c)
      return (ok (.bool first), w)
  | "status" =>
    let s := wk.status
    return (ok (.obj [("status", s.toJson), ("beacon", s.beacon.toJson)]), w)
  | "context" =>
    withJob fun j => pure (ok (jobReport wi j extra))
  | "router" =>
    let stream ← text op "stream"
    let found := (wk.job? jobName).bind fun j => (j.router? stream).map (j, ·)
    return (ok (match found with
      | some (j, r) => routerReport wi j r
      | none => .null), w)
  | "await" =>
    let _ ← waitMs op
    withJob fun j => pure (awaitJson j.context)
  | "shutdown" | "shutdown_drain" =>
    if kind = "shutdown_drain" then discard (waitMs op)
    let wk := wk.shutdown
    return (ok (poolJson wk), { w with workers := w.workers.set wi wk })
  | "remove" =>
    match wk.removeJob jobName with
    | .ok wk => return (ok .null, { w with workers := w.workers.set wi wk })
    | .error f => return (faultJson f, w)
  | "job_ids" => return (ok (.strs wk.jobIds), w)
  | "last_job" => return (ok (Json.strOpt (wk.latest?.map (·.context.job))), w)
  | "files" => return (ok (filesJson w.disk), w)
  | "request" =>
    if !listening then throw (.malformed "request needs transport http")
    let target ← textOr op "target" ""
    let path ← textOr op "path" "/"
    let host := (addressOf target).getD target
    let path := if path.startsWith "/" then path else "/" ++ path
    return (.obj [("error", .str "request_failed"), ("message", .str (unsentText s!"http://{host}{path}"))], w)
  | "board" =>
    if !master then throw (.malformed "board needs a master")
    return (ok (.obj [("active", .arr []), ("worker_list", .null)]), w)
  | "await_all" =>
    let id := (looseText? op "job").getD ""
    let _ ← waitMs op
    let per := w.workers.map fun wk => match wk.job? id with
      | none => Json.null
      | some j => .obj [("await", if j.context.started then awaitJson j.context else ok (.bool false)),
          ("phase", .str j.context.phase.name), ("results", sortedResults j.context.results)]
    let total := addUp (w.workers.filterMap fun wk => (wk.job? id).map (·.context.reduceOutputs))
    return (ok (.obj [("workers", .arr per), ("reduce_outputs_total", .nat total)]), w)
  | other => throw (.malformed s!"unknown cluster op '{other}'")

/-- Runs the pool after starting jobs on every worker, and reports the job asked for, or every
job when none is named; a report on a job that failed says only that. -/
def poolRunJson (w : World) (job? : Option String) : Step (Json × World) := do
  let (started, w) ← (List.range w.workers.length).foldlM (fun (acc : List Json × World) i => do
    let (out, w) := acc
    let (r, w) ← runOn w (Run.runJob i job?)
    return (out ++ [resultOf r Json.nat], w)) (([] : List Json), w)
  let (_, w) ← runOn w (runPool poolRounds)
  let reported (wk : Worker) : List (String × Job) := match job? with
    | some id => wk.jobs.filter (·.1 = id)
    | none => wk.jobs
  let jobs := w.workers.flatMap reported
  if jobs.any (·.2.context.failed) then
    return (ok (.obj [("started", .arr started), ("failed", .bool true)]), w)
  let workers := w.workers.map fun wk => Json.obj ((reported wk).map fun (id, j) => (id, .obj [
    ("await", awaitJson j.context), ("phase", .str j.context.phase.name),
    ("complete", .bool j.context.complete), ("reduce_inputs", .nat j.context.reduceInputs),
    ("reduce_outputs", .nat j.context.reduceOutputs), ("results", sortedResults j.context.results),
    ("eos_votes", .arr (j.bolts.map fun b => .arr [.nat b.tally.votes, .nat b.tally.expected])),
    ("sent_eos", .bool j.allSentEos)]))
  let ids := (jobs.map (·.1)).foldl (fun acc id => if acc.contains id then acc else acc ++ [id]) []
  let totals := Json.asMap (ids.map fun id =>
    let js := jobs.filter (·.1 = id)
    (id, .obj [("map_inputs", .nat (addUp (js.map (·.2.context.mapInputs)))),
      ("map_outputs", .nat (addUp (js.map (·.2.context.mapOutputs))))]))
  return (ok (.obj [("started", .arr started), ("workers", .arr workers), ("totals", .obj totals)]), w)

/-- Whether an operation is answered after a pool run: the others still act on the network,
but their answers would depend on how the pool's threads raced. -/
def answeredAfterPool (listening : Bool) (kind : String) : Bool :=
  kind = "job_ids" || kind = "last_job" || kind = "await_all" ||
    (listening && (kind = "request" || kind = "board"))

/-- One operation on the network, named by its kind in `do` and addressed to its worker in
`worker`, which must exist whatever the kind: its answer, the network after it, and whether a
pool run has happened. After a pool run every operation still acts, but only some are answered
(see `answeredAfterPool`), and none with the network's state. -/
def clusterStep (addressOf : String → Option String) (listening master : Bool) (op : Json)
    (w : World) (pooled : Bool) : Step (Json × World × Bool) := do
  let kind ← text op "do"
  let wi ← countOr op "worker" 0
  let some wk := w.workers[wi]? | throw (.malformed "worker index out of range")
  let extra ← flagOr op "extra" false
  if kind = "run" then
    let (res, w) ← poolRunJson w (looseText? op "job")
    return (.obj [("do", .str kind), ("result", res)], w, true)
  let before := w.handovers.length
  let (res, w) ← clusterOp addressOf listening master w kind wi wk extra op
  let answer := if !pooled then .obj [("do", .str kind), ("result", res),
      ("transport", .arr ((w.handovers.drop before).map handoverJson)), ("state", stateJson w)]
    else if answeredAfterPool listening kind then .obj [("do", .str kind), ("result", res)]
    else .obj [("do", .str kind), ("result", .str "unavailable after a pool run")]
  return (answer, w, pooled)

/-- Labels the executors of every job of every worker, worker by worker and jobs in id order,
by their places; the identifiers in a job id are named first, and the job's place shows them
named. An executor keeps the label it got first. -/
def nameExecutors (w : World) (n : Uuid.Naming) : Uuid.Naming :=
  (List.range w.workers.length).foldl (fun n wi =>
    let wk := w.workers.getD wi default
    wk.jobIds.foldl (fun n id =>
      let (shown, n) := n.rename id
      match wk.job? id with
      | none => n
      | some j => (j.executorIds.zip (executorPlaces wi shown j)).foldl
          (fun n (e, place) => n.label e place) n) n) n

/-- Answers the operations in order, labelling executors after each operation; returns the
answers, or why they stopped, with how identifiers are replaced. -/
def clusterOps (addressOf : String → Option String) (listening master : Bool) :
    List Json → World → Bool → Uuid.Naming → Step (List Json) × Uuid.Naming
  | [], _, _, n => (pure [], n)
  | op :: rest, w, pooled, n =>
    match clusterStep addressOf listening master op w pooled with
    | .error e => (throw e, n)
    | .ok (answer, w, pooled) =>
      let (more, n) := clusterOps addressOf listening master rest w pooled (nameExecutors w n)
      (more.map (answer :: ·), n)

def replaceAll (s pattern replacement : String) : String :=
  if pattern.isEmpty then s else replacement.intercalate (s.splitOn pattern)

mutual
def mapStrings (f : String → String) : Json → Json
  | .str s => .str (f s)
  | .arr xs => .arr (mapItems f xs)
  | .obj ms => .obj (mapMembers f ms)
  | j => j

def mapItems (f : String → String) : List Json → List Json
  | [] => []
  | x :: xs => mapStrings f x :: mapItems f xs

def mapMembers (f : String → String) : List (String × Json) → List (String × Json)
  | [] => []
  | (k, v) :: ms => (f k, mapStrings f v) :: mapMembers f ms
end

/-- Masks the number after every `task ` (one or more decimal digits, wherever it stands) as
`N`: the numbers a thread pool gives its tasks differ from run to run. -/
def maskTaskNumbers (cs : List Char) : List Char :=
  match cs with
  | 't' :: 'a' :: 's' :: 'k' :: ' ' :: d :: rest =>
    if d.isDigit then "task N".toList ++ maskTaskNumbers (rest.dropWhile Char.isDigit)
    else 't' :: maskTaskNumbers ('a' :: 's' :: 'k' :: ' ' :: d :: rest)
  | c :: rest => c :: maskTaskNumbers rest
  | [] => []
termination_by cs.length
decreasing_by
  all_goals simp only [List.length_cons]
  · have := (List.dropWhile_suffix Char.isDigit (l := rest)).length_le
    omega
  · omega
  · omega

def maskTaskText (s : String) : String := String.ofList (maskTaskNumbers s.toList)

def replacePort (s : String) (port : String) (name : String) : String :=
  let parts := s.splitOn port
  match parts with
  | [] => s
  | first :: rest =>
    let step (acc : String × Bool) (part : String) : String × Bool :=
      let (out, _) := acc
      let before := out.toList.getLast?.map Char.isDigit
      let after := part.toList.head?.map Char.isDigit
      if before = some true || after = some true then (out ++ port ++ part, true)
      else (out ++ name ++ part, true)
    (rest.foldl step (first, true)).1

/-- Names listening ports back in a string: an address becomes `{name}`, a port alone
`{port:name}`. -/
def nameBackText (ports : List (String × Nat)) (s : String) : String :=
  ports.foldl (fun s (name, port) =>
    replacePort (replaceAll s s!"127.0.0.1:{port}" s!"\x7b{name}\x7d") (toString port)
      s!"\x7bport:{name}\x7d") s

mutual
def nameBack (ports : List (String × Nat)) : Json → Json
  | .nat n => match ports.find? (·.2 = n) with
    | some (name, _) => .str s!"\x7bport:{name}\x7d"
    | none => .nat n
  | .str s => .str (nameBackText ports s)
  | .arr xs => .arr (nameBackItems ports xs)
  | .obj ms => .obj (nameBackMembers ports ms)
  | j => j

def nameBackItems (ports : List (String × Nat)) : List Json → List Json
  | [] => []
  | x :: xs => nameBack ports x :: nameBackItems ports xs

def nameBackMembers (ports : List (String × Nat)) : List (String × Json) → List (String × Json)
  | [] => []
  | (k, v) :: ms => (k, nameBack ports v) :: nameBackMembers ports ms
end

def retriesOf (j : Json) (k : String) (d : Nat) : Step Nat := do
  let n ← countOr j k d
  if n > Text.wordMax 32 then throw (.malformed s!"{k} must fit u32")
  return n

/-- A network of workers from a request, with the names of its listening ports when its workers
listen locally. How hand-overs travel is read first; workers that listen locally then read
whether a master listens too, how its address is written, and where the first status beacon goes
(`w0`, which the first worker must exist for, or `dead`). Then there must be some workers; the
pool and retry settings are read next, then each worker: unless they listen locally its port,
then its storage directory and, unless they listen locally, its address. -/
def clusterWorld (j : Json) (disk : Storage) : Step (World × List (String × Nat) × Bool) := do
  let duplicate ← flagOr j "duplicate_eos" false
  let listening := (← textOr j "transport" "loopback") = "http"
  let master ← if listening then flagOr j "master" false else pure false
  if listening then
    let _ ← flagOr j "master_scheme" false
    let beacon ← text? j "beacon_to"
    let specs ← items j "workers"
    match beacon with
    | none | some "dead" => pure ()
    | some "w0" => if specs.isEmpty then throw (.crashed (outOfRange 0 0))
    | some other => throw (.malformed s!"unknown beacon_to '{other}'")
  let specs ← items j "workers"
  if specs.isEmpty then throw (.malformed "cluster needs workers")
  let threads := max 1 (← countOr j "pool_size" 1)
  let _ ← retriesOf j "router_retries" 1
  let _ ← retriesOf j "push_retries" 0
  if listening then
    let first := if master then portBase + 1 else portBase
    let ports := (List.range specs.length).map fun i => (s!"w{i}", first + i)
    let ports := (if master then [("master", portBase)] else []) ++ ports ++
      [("dead", first + specs.length)]
    let workers ← (List.range specs.length).mapM fun i => do
      let spec := specs.getD i .null
      let port := first + i
      let storage ← text? spec "storage"
      return ({ port, address := s!"http://127.0.0.1:{port}", storage, threads := 1 } : Worker)
    return ({ workers, disk, link := .unreachable }, ports, master)
  else
    let workers ← (List.range specs.length).mapM fun i => do
      let spec := specs.getD i .null
      let port ← countOr spec "port" (8001 + i)
      if port > Text.wordMax 16 then throw (.malformed "port must fit u16")
      let storage ← text? spec "storage"
      let address ← text spec "address"
      return ({ port, address, storage, threads } : Worker)
    return ({ workers, disk, link := .loopback duplicate }, [], false)
where
  portBase : Nat := 41000

/-- A network of workers driven by operations, and the identifiers named in job ids while they
ran. The working directory is set up first. Listening ports are named back in the answer,
failures included; task numbers are masked in the answers of operations, but not in a failure
that stops them. -/
def clusterAnswer (j : Json) : Json × Uuid.Naming :=
  let setup : Step (World × List (String × Nat) × Bool × List Json) := do
    let disk ← storageOf j
    let (w, ports, master) ← clusterWorld j disk
    let place (s : String) : String := ports.foldl (fun s (name, port) =>
      replaceAll s s!"\x7b{name}\x7d" s!"127.0.0.1:{port}") s
    return (w, ports, master, (← items j "ops").map (mapStrings place))
  match setup with
  | .error e => (e.toJson, {})
  | .ok (w, ports, master, ops) =>
    let addressOf (target : String) : Option String :=
      (ports.find? (·.1 = target)).map fun (_, port) => s!"127.0.0.1:{port}"
    let (r, named) := clusterOps addressOf (!ports.isEmpty) master ops w false {}
    match r with
    | .ok answers => (mapStrings maskTaskText (nameBack ports (ok (.arr answers))), named)
    | .error e => (nameBack ports e.toJson, named)

end Dataflow.Script
