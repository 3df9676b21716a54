import Dataflow.Script.Setup
import Dataflow.Schedule
/-!
Requests that run executors: a sender towards one peer, a router over local sink executors and
peers, one bolt executor feeding a sink, and spout executors feeding a sink. Hand-overs to peers
are recorded and fail as the request scripts them. Each answer shows, step by step, what the
executors received and the state of their job.
-/
namespace Dataflow.Script

def hexDigit? (c : Char) : Option Nat :=
  if '0' ≤ c ∧ c ≤ '9' then some (c.toNat - '0'.toNat)
  else if 'a' ≤ c ∧ c ≤ 'f' then some (c.toNat - 'a'.toNat + 10)
  else if 'A' ≤ c ∧ c ≤ 'F' then some (c.toNat - 'A'.toNat + 10) else none

def startsChar (bytes : List UInt8) (i : Nat) : Bool :=
  match bytes[i]? with
  | some b => b < 0x80 || 0xC0 ≤ b
  | none => true

def hexPair (a b : UInt8) : Option Nat :=
  let digit (x : UInt8) : Option Nat := hexDigit? (Char.ofNat x.toNat)
  if a = 43 then digit b else do return (← digit a) * 16 + (← digit b)

def charAtByte (s : String) (index : Nat) : Option (Char × Nat) :=
  (s.toList.foldl (fun (acc : Option (Char × Nat) × Nat) c =>
    let (found, start) := acc
    let hit := start ≤ index ∧ index < start + c.utf8Size
    (if hit then some (c, start) else found, start + c.utf8Size)) (none, 0)).1

/-- The failure of cutting a text so that a piece ends at byte `index`, inside a character
(one beyond ASCII): the cut, the character and its bytes. -/
def cutInsideText (s : String) (index : Nat) : String :=
  match charAtByte s index with
  | none => s!"byte index {index} is out of bounds"
  | some (c, start) =>
    let stop := start + c.utf8Size
    let shown := if Text.showsAsIs c then c.toString
      else "\\u" ++ "\x7b" ++ String.ofList (Nat.toDigits 16 c.toNat) ++ "\x7d"
    s!"end byte index {index} is not a char boundary; it is inside '{shown}' (bytes {start}..{stop} of string)"

/-- Octets from hexadecimal text, read two bytes at a time from byte `i` on; cutting the text
inside a character stops everything. -/
def hexOctets (s : String) (bytes : List UInt8) : Nat → List UInt8 → Step (List UInt8)
  | i, a :: b :: rest =>
    if !startsChar bytes (i + 2) then throw (.crashed (cutInsideText s (i + 2)))
    else
      match hexPair a b with
      | some n => do return UInt8.ofNat n :: (← hexOctets s bytes (i + 2) rest)
      | none => throw (.malformed "bad hex")
  | _, _ => pure []

/-- The octets a request gives for a file: its text, or hexadecimal digits under `hex`, an even
number of bytes of them. -/
def fileBytes (content : Json) : Step (List UInt8) := do
  match content with
  | .str s => return Text.utf8 s
  | .obj _ =>
    let digits ← text content "hex"
    let bytes := Text.utf8 digits
    if bytes.length % 2 = 1 then throw (.malformed "odd hex length")
    hexOctets digits bytes 0 bytes
  | _ => throw (.malformed "file content must be a string or \x7bhex\x7d")

def setupPath (p : String) : Step String :=
  if p.isEmpty || p.startsWith "/" || (p.splitOn "/").contains ".." then
    throw (.malformed s!"path '{p}' must be relative and stay inside the work dir")
  else pure p

def setupStep (r : Except IoError Storage) : Step Storage :=
  match r with
  | .ok s => pure s
  | .error e => throw (.malformed e.message)

/-- The working directory a request sets up: each of its `dirs` made with its parents, then
each of its `files`, in name order: its path checked, its parent directories made, its content
read and written. A `files` member that is not an object sets up no file. -/
def storageOf (j : Json) : Step Storage := do
  let dirs ← texts j "dirs"
  let files := match member? j "files" with
    | some (.obj ms) => Json.asMap ms
    | _ => []
  let s ← dirs.foldlM (fun (s : Storage) d => do setupStep (s.makeDirs (← setupPath d))) {}
  files.foldlM (fun (s : Storage) (path, content) => do
    let path ← setupPath path
    let s ← match parentPath path with
      | some q => setupStep (s.makeDirs q)
      | none => pure s
    setupStep (s.writeFile path (← fileBytes content))) s

def filesJson (s : Storage) : Json :=
  .obj (s.files.map fun (path, bytes) => (path, .str (Text.lossyText bytes)))

def failRule (j : Json) : Step FailRule := do
  let call ← count? j "call"
  let address ← text? j "address"
  match member? j "error" with
  | some spec => return ⟨call, address, ← fault spec causeDepth⟩
  | none => throw (.malformed "fail entry needs error")

def deliveryJson (d : Delivery) : Json :=
  .obj [("kind", .str (if d.kind = .batch then "push_batch" else "push")), ("address", .str d.address),
    ("job", .str d.job), ("stream", .str d.stream), ("tuples", .arr (d.tuples.map Tuple.toJson))]

def infoJson (r : FaultReport) : Json :=
  .obj [("code", .str r.code), ("message", .str r.message), ("job_id", Json.strOpt r.job),
    ("executor_id", Json.strOpt r.executor), ("has_timestamp", .bool true)]

def contextMembers (c : JobContext) : List (String × Json) :=
  let (r, w) := c.progress
  [("phase", .str c.phase.name), ("map_inputs", .nat c.mapInputs), ("map_outputs", .nat c.mapOutputs),
    ("reduce_inputs", .nat c.reduceInputs), ("reduce_outputs", .nat c.reduceOutputs),
    ("progress", .arr [.nat r, .nat w]),
    ("send_outputs", .obj (c.received.map fun (k, n) => (k, .nat n))),
    ("results", .arr (c.results.map fun (k, v) => .strs [k, v])),
    ("errors", .arr (c.errors.map infoJson)), ("started", .bool c.started),
    ("complete", .bool c.complete), ("failed", .bool c.failed), ("queued", .nat c.tasks.length)]

def sinkEntryJson : SinkEntry → Json
  | .tuple t => t.toJson
  | .finish => .str "FINISH"

def resultOf {α : Type} (r : Except Fault α) (enc : α → Json) : Json := result (r.map enc)

def runOn {α : Type} (w : World) (act : Run α) : Step (Except Fault α × World) :=
  match (act.run).run w with
  | .ok (r, w) => pure (r, w)
  | .error c => throw (.crashed c.message)

def soloPlace (job : String) : Place := ⟨0, job⟩

def soloWorld (job : Job) (disk : Storage) (rules : List FailRule) : World :=
  { workers := [{ port := 0, address := "", jobs := [(job.context.job, job)], lastJob := some job.context.job }]
    disk, link := .recorded rules }

/-- A sender towards one peer, fed tuples one by one. The failure rules of the hand-overs are
read first, then the peer's address, the job, the stream and the batch size. -/
def senderAnswer (j : Json) : Step Json := do
  let rules ← (← items j "fail").mapM failRule
  let address ← textOr j "address" "http://w1"
  let jobId ← textOr j "job" "job"
  let stream ← textOr j "stream" "S"
  let batch ← countOr j "batch_size" 1
  let sends ← items j "sends"
  let router := Router.make stream .broadcast [] [Sender.make address jobId stream batch] 0
  let job : Job := { topology := {}, context := { job := jobId, config := {} }, routers := [(stream, router)] }
  let p := soloPlace jobId
  let (steps, _) ← sends.foldlM (fun (acc : List Json × World) spec => do
    let (out, w) := acc
    let before := w.handovers.length
    let t ← tuple spec
    let (r, w) ← match t with
      | .ok t => runOn w (sendTo deliver p stream 0 t)
      | .error _ => pure (.ok (), w)
    let res := match t with
      | .ok _ => resultOf r fun _ => Json.null
      | .error f => .obj [("tuple", faultJson f)]
    let held := match (w.workers.head?.bind (·.job? jobId)).bind (·.router? stream) with
      | some r => (r.senders.headD default).buffered
      | none => 0
    let step := Json.obj [("result", res), ("buffered", .nat held),
      ("calls", .arr ((w.handovers.drop before).map deliveryJson))]
    return (out ++ [step], w)) (([] : List Json), soloWorld job {} rules)
  return ok (.obj [("address", .str address), ("steps", .arr steps)])

def tupleFailure (f : Fault) : Json := .obj [("tuple", faultJson f)]

def receivedSince (b : BoltExecutor) (seen : Nat) : List Json := (b.received.drop seen).map sinkEntryJson

def routerOp (p : Place) (stream : String) (w : World) (op : Json) : Step (Json × World) := do
  let act (t : Tuple) (locally : Bool) : Step (Json × World) := do
    let (r, w) ← runOn w (if locally then routeLocally deliver p stream t else routeOut deliver p stream t)
    return (resultOf r fun _ => Json.null, w)
  match ← text op "do" with
  | "execute" | "execute_locally" | "key_for" =>
    let kind ← text op "do"
    let some spec := member? op "tuple" | throw (.malformed "op needs tuple")
    match ← tuple spec with
    | .error f => return (tupleFailure f, w)
    | .ok t =>
      if kind = "key_for" then
        let key := match (w.workers.head?.bind (·.job? p.job)).bind (·.router? stream) with
          | some r => r.keyFor t
          | none => ""
        return (ok (.str key), w)
      act t (kind = "execute_locally")
  | "eos" => act (Tuple.eos (← text op "source")) false
  | "eos_locally" => act (Tuple.eos (← text op "source")) true
  | other => throw (.malformed s!"unknown router op '{other}'")

/-- A router over local sink executors and recorded peers, driven by operations. The request
is read in the order the router is put together: the grouping, the stream and job, the local
executors and their votes, the failure rules of the hand-overs, the batch size, the peers, the
position among the workers, and then the operations. -/
def routerAnswer (j : Json) : Step Json := do
  let groupingForm := (member? j "grouping").getD (.obj [("type", .str "shuffle")])
  match Grouping.readJson groupingForm with
  | .error e => throw (.malformed s!"bad grouping: {e.text}")
  | .ok grouping =>
  let stream ← textOr j "stream" "S"
  let jobId ← textOr j "job" "job"
  let localCount ← countOr j "locals" 1
  let expected ← countOr j "expected_votes" 1
  let rules ← (← items j "fail").mapM failRule
  let batch ← countOr j "batch_size" 1
  let remotes ← texts j "remotes"
  let position ← countOr j "local_position" 0
  let ops ← items j "ops"
  let sinks := (List.range localCount).map fun i =>
    ({ id := s!"local#{i}", node := stream, logic := .sink [], tally := { expected } } : BoltExecutor)
  let senders := remotes.map fun a => Sender.make a jobId stream batch
  let router := Router.make stream grouping (List.range localCount) senders position
  let context : JobContext := (({ job := jobId, config := {} } : JobContext).expect localCount).start.2
  let job : Job := { topology := {}, context, bolts := sinks, routers := [(stream, router)] }
  let p := soloPlace jobId
  let (steps, w) ← ops.foldlM (fun (acc : List Json × World) op => do
    let (out, w) := acc
    let before := w.handovers.length
    let jobBefore := (w.workers.head?.bind (·.job? jobId)).getD job
    let (res, w) ← routerOp p stream w op
    let j := (w.workers.head?.bind (·.job? jobId)).getD job
    let r := (j.router? stream).getD router
    let step := Json.obj [("result", res),
      ("delivered", .arr ((j.bolts.zip jobBefore.bolts).map fun (b, b0) =>
        .arr (receivedSince b b0.received.length))),
      ("calls", .arr ((w.handovers.drop before).map deliveryJson)),
      ("sent_eos", .arr (j.bolts.map fun b => .bool b.sentEos)),
      ("votes", .arr (j.bolts.map fun b => .arr [.nat b.tally.votes, .nat b.tally.expected])),
      ("buffered", .arr (r.senders.map fun s => .nat s.buffered)),
      ("failed", .bool j.context.failed), ("complete", .bool j.context.complete)]
    return (out ++ [step], w)) (([] : List Json), soloWorld job {} rules)
  let j := (w.workers.head?.bind (·.job? jobId)).getD job
  let slotText (s : Slot) : String := match s with
    | .mine i => s!"local#{i}"
    | .peer k => "remote:" ++ (senders.getD k default).address
  return ok (.obj [("stream", .str stream), ("grouping", grouping.toJson),
    ("slots", .strs (router.slots.map slotText)), ("locals", .nat localCount), ("steps", .arr steps),
    ("errors", .arr (j.context.errors.map infoJson))])

def creationFailure (j : Json) (component : String) (f : Fault) (more : List (String × Json)) :
    Step Json := do
  let flags := if ← flagOr j "registry" false then
      [("has_bolt", Json.bool (Registry.hasBolt component)), ("has_spout", .bool (Registry.hasSpout component))]
    else []
  return ok (.obj ([("create", faultJson f)] ++ more ++ flags))

def sinkStream : String := "SINK"

def executorStep (p : Place) (w : World) (step : Json) : Step (Json × World) := do
  if let some ph := member? step "set_phase" then
    let phase ← match ph with
      | .str s => match Phase.ofName? s with
        | some phase => pure phase
        | none => throw (.malformed s!"bad phase '{s}'")
      | _ => throw (.malformed "set_phase must be a string")
    let (_, w) ← runOn w (Run.modifyContext p (·.setPhase phase))
    return (.null, w)
  if let some spec := member? step "fail" then
    let f ← fault spec causeDepth
    let executor := looseText? step "executor"
    let (_, w) ← runOn w (Run.failJob p executor f)
    return (.null, w)
  match ← tuple step with
  | .error f => return (tupleFailure f, w)
  | .ok t =>
    let (r, w) ← runOn w (deliver p 0 t)
    return (resultOf r Json.bool, w)

/-- A bolt executor feeding a sink, driven by steps. The working directory is set up first,
then the configuration, the job, the component and the node are read and the bolt made; only
then are the task index, parallelism and expected votes read. -/
def executorAnswer (j : Json) : Step Json := do
  let disk ← storageOf j
  let config ← match (JobConfig.readJson ((member? j "config").getD (.obj []))) with
    | .ok c => pure c
    | .error e => return faultJson (Fault.ofRead e)
  let jobId ← textOr j "job" "job"
  let component ← text j "component"
  let node ← textOr j "node" "BOLT"
  match Registry.makeBolt component config with
  | .error f => creationFailure j component f []
  | .ok logic =>
  let _ ← countOr j "task_index" 0
  let _ ← countOr j "parallelism" 1
  let expected ← countOr j "expected_votes" 1
  let steps ← items j "steps"
  let bolt : BoltExecutor := { id := "bolt", node, logic, tally := { expected }, routes := [sinkStream] }
  let sink : BoltExecutor := { id := "sink", node := sinkStream, logic := .sink [], tally := { expected := 1 } }
  let context : JobContext := (({ job := jobId, config } : JobContext).expect 2).start.2
  let job : Job :=
    { topology := {}, context, bolts := [bolt, sink]
      routers := [(sinkStream, Router.make sinkStream .broadcast [1] [] 0)] }
  let p := soloPlace jobId
  let (answers, w) ← steps.foldlM (fun (acc : List Json × World) step => do
    let (out, w) := acc
    let before := ((w.workers.head?.bind (·.job? jobId)).getD job).bolts.getD 1 default
    let (res, w) ← executorStep p w step
    let jb := (w.workers.head?.bind (·.job? jobId)).getD job
    let b := jb.bolts.getD 0 default
    let s := jb.bolts.getD 1 default
    let answer := Json.obj [("result", res), ("emitted", .arr (receivedSince s before.received.length)),
      ("sent_eos", .bool b.sentEos), ("votes", .arr [.nat b.tally.votes, .nat b.tally.expected]),
      ("context", .obj (contextMembers jb.context))]
    return (out ++ [answer], w)) (([] : List Json), soloWorld job disk [])
  return ok (.obj [("output_fields", .strs logic.fields.names), ("steps", .arr answers),
    ("files", filesJson w.disk)])

/-- Why a tested spout could not be made: the registry refused it, or opening it failed. -/
inductive SpoutRefusal where
  | unknown (task : Nat) (f : Fault)
  | unopened (task : Nat) (f : Fault)

def openSpouts (component : String) (config : JobConfig) (jobId : String) (p : Nat) (disk : Storage) :
    Nat → List SpoutExecutor → Except SpoutRefusal (List SpoutExecutor)
  | 0, acc => .ok acc
  | fuel + 1, acc =>
    let k := acc.length
    if p ≤ k then .ok acc
    else
      match Registry.makeSpout component config with
      | .error f => .error (.unknown k f)
      | .ok plan =>
        match Registry.openSpout plan config jobId k p disk with
        | .ok logic => openSpouts component config jobId p disk fuel
            (acc ++ [{ id := s!"spout#{k}", node := "SPOUT", logic, routes := [sinkStream] }])
        | .error f => .error (.unopened k f)

/-- Spout executors feeding a sink, stepped in turn, then each once more. The working directory
is set up first, then the configuration, the component, the parallelism and the job are read;
the step limit is read once every executor is made and open. -/
def spoutAnswer (j : Json) : Step Json := do
  let disk ← storageOf j
  let config ← match (JobConfig.readJson ((member? j "config").getD (.obj []))) with
    | .ok c => pure c
    | .error e => return faultJson (Fault.ofRead e)
  let component ← textOr j "component" "file"
  let p ← countOr j "parallelism" 1
  let jobId ← textOr j "job" "job"
  match openSpouts component config jobId p disk (p + 1) [] with
  | .error (.unknown k f) => creationFailure j component f [("task", .nat k)]
  | .error (.unopened k f) => return ok (.obj [("create", faultJson f), ("task", .nat k)])
  | .ok spouts =>
  let limit ← countOr j "max_steps" 200
  let sink : BoltExecutor := { id := "sink", node := sinkStream, logic := .sink [], tally := { expected := p } }
  let context : JobContext := (({ job := jobId, config } : JobContext).expect (p + 1)).start.2
  let job : Job :=
    { topology := {}, context, spouts, bolts := [sink]
      routers := [(sinkStream, Router.make sinkStream .broadcast [0] [] 0)] }
  let place := soloPlace jobId
  let (trace, w) ← runOn (soloWorld job disk []) (traceFrom place limit (limit + 1) (List.range p) [])
  let trace := match trace with
    | .ok t => t
    | .error _ => []
  let (after, w) ← (List.range p).foldlM (fun (acc : List Json × World) k => do
    let (out, w) := acc
    let (r, w) ← runOn w (spoutStep deliver place k)
    return (out ++ [resultOf r Json.bool], w)) (([] : List Json), w)
  let jb := (w.workers.head?.bind (·.job? jobId)).getD job
  let s := jb.bolts.getD 0 default
  let fields := match spouts.head? with
    | some s => Json.strs s.logic.fields.names
    | none => .null
  return ok (.obj [("output_fields", fields),
    ("steps", .arr (trace.map fun (k, r) => .arr [.nat k, match r with
      | .ok b => .bool b
      | .error f => faultJson f])),
    ("after", .arr after), ("sent_eos", .arr (jb.spouts.map fun s => .bool s.sentEos)),
    ("emitted", .arr (s.received.map sinkEntryJson)), ("sink_sent_eos", .bool s.sentEos),
    ("complete", .bool jb.context.complete), ("phase", .str jb.context.phase.name)])

end Dataflow.Script
