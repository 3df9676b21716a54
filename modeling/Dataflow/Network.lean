import Dataflow.Worker
/-!
The network: workers, the storage they share, and the link that carries tuples between them.
Everything an executor does happens here, synchronously and depth first: a tuple emitted by an
executor is routed, delivered to each destination in turn and processed there, including its own
emissions, before the next destination is served; the first failure stops the emission and is
returned to the emitter.

A link either records each hand-over and fails the ones a script names, or delivers it straight
to the worker listening at the address (optionally repeating the ends of stream of a delivered
batch), or refuses every connection. The hand-overs made are kept, in the order they were begun.

Delivery nests once per executor reached. The nesting is bounded by the number of bolt executors
on the network, which a chain of subscriptions without a cycle never passes; the bound keeps every
computation finite.
-/
namespace Dataflow

/-- A scripted failure: hand-over number `call` (any, if absent) to `address` (any, if absent)
fails with `fault`. -/
structure FailRule where
  call : Option Nat
  address : Option String
  fault : Fault
  deriving Inhabited

inductive Link where
  | recorded (rules : List FailRule)
  /-- Delivered to the worker at the address; when asked, the ends of stream of each delivery
  are handed to it a second time, unlogged. -/
  | loopback (repeatEos : Bool)
  | unreachable
  deriving Inhabited

structure World where
  workers : List Worker
  disk : Storage := {}
  link : Link
  handovers : List Delivery := []
  serial : Nat := 0
  made : Nat := 0
  deriving Inhabited

def outOfRange (len index : Nat) : String :=
  s!"index out of bounds: the len is {len} but the index is {index}"

/-- A computation on the network that may fail with a fault (keeping what it changed) or crash. -/
abbrev Run := ExceptT Fault (StateT World (Except Crash))

structure Place where
  worker : Nat
  job : String
  deriving DecidableEq, Repr, Inhabited

namespace Run

def crash {α : Type} (message : String) : Run α := ExceptT.lift (StateT.lift (.error ⟨message⟩))

def worker (i : Nat) : Run Worker := do
  let ws := (← get).workers
  match ws[i]? with
  | some w => pure w
  | none => crash (outOfRange ws.length i)

def modifyWorker (i : Nat) (f : Worker → Worker) : Run Unit :=
  modify fun s => { s with workers := s.workers.modify i f }

def job (p : Place) : Run Job := do
  match (← worker p.worker).job? p.job with
  | some j => pure j
  | none => crash s!"no job {p.job}"

def modifyJob (p : Place) (f : Job → Job) : Run Unit := modifyWorker p.worker (·.modifyJob p.job f)

def modifyContext (p : Place) (f : JobContext → JobContext) : Run Unit :=
  modifyJob p fun j => { j with context := f j.context }

def failJob (p : Place) (executor : Option String) (f : Fault) : Run Unit :=
  modifyContext p (·.fail executor f)

def bolt (p : Place) (i : Nat) : Run BoltExecutor := do
  match (← job p).bolts[i]? with
  | some b => pure b
  | none => crash s!"no bolt {i}"

def modifyBolt (p : Place) (i : Nat) (f : BoltExecutor → BoltExecutor) : Run Unit :=
  modifyJob p fun j => { j with bolts := j.bolts.modify i f }

def spout (p : Place) (i : Nat) : Run SpoutExecutor := do
  match (← job p).spouts[i]? with
  | some s => pure s
  | none => crash s!"no spout {i}"

def modifySpout (p : Place) (i : Nat) (f : SpoutExecutor → SpoutExecutor) : Run Unit :=
  modifyJob p fun j => { j with spouts := j.spouts.modify i f }

def router (p : Place) (stream : String) : Run Router := do
  match (← job p).router? stream with
  | some r => pure r
  | none => crash s!"no router {stream}"

def setRouter (p : Place) (stream : String) (r : Router) : Run Unit := modifyJob p (·.setRouter stream r)

def begin (d : Delivery) : Run Nat :=
  modifyGet fun s => (s.handovers.length, { s with handovers := s.handovers ++ [d] })

def updateDisk (f : Storage → Except IoError Storage) : Run Unit := do
  match f (← get).disk with
  | .ok d => modify fun s => { s with disk := d }
  | .error e => throw e.toFault

end Run

/-- Delivery of a tuple to a bolt executor (by job and position); `true` while it expects more. -/
abbrev Deliver := Place → Nat → Tuple → Run Bool

/-- The worker listening at an address. Workers register their addresses in order, a later
registration replacing an earlier one, so when several workers claim one address the last of
them is reached. -/
def World.workerAt? (s : World) (address : String) : Option Nat :=
  ((List.range s.workers.length).filter fun i => (s.workers.getD i default).address = address).getLast?

section Flow

variable (deliver : Deliver)

def routeLocally (p : Place) (stream : String) (t : Tuple) : Run Unit := do
  let r ← Run.router p stream
  let (slots, r') := r.routeLocally t
  Run.setRouter p stream r'
  for s in slots do
    match s with
    | .mine i => let _ ← deliver p (r.locals.getD i 0) t
    | .peer _ => pure ()

/-- Takes one tuple pushed by a peer for a stream of a job: an end of stream already delivered from
the same source is dropped, and one delivered is marked; a failure fails the job here and is
returned. -/
def takeTuple (p : Place) (stream : String) (t : Tuple) : Run Unit := do
  if t.endOfStream then
    if (← Run.worker p.worker).eosDelivered p.job stream t.source then return
    try routeLocally deliver p stream (Tuple.eos t.source)
    catch e => Run.failJob p none e; throw e
    Run.modifyWorker p.worker (·.markEos p.job stream t.source)
  else
    Run.modifyContext p (·.countReceived stream)
    try routeLocally deliver p stream t
    catch e => Run.failJob p none e; throw e

/-- Takes tuples pushed by a peer for a stream: the job is the one named or the one defined last;
the router must be wired; a failed job refuses them; the tuples are taken in order and the first
failure stops them. -/
def push (w : Nat) (job? : Option String) (stream : String) (tuples : List Tuple) : Run Unit := do
  let wk ← Run.worker w
  let id ← match job? with
    | some id => pure id
    | none => match wk.latest? with
      | some j => pure j.context.job
      | none => throw (.jobNotFound "<latest>")
  match (wk.job? id).bind (·.router? stream) with
  | none => throw (.routerNotReady id stream)
  | some _ => pure ()
  let j ← (MonadExcept.ofExcept (wk.job id) : Run Job)
  if j.context.failed then throw (.fail s!"job {id} has failed on port {wk.port}")
  for t in tuples do
    takeTuple deliver ⟨w, id⟩ stream t

def refusedText (url : String) : String :=
  s!"Connection error: error sending request for url ({url})"

def transmit (d : Delivery) : Run Unit := do
  match (← get).link with
  | .recorded rules =>
    let n ← Run.begin d
    let hit := rules.find? fun r =>
      (r.call.all (· = n)) && (r.address.all (· = d.address))
    match hit with
    | some r => throw r.fault
    | none => pure ()
  | .loopback repeatEos =>
    let _ ← Run.begin d
    match (← get).workerAt? d.address with
    | none => throw (.http 0 s!"no worker at {d.address}")
    | some w =>
      push deliver w (some d.job) d.stream d.tuples
      let ends := d.tuples.filter (·.endOfStream)
      if repeatEos && !ends.isEmpty then
        push deliver w (some d.job) d.stream ends
  | .unreachable =>
    throw (.http 0 (refusedText (pushUrl d.address d.stream d.job (d.kind = .batch))))

def sendTo (p : Place) (stream : String) (j : Nat) (t : Tuple) : Run Unit := do
  let r ← Run.router p stream
  let (d, s) := (r.senders.getD j default).send t
  Run.setRouter p stream { r with senders := r.senders.set j s }
  match d with
  | some d => transmit deliver d
  | none => pure ()

/-- Routes a tuple emitted on this worker: to the chosen local executors and peers, in order. -/
def routeOut (p : Place) (stream : String) (t : Tuple) : Run Unit := do
  let t := if t.endOfStream then Tuple.eos t.source else t
  let r ← Run.router p stream
  let (slots, r') := r.route t
  Run.setRouter p stream r'
  for s in slots do
    match s with
    | .mine i => let _ ← deliver p (r.locals.getD i 0) t
    | .peer j => sendTo deliver p stream j t

/-- Who emits: an executor of a job, its id and output fields, and the streams it feeds. -/
structure Emitter where
  place : Place
  id : String
  fields : Fields
  routes : List String

def emit (e : Emitter) (values : List Datum) : Run Unit := do
  let t ← MonadExcept.ofExcept (Tuple.make e.fields values e.id)
  for stream in e.routes do
    routeOut deliver e.place stream t

def emitEos (e : Emitter) : Run Unit := do
  for stream in e.routes do
    routeOut deliver e.place stream (Tuple.eos e.id)

def perform (e : Emitter) (effects : List Effect) : Run Unit := do
  for eff in effects do
    match eff with
    | .setPhase ph => Run.modifyContext e.place (·.setPhase ph)
    | .countMapInput => Run.modifyContext e.place fun c => { c with mapInputs := c.mapInputs + 1 }
    | .countReduceInput => Run.modifyContext e.place fun c => { c with reduceInputs := c.reduceInputs + 1 }
    | .write k v =>
      Run.modifyContext e.place (·.countOutput)
      emit deliver e [.text k, .text v]
    | .emit values => emit deliver e values
    | .record k v => Run.modifyContext e.place (·.record k v)
    | .save dir lines =>
      Run.updateDisk (·.makeDirs dir)
      Run.updateDisk (·.writeFile (joinPath dir "output.txt") (Text.utf8 (String.join (lines.map (· ++ "\n")))))
    | .raise f => throw f
    | .overflow m => Run.crash m

/-- Delivers one tuple to a bolt executor: an end of stream is a vote, and the vote that completes
the tally finishes the component and forwards one end of stream; data after that is a protocol
violation that fails the job. The answer says whether the executor expects more. -/
def boltExecute (p : Place) (i : Nat) (t : Tuple) : Run Bool := do
  let b ← Run.bolt p i
  let e : Emitter := ⟨p, b.id, b.logic.fields, b.routes⟩
  if t.endOfStream then
    if b.finalized then return false
    let (won, tally) := b.tally.vote t.source
    Run.modifyBolt p i fun b => { b with tally }
    if !won then return true
    let (effects, logic) := b.logic.onFinish
    Run.modifyBolt p i fun b => { b with finalized := true, logic }
    perform deliver e effects
    emitEos deliver e
    Run.modifyBolt p i fun b => { b with sentEos := true }
    Run.modifyContext p (·.finishOne)
    return false
  if b.finalized then
    let f := Fault.protocolViolation b.id t.source
    Run.failJob p (some b.id) f
    throw f
  let (effects, logic) := b.logic.onTuple t
  Run.modifyBolt p i fun b => { b with logic }
  perform deliver e effects
  return true

/-- One step of a spout executor: `true` while more may follow; when its component has nothing
more, it is done and forwards one end of stream. -/
def spoutStep (p : Place) (i : Nat) : Run Bool := do
  let s ← Run.spout p i
  if s.done then return false
  let (effects, more, logic) := s.logic.next
  Run.modifySpout p i fun s => { s with logic }
  let e : Emitter := ⟨p, s.id, s.logic.fields, s.routes⟩
  perform deliver e effects
  if more then return true
  Run.modifySpout p i fun s => { s with done := true }
  emitEos deliver e
  Run.modifySpout p i fun s => { s with sentEos := true }
  Run.modifyContext p (·.finishOne)
  return false

end Flow

def deliverWithin : Nat → Deliver
  | 0, _, _, _ => Run.crash "delivery nested too deeply"
  | n + 1, p, i, t => boltExecute (deliverWithin n) p i t

def World.boltCount (s : World) : Nat :=
  s.workers.foldl (fun n w => w.jobs.foldl (fun n e => n + e.2.bolts.length) n) 0

/-- Delivery of a tuple to a bolt executor. Each nested delivery reaches an executor of a node that
subscribes to the node of the one before, so where subscriptions have no cycle the nesting stays
within the number of bolt executors on the network. -/
def deliver : Deliver := fun p i t => do
  deliverWithin (← get).boltCount p i t

end Dataflow
