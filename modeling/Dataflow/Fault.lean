import Dataflow.Json.Shape
/-!
Faults: why an operation of the runtime did not succeed. Each fault has a stable code, a message,
and a retry class: a destination not wired yet, a peer answering 5xx, 408 or 429, a dropped
connection (status 0), a timeout and an I/O failure are worth retrying; an execution fault is
retryable exactly when its cause is. A fault is written to JSON as an object with the variant
name as its one key (a unit variant as the bare name); the cause of an execution fault is not
written.
-/
namespace Dataflow

inductive Fault where
  | config (message : String)
  | componentNotFound (what : String)
  /-- A data tuple delivered to an executor that had already finished. -/
  | protocolViolation (executor source : String)
  /-- A stream of a job whose router is not wired on the receiving worker. -/
  | routerNotReady (job stream : String)
  | jobNotFound (job : String)
  | http (status : Nat) (message : String)
  | timeout (message : String)
  | serialization (message : String)
  | io (message : String)
  | execution (context : String) (cause : Option Fault)
  | shuttingDown
  deriving Inhabited, Repr

namespace Fault

def message : Fault → String
  | config m => s!"Configuration error: {m}"
  | componentNotFound m => s!"Component not found: {m}"
  | protocolViolation e s =>
    s!"Protocol violation: executor {e} received data from {s} after the stream had ended"
  | routerNotReady j s => s!"Router for stream '{s}' of job '{j}' is not registered"
  | jobNotFound j => s!"Job not found: {j}"
  | http status m => s!"HTTP error: {status} - {m}"
  | timeout m => s!"Timeout error: {m}"
  | serialization m => s!"Serialization error: {m}"
  | io m => s!"IO error: {m}"
  | execution c _ => s!"Execution error: {c}"
  | shuttingDown => "Cluster is shutting down"

def code : Fault → String
  | config _ => "CONFIG_ERROR"
  | componentNotFound _ => "COMPONENT_NOT_FOUND"
  | protocolViolation _ _ => "PROTOCOL_VIOLATION"
  | routerNotReady _ _ => "ROUTER_NOT_READY"
  | jobNotFound _ => "JOB_NOT_FOUND"
  | http _ _ => "HTTP_ERROR"
  | timeout _ => "TIMEOUT_ERROR"
  | serialization _ => "SERIALIZATION_ERROR"
  | io _ => "IO_ERROR"
  | execution _ _ => "EXECUTION_ERROR"
  | shuttingDown => "SHUTTING_DOWN"

def retryable : Fault → Bool
  | routerNotReady _ _ => true
  | http status _ => status ≥ 500 ∨ status = 429 ∨ status = 408 ∨ status = 0
  | timeout _ => true
  | io _ => true
  | execution _ (some cause) => cause.retryable
  | _ => false

/-- The HTTP status a worker answers a failed request with. An execution fault means the job
has already failed there, so it is answered with 422, which a sender does not retry. -/
def httpStatus : Fault → Nat
  | jobNotFound _ => 404
  | routerNotReady _ _ | shuttingDown => 503
  | config _ | componentNotFound _ | serialization _ => 400
  | protocolViolation _ _ => 409
  | timeout _ => 504
  | http _ _ => 502
  | execution _ _ => 422
  | io _ => 500

def fail (context : String) : Fault := execution context none

def ofRead (e : ReadError) : Fault := serialization e.text

def toJson : Fault → Json
  | config m => .obj [("Config", .str m)]
  | componentNotFound m => .obj [("ComponentNotFound", .str m)]
  | protocolViolation e s =>
    .obj [("ProtocolViolation", .obj [("executor_id", .str e), ("source_executor", .str s)])]
  | routerNotReady j s => .obj [("RouterNotReady", .obj [("job_id", .str j), ("stream", .str s)])]
  | jobNotFound j => .obj [("JobNotFound", .str j)]
  | http status m => .obj [("Http", .obj [("status", .nat status), ("message", .str m)])]
  | timeout m => .obj [("Timeout", .str m)]
  | serialization m => .obj [("Serialization", .str m)]
  | io m => .obj [("Io", .str m)]
  | execution c _ => .obj [("Execution", .obj [("context", .str c)])]
  | shuttingDown => .str "ShuttingDown"

def shape : Json.Shape :=
  .choice "StormError" [
    ("Config", .string), ("ComponentNotFound", .string),
    ("ProtocolViolation", .record "struct variant StormError::ProtocolViolation"
      [("executor_id", .string, none), ("source_executor", .string, none)]),
    ("RouterNotReady", .record "struct variant StormError::RouterNotReady"
      [("job_id", .string, none), ("stream", .string, none)]),
    ("JobNotFound", .string),
    ("Http", .record "struct variant StormError::Http"
      [("status", .unsigned "u16" 65535, none), ("message", .string, none)]),
    ("Timeout", .string), ("Serialization", .string), ("Io", .string),
    ("Execution", .record "struct variant StormError::Execution" [("context", .string, none)]),
    ("ShuttingDown", .unit)]

def textOf (j : Json) (k : String) : String :=
  match j.field? k with
  | some (.str s) => s
  | _ => ""

def ofForm (j : Json) : Fault :=
  match j with
  | .obj [("Config", .str m)] => config m
  | .obj [("ComponentNotFound", .str m)] => componentNotFound m
  | .obj [("ProtocolViolation", p)] => protocolViolation (textOf p "executor_id") (textOf p "source_executor")
  | .obj [("RouterNotReady", p)] => routerNotReady (textOf p "job_id") (textOf p "stream")
  | .obj [("JobNotFound", .str m)] => jobNotFound m
  | .obj [("Http", p)] =>
    http (match p.field? "status" with | some (.nat n) => n | _ => 0) (textOf p "message")
  | .obj [("Timeout", .str m)] => timeout m
  | .obj [("Serialization", .str m)] => serialization m
  | .obj [("Io", .str m)] => io m
  | .obj [("Execution", p)] => execution (textOf p "context") none
  | _ => shuttingDown

def readJson (j : Json) : Except ReadError Fault := (shape.readValue j).map ofForm

end Fault

/-- A recorded failure: code, message, the job and executor it belongs to, and whether it carries
a time stamp (every recorded failure does). -/
structure FaultReport where
  code : String
  message : String
  job : Option String
  executor : Option String
  deriving Inhabited, Repr

def FaultReport.ofFault (job executor : Option String) (f : Fault) : FaultReport :=
  { code := f.code, message := f.message, job, executor }

/-- A failed runtime check (an arithmetic overflow, an index out of range), which ends everything. -/
structure Crash where
  message : String
  deriving Inhabited, Repr

end Dataflow
