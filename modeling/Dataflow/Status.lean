import Dataflow.Phase
import Dataflow.Json.Write
import Dataflow.Keyed
import Dataflow.Fault
/-!
Status reports. A worker reports its port, the phase and id of its latest job, the keys it has
read and written, and up to a hundred results. The beacon a worker sends to the master is the
same report with the results flattened into the text `[(k, v), (k, v)]`. The master's status
board keeps the latest beacon of every worker address, in address order, and offers the active
addresses as a worker list `[a,b]`.
-/
namespace Dataflow

structure WorkerStatus where
  port : Nat
  phase : Phase
  job : String
  keysRead : Nat
  keysWritten : Nat
  results : List (String × String)
  deriving DecidableEq, Repr, Inhabited

structure StatusBeacon where
  port : Nat
  phase : Phase
  job : String
  keysRead : Nat
  keysWritten : Nat
  results : String
  deriving DecidableEq, Repr, Inhabited

def portMax : Nat := 65535

def countMax : Nat := Nat.pow 2 64 - 1

namespace WorkerStatus

def resultLimit : Nat := 100

def idle (port : Nat) : WorkerStatus := ⟨port, .idle, "None", 0, 0, []⟩

def beacon (s : WorkerStatus) : StatusBeacon :=
  { s with results := "[" ++ ", ".intercalate (s.results.map fun (k, v) => s!"({k}, {v})") ++ "]" }

def toJson (s : WorkerStatus) : Json :=
  .obj [("port", .nat s.port), ("status", .str s.phase.name), ("job", .str s.job),
    ("keysRead", .nat s.keysRead), ("keysWritten", .nat s.keysWritten),
    ("results", .arr (s.results.map fun (k, v) => .strs [k, v]))]

def shape : Json.Shape :=
  .record "struct WorkerStatus" [("port", .unsigned "u16" portMax, none), ("status", Phase.shape, none),
    ("job", .string, none), ("keysRead", .unsigned "u64" countMax, none),
    ("keysWritten", .unsigned "u64" countMax, none), ("results", .seq (.pair .string .string), none)]

def countOf (j : Json) (k : String) : Nat :=
  match j.field? k with
  | some (.nat n) => n
  | _ => 0

def textOf (j : Json) (k : String) : String :=
  match j.field? k with
  | some (.str s) => s
  | _ => ""

def ofForm (j : Json) : WorkerStatus :=
  { port := countOf j "port", phase := Phase.ofForm ((j.field? "status").getD .null)
    job := textOf j "job", keysRead := countOf j "keysRead", keysWritten := countOf j "keysWritten"
    results := match j.field? "results" with
      | some (.arr items) => items.map fun
        | .arr [.str k, .str v] => (k, v)
        | _ => ("", "")
      | _ => [] }

def readJson (j : Json) : Except ReadError WorkerStatus := (shape.readValue j).map ofForm

end WorkerStatus

namespace StatusBeacon

def toJson (b : StatusBeacon) : Json :=
  .obj [("port", .nat b.port), ("status", .str b.phase.name), ("job", .str b.job),
    ("keysRead", .nat b.keysRead), ("keysWritten", .nat b.keysWritten), ("results", .str b.results)]

def shape : Json.Shape :=
  .record "struct StatusBeacon" [("port", .unsigned "u16" portMax, none), ("status", Phase.shape, none),
    ("job", .string, none), ("keysRead", .unsigned "u64" countMax, none),
    ("keysWritten", .unsigned "u64" countMax, none), ("results", .string, none)]

def ofForm (j : Json) : StatusBeacon :=
  { port := WorkerStatus.countOf j "port", phase := Phase.ofForm ((j.field? "status").getD .null)
    job := WorkerStatus.textOf j "job", keysRead := WorkerStatus.countOf j "keysRead"
    keysWritten := WorkerStatus.countOf j "keysWritten", results := WorkerStatus.textOf j "results" }

def readJson (j : Json) : Except ReadError StatusBeacon := (shape.readValue j).map ofForm

end StatusBeacon

structure StatusBoard where
  reports : List (String × StatusBeacon) := []
  deriving DecidableEq, Repr, Inhabited

namespace StatusBoard

def record (b : StatusBoard) (address : String) (beacon : StatusBeacon) : StatusBoard :=
  ⟨Keyed.insert address beacon b.reports⟩

def workerList? (b : StatusBoard) : Option String :=
  if b.reports.isEmpty then none else some ("[" ++ ",".intercalate (b.reports.map (·.1)) ++ "]")

end StatusBoard

end Dataflow
