import Dataflow.Script.Request
import Dataflow.Status
/-!
Requests on status reports: a worker's report and its beacon, and the master's board.
-/
namespace Dataflow.Script

/-- A report, idle at the port in `port` (which must fit 16 bits; a `null` there is refused, not
taken for an absent port) or read from JSON, and its beacon. -/
def workerStatusAnswer (j : Json) : Step Json := do
  let s ← if ← flagOr j "idle" false then do
      let port ← match j.field? "port" with
        | none => pure 0
        | some v => match countValue? v with
          | some n => pure n
          | none => wrongType "port" "an unsigned integer"
      if port > Text.wordMax 16 then throw (.malformed "port must fit u16")
      pure (.ok (WorkerStatus.idle port))
    else pure ((WorkerStatus.readJson ((member? j "status").getD .null)).mapError Fault.ofRead)
  return result <| s.map fun s => .obj [("json", s.toJson), ("beacon", s.beacon.toJson)]

/-- Records, in order, the beacon of each record on a board. A record's beacon is read before
its address; the first beacon that cannot be read ends the recording. -/
def recordAll (b : StatusBoard) : List Json → Step (Except Fault StatusBoard)
  | [] => pure (.ok b)
  | r :: rest => do
    match StatusBeacon.readJson ((member? r "beacon").getD .null) with
    | .error e => pure (.error (Fault.ofRead e))
    | .ok beacon => recordAll (b.record (← text r "address") beacon) rest

def statusBoardAnswer (j : Json) : Step Json := do
  let board ← recordAll {} (← items j "records")
  return result do
    let board ← board
    return .obj [("active", .arr (board.reports.map fun (a, b) =>
        .obj [("address", .str a), ("beacon", b.toJson)])),
      ("worker_list", Json.strOpt board.workerList?)]

end Dataflow.Script
